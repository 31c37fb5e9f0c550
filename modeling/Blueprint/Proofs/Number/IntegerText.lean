import Blueprint.Proofs.Number.RoundTrip

/-!
# Whole numbers are written as integers

A number whose value is an integer of magnitude below `10^15` is written as that integer, its
decimal digits after a minus sign when it is negative (`render_of_integer`), which is how a
whole number is printed as a 64-bit integer. The shortest digits of such a double are the
integer's own: the doubles next to it lie closer than one, so no other integer reads back as
it, and a grid point finer than one that reads back is the integer itself. Trimmed of its
trailing zeros, every decimal worth the integer is the same decimal.
-/

namespace Blueprint.Number

open Float.Model UnpackedFloat

/-! ## Trimmed decimals -/

/-- A trimmed decimal ends in a nonzero digit, unless it is zero. -/
theorem trim_digits (d : Decimal) : d.trim.digits = 0 ∨ d.trim.digits % 10 ≠ 0 := by
  fun_induction Decimal.trim d with
  | case1 d strip ih => exact ih
  | case2 d kept =>
      by_cases zero : d.digits = 0
      · exact .inl zero
      · exact .inr fun tens => kept ⟨zero, tens⟩

/-- Digits worth as much on a lower exponent as others on a higher one are those digits
shifted. -/
theorem digits_eq_of_value_eq {a b : ℕ} {i j : ℤ} (le : i ≤ j)
    (same : (a : ℚ) * 10 ^ i = b * 10 ^ j) : a = b * 10 ^ (j - i).toNat := by
  have shift : (10 : ℚ) ^ j = 10 ^ (j - i).toNat * 10 ^ i := by
    rw [← zpow_natCast, ← zpow_add₀ (by norm_num), Int.toNat_of_nonneg (by omega)]
    congr 1
    omega
  rw [shift, ← mul_assoc] at same
  have cancelled := mul_right_cancel₀ (zpow_ne_zero i (by norm_num : (10 : ℚ) ≠ 0)) same
  exact_mod_cast cancelled

/-- Two decimals that end in nonzero digits and have the same value are the same. -/
theorem eq_of_value_eq {d d' : Decimal} (last : d.digits % 10 ≠ 0) (last' : d'.digits % 10 ≠ 0)
    (same : d.value = d'.value) : d = d' := by
  obtain ⟨a, i⟩ := d
  obtain ⟨b, j⟩ := d'
  simp only [Decimal.value] at same last last'
  -- on a lower exponent the digits would carry a factor of ten
  have noShift : ∀ {k : ℤ}, 0 < k → ∀ c : ℕ, (c * 10 ^ k.toNat) % 10 = 0 := by
    intro k positive c
    obtain ⟨l, hl⟩ : ∃ l, k.toNat = l + 1 := ⟨k.toNat - 1, by omega⟩
    rw [hl, Nat.pow_succ, ← Nat.mul_assoc, Nat.mul_mod_left]
  rcases lt_trichotomy i j with lower | equal | higher
  · exact absurd (by rw [digits_eq_of_value_eq lower.le same]; exact noShift (by omega) b) last
  · subst equal
    have digits := digits_eq_of_value_eq le_rfl same
    simp only [sub_self, Int.toNat_zero, pow_zero, mul_one] at digits
    rw [digits]
  · exact absurd (by rw [digits_eq_of_value_eq higher.le same.symm]; exact noShift (by omega) a) last'

/-- Decimals of the same nonzero value trim to the same decimal. -/
theorem trim_eq_of_value_eq {d d' : Decimal} (nonzero : d.value ≠ 0) (same : d.value = d'.value) :
    d.trim = d'.trim := by
  have trimmed : d.trim.value = d'.trim.value := by rw [value_trim, value_trim, same]
  -- a decimal worth something nonzero has nonzero digits
  have digits : ∀ {c : Decimal}, c.value ≠ 0 → c.trim.digits % 10 ≠ 0 := by
    intro c worth
    rcases trim_digits c with zero | last
    · rw [← value_trim] at worth
      simp [Decimal.value, zero] at worth
    · exact last
  exact eq_of_value_eq (digits nonzero) (digits (same ▸ nonzero)) trimmed

/-- Trimming a whole decimal keeps its positional text. -/
theorem positional_trim (d : Decimal) (pos : 0 < d.digits) (whole : 0 ≤ d.exponent) :
    d.trim.positional = d.positional := by
  fun_induction Decimal.trim d with
  | case1 d strip ih =>
      obtain ⟨digits, exponent⟩ := d
      simp only at strip pos whole ih ⊢
      obtain ⟨k, rfl⟩ : 10 ∣ digits := Nat.dvd_of_mod_eq_zero strip.2
      have kpos : 0 < k := by omega
      rw [ih (by simpa using kpos) (by omega)]
      -- a trailing zero digit moves into the zeros before the point
      simp only [Decimal.positional, Nat.mul_div_cancel_left _ (by norm_num : 0 < 10),
        show (0 : ℤ) ≤ exponent + 1 by omega, whole, if_true, digitText, zeros]
      rw [← Nat.add_zero (10 * k), ← Nat.toDigits_append_toDigits (by norm_num) kpos
        (by norm_num : 0 < 10), Nat.toDigits_zero, show (exponent + 1).toNat = exponent.toNat + 1 by
          omega, List.replicate_succ, ← String.ofList_append, ← String.ofList_append,
        List.append_assoc, List.singleton_append]
  | case2 => rfl

/-! ## The search on a whole number -/

section Search

variable {b : Binary} {N : ℕ} {s : ℤ} {d : Decimal}

/-- A grid point found on the grid `10^s` carries the exponent `s`. -/
theorem exponent_of_onGrid (found : b.onGrid s = some d) : d.exponent = s := by
  unfold Binary.onGrid at found
  dsimp only at found
  split at found
  · cases found
    unfold Binary.nearer
    split <;> rfl
  · cases found
    rfl
  · cases found
    rfl
  · cases found

/-- On a grid no coarser than one, the point below a whole magnitude is the magnitude. -/
theorem floorOnGrid_of_whole (value : (b.mantissa : ℚ) * 2 ^ b.exponent = N) (fine : s ≤ 0) :
    b.floorOnGrid s = N * 10 ^ (-s).toNat := by
  have shifted : b.mantissa * 2 ^ b.exponent.toNat = N * 2 ^ (-b.exponent).toNat := by
    have scaled := congrArg (· * (2 : ℚ) ^ (-b.exponent).toNat) value
    simp only [mul_assoc, zpow_mul_pow_toNat (by norm_num : (2 : ℚ) ≠ 0)] at scaled
    exact_mod_cast scaled
  unfold Binary.floorOnGrid
  simp only [Nat.pow_eq, show s.toNat = 0 by omega, pow_zero, Nat.mul_one, shifted]
  rw [Nat.mul_right_comm, Nat.mul_div_cancel _ (by positivity)]

variable (pos : 0 < b.mantissa) (value : (b.mantissa : ℚ) * 2 ^ b.exponent = N)
  (close : ∀ q, b.Rounds q → |q - N| < 1)
include pos value close

/-- Every grid point the search finds for a whole magnitude is worth the magnitude: on a grid of
whole steps it lies within one of it, and on a finer grid the point below it is the magnitude,
which reads back and is nearer than the point above. -/
theorem value_of_onGrid (found : b.onGrid s = some d) : d.value = N := by
  by_cases whole : 0 ≤ s
  · have near := close _ ((readsBack_iff b d).mp (readsBack_of_onGrid found))
    obtain ⟨k, hk⟩ : ∃ k : ℕ, d.value = k := ⟨d.digits * 10 ^ s.toNat, by
      rw [Decimal.value, exponent_of_onGrid found, ← Int.toNat_of_nonneg whole, zpow_natCast]
      push_cast
      rfl⟩
    rw [hk] at near ⊢
    rw [abs_sub_lt_iff] at near
    have below : k < N + 1 := by exact_mod_cast (by linarith : (k : ℚ) < N + 1)
    have above : N < k + 1 := by exact_mod_cast (by linarith : (N : ℚ) < k + 1)
    rw [show k = N by omega]
  · have floor := floorOnGrid_of_whole value (by omega : s ≤ 0)
    have exact : (⟨b.floorOnGrid s, s⟩ : Decimal).value = N := by
      rw [Decimal.value, floor]
      push_cast
      rw [mul_assoc, ← zpow_natCast, ← zpow_add₀ (by norm_num)]
      rw [show ((-s).toNat : ℤ) + s = 0 by omega, zpow_zero, mul_one]
    have lowerReads : b.readsBack ⟨b.floorOnGrid s, s⟩ = true := by
      rw [readsBack_iff, exact, ← value]
      exact rounds_self pos
    unfold Binary.onGrid at found
    dsimp only at found
    split at found
    · -- both neighbours read back: the lower one is nearer, the two summing past twice the value
      cases found
      unfold Binary.nearer
      have past : ((2 * b.mantissa : ℕ) : ℚ) * 2 ^ b.exponent <
          ((b.floorOnGrid s + (b.floorOnGrid s + 1) : ℕ) : ℚ) * 10 ^ s := by
        have twice : ((b.floorOnGrid s + (b.floorOnGrid s + 1) : ℕ) : ℚ) * 10 ^ s =
            2 * ((b.floorOnGrid s : ℚ) * 10 ^ s) + 10 ^ s := by
          push_cast
          ring
        have exact' : (b.floorOnGrid s : ℚ) * 10 ^ s = N := exact
        rw [twice, exact']
        push_cast
        rw [mul_assoc, value]
        have : (0 : ℚ) < 10 ^ s := by positivity
        linarith
      rw [(compareScaled_eq_gt_iff _ _ _ _).mpr past]
      exact exact
    · cases found
      exact exact
    · next unread _ => rw [lowerReads] at unread; cases unread
    · cases found

/-- The shortest decimal of a whole magnitude is the whole number, trimmed of its trailing
zeros: whatever grid the search stops on, and the exact value behind it, are worth the
number. -/
theorem shortest_of_whole : b.shortest = (⟨N, 0⟩ : Decimal).trim := by
  have nonzero : (N : ℚ) ≠ 0 := by
    rw [← value]
    positivity
  have whole : (⟨N, 0⟩ : Decimal).value = N := by simp [Decimal.value]
  unfold Binary.shortest
  dsimp only
  split
  · next d found =>
      obtain ⟨n, -, onGrid⟩ := List.exists_of_findSome?_eq_some found
      have worth := value_of_onGrid pos value close onGrid
      exact trim_eq_of_value_eq (by rw [worth]; exact nonzero) (by rw [worth, whole])
  · have worth : b.exact.value = N := by rw [value_exact, value]
    exact trim_eq_of_value_eq (by rw [worth]; exact nonzero) (by rw [worth, whole])

end Search

/-! ## Whole numbers -/

/-- The values that round to a double of exponent at most zero lie within one of it. -/
theorem Binary.Rounds.near {m : ℕ} {e : ℤ} {q : ℚ} (pos : 0 < m) (fine : e ≤ 0)
    (rounds : (magnitude m e).Rounds q) : |q - m * 2 ^ e| < 1 := by
  have place : (0 : ℚ) < 2 ^ e := zpow_pos (by norm_num) e
  have atMostOne : (2 : ℚ) ^ e ≤ 1 := zpow_le_one_of_nonpos₀ (by norm_num) fine
  obtain ⟨below, above⟩ := (rounds.scaled pos).le
  have below : (m - 1 / 2 : ℚ) * 2 ^ e ≤ q := by
    rw [← le_div_iff₀ place]
    split_ifs at below <;> linarith
  have above : q ≤ (m + 1 / 2 : ℚ) * 2 ^ e := (div_le_iff₀ place).mp above
  rw [abs_sub_lt_iff]
  constructor <;> nlinarith

/-- A double below `10^15` has an exponent of at most zero: a normal mantissa has 53 bits, so a
positive exponent would put it past `2^53`. -/
theorem exponent_nonpos_of_lt {m : ℕ} {e : ℤ} (pos : 0 < m) (canonical : Canonical m e)
    (small : (m : ℚ) * 2 ^ e < 10 ^ 15) : e ≤ 0 := by
  obtain ⟨-, normal, -⟩ := (canonical_iff_fits pos).mp canonical
  by_contra positive
  rcases normal with normal | subnormal
  · have mantissa : (2 : ℚ) ^ 52 ≤ m := by exact_mod_cast normal
    have scale : (2 : ℚ) ^ (1 : ℤ) ≤ 2 ^ e := zpow_le_zpow_right₀ (by norm_num) (by omega)
    have large : (2 : ℚ) ^ 52 * 2 ^ (1 : ℤ) ≤ m * 2 ^ e :=
      mul_le_mul mantissa scale (by positivity) (by positivity)
    norm_num at large
    linarith
  · omega

/-- The shortest decimal of a magnitude worth a whole number below `10^15` is that number,
trimmed of its trailing zeros: its exponent is at most zero, so the values that round to it lie
within one of it. -/
theorem shortest_of_whole_lt {m N : ℕ} {e : ℤ} (pos : 0 < m) (canonical : Canonical m e)
    (value : (m : ℚ) * 2 ^ e = N) (small : N < 10 ^ 15) :
    (magnitude m e).shortest = (⟨N, 0⟩ : Decimal).trim := by
  have fine : e ≤ 0 := exponent_nonpos_of_lt pos canonical (by
    rw [value]
    exact_mod_cast small)
  refine shortest_of_whole pos value fun q rounds => ?_
  rw [← value]
  exact rounds.near pos fine

/-- A positive whole number, trimmed of its trailing zeros, is written with its decimal
digits. -/
theorem positional_trim_whole {N : ℕ} (pos : 0 < N) :
    (⟨N, 0⟩ : Decimal).trim.positional = Nat.repr N := by
  rw [positional_trim _ pos le_rfl]
  simp [Decimal.positional, digitText, zeros, Nat.repr]

/-- A number worth an integer of magnitude below `10^15` is written as that integer. -/
theorem render_of_integer {x : Float} {n : ℤ} (value : value? x = some (n : ℚ))
    (small : n.natAbs < 10 ^ 15) : render x = toString n := by
  unfold value? at value
  cases unpacked : x.toModel.unpack with
  | notANumber =>
      rw [unpacked] at value
      cases value
  | infinity s =>
      rw [unpacked] at value
      cases value
  | zero s =>
      rw [unpacked, Option.some.injEq, eq_comm, Int.cast_eq_zero] at value
      subst value
      unfold render
      rw [shape_eq_ofUnpacked, unpacked]
      rfl
  | finite s m e pos =>
      rw [unpacked, Option.some.injEq] at value
      obtain ⟨canonical, -⟩ := canonical_of_unpack unpacked
      -- the magnitude is the integer's absolute value
      have whole : (m : ℚ) * 2 ^ e = n.natAbs := by
        rw [Nat.cast_natAbs, Int.cast_abs, ← value]
        cases s <;> simp [Sign.apply, abs_mul, abs_of_pos (zpow_pos (by norm_num : (0 : ℚ) < 2) e)]
      have nonzero : 0 < n.natAbs := by
        have worth : (0 : ℚ) < n.natAbs := by
          rw [← whole]
          exact mul_pos (by exact_mod_cast pos) (by positivity)
        exact_mod_cast worth
      rw [← String.toList_inj, render_finite unpacked, Decimal.text_numeral,
        shortest_of_whole_lt pos canonical whole small, positional_trim_whole nonzero]
      cases s with
      | positive =>
          have nonneg : (0 : ℚ) ≤ n := by
            rw [← value]
            simp only [Sign.apply, Int.cast_natCast]
            positivity
          have nonneg : 0 ≤ n := by exact_mod_cast nonneg
          obtain ⟨k, rfl⟩ := Int.eq_ofNat_of_zero_le nonneg
          rfl
      | negative =>
          have negative : (n : ℚ) < 0 := by
            rw [← value]
            simp only [Sign.apply, Int.cast_neg, Int.cast_natCast, neg_mul, Left.neg_neg_iff]
            exact mul_pos (by exact_mod_cast pos) (by positivity)
          have negative : n < 0 := by exact_mod_cast negative
          obtain ⟨k, rfl⟩ := Int.exists_eq_neg_ofNat (le_of_lt negative)
          cases k with
          | zero => simp at negative
          | succ j =>
              show _ = ("-" ++ Nat.repr (j + 1)).toList
              rw [String.toList_append]
              rfl

end Blueprint.Number
