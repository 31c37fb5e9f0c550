import Blueprint.Number.Binary
import Blueprint.Proofs.Number.ExactIntegers

/-!
# Rounding to the nearest double

The logical model of doubles rounds a result in two shifts. The first brings the mantissa to the
exponent the format assigns its magnitude, keeping what it drops as a round bit and a sticky bit;
the mantissa is then rounded to the nearest, ties to even, and the second shift takes back the
carry that may have lengthened it. This module proves that the result is correctly rounded: a
mantissa whose accuracy locates a value `q` rounds to the double whose interval holds `q`
(`roundWithAccuracy_of_rounds`).

The interval of a positive double (`Binary.Rounds`) holds the values within half a place of it,
where the place below is half as long at the bottom of a binade; its ends belong to it when the
mantissa is even. A value in it is located either on the double's own exponent or, at the bottom
of a binade, one exponent lower, where it rounds up to the power of two that the second shift
brings back (`grid_le`, `le_grid`).
-/

namespace Blueprint.Number

open Float.Model Float.Model.UnpackedFloat

/-! ## Positions between grid points -/

/-- `q` lies between `low` and `high`, the ends included exactly when `closed`. -/
def Between (closed : Bool) (low high q : ℚ) : Prop :=
  (low < q ∨ closed ∧ low = q) ∧ (q < high ∨ closed ∧ q = high)

/-- `k` is the integer nearest to `r`, a tie going to the even one. -/
def Nearest (k : ℕ) (r : ℚ) : Prop :=
  Between (k % 2 == 0) (k - 1 / 2) (k + 1 / 2) r

namespace Between

variable {closed : Bool} {low high q : ℚ}

theorem le (between : Between closed low high q) : low ≤ q ∧ q ≤ high := by
  obtain ⟨below | ⟨-, below⟩, above | ⟨-, above⟩⟩ := between
  all_goals constructor <;> linarith

/-- A lower end further down keeps a value between the ends. -/
theorem widen {low' : ℚ} (lower : low' ≤ low) (between : Between closed low high q) :
    Between closed low' high q := by
  obtain ⟨below, above⟩ := between
  refine ⟨?_, above⟩
  rcases lower.lt_or_eq with strict | same
  · left
    rcases below with below | ⟨-, below⟩ <;> linarith
  · rwa [same]

/-- Dividing the ends and the value by the same positive number keeps the value between. -/
theorem div {c : ℚ} (pos : 0 < c) (between : Between closed low high q) :
    Between closed (low / c) (high / c) (q / c) := by
  obtain ⟨below, above⟩ := between
  refine ⟨below.imp (div_lt_div_of_pos_right · pos) (And.imp_right (congrArg (· / c))),
    above.imp (div_lt_div_of_pos_right · pos) (And.imp_right (congrArg (· / c)))⟩

end Between

/-- What an accuracy says about a value `r` measured in units of the last place of the
mantissa `m`: exactly `m`, or strictly between `m` and `m + 1`, below, at or above the
midpoint. -/
def Locates : Accuracy → ℕ → ℚ → Prop
  | .exact, m, r => r = m
  | .inexact .lt, m, r => m < r ∧ r < m + 1 / 2
  | .inexact .eq, m, r => r = m + 1 / 2
  | .inexact .gt, m, r => m + 1 / 2 < r ∧ r < m + 1

theorem Locates.bounds {acc : Accuracy} {m : ℕ} {r : ℚ} (locates : Locates acc m r) :
    (m : ℚ) ≤ r ∧ r < m + 1 := by
  rcases acc with _ | ⟨_ | _ | _⟩ <;> simp only [Locates] at locates
  all_goals constructor <;> linarith

@[simp]
theorem accuracy_ofMantissaAndAccuracy (m : ℕ) (acc : Accuracy) :
    (ExtendedMantissa.ofMantissaAndAccuracy m acc).accuracy = acc := by
  rcases acc with _ | ⟨_ | _ | _⟩ <;> rfl

@[simp]
theorem mantissa_ofMantissaAndAccuracy (m : ℕ) (acc : Accuracy) :
    (ExtendedMantissa.ofMantissaAndAccuracy m acc).mantissa = m := by
  rcases acc with _ | ⟨_ | _ | _⟩ <;> rfl

theorem Locates.ofMantissaAndAccuracy {m : ℕ} {acc : Accuracy} {r : ℚ}
    (locates : Locates acc m r) :
    Locates (ExtendedMantissa.ofMantissaAndAccuracy m acc).accuracy
      (ExtendedMantissa.ofMantissaAndAccuracy m acc).mantissa r := by
  simpa using locates

/-- Shifting out one bit halves the located value. -/
theorem Locates.shiftRightOne {em : ExtendedMantissa} {r : ℚ}
    (locates : Locates em.accuracy em.mantissa r) :
    Locates em.shiftRightOne.accuracy em.shiftRightOne.mantissa (r / 2) := by
  obtain ⟨m, round, sticky⟩ := em
  obtain ⟨n, rfl | rfl⟩ : ∃ n, m = 2 * n ∨ m = 2 * n + 1 := ⟨m / 2, by omega⟩
  · have half : 2 * n / 2 = n := by omega
    have parity : (2 * n % 2 != 0) = false := by simp
    cases round <;> cases sticky <;>
      simp only [ExtendedMantissa.shiftRightOne, half, parity,
        ExtendedMantissa.accuracy, Bool.or_false, Bool.or_true, Locates,
        Nat.cast_mul, Nat.cast_ofNat] at locates ⊢ <;>
      grind
  · have half : (2 * n + 1) / 2 = n := by omega
    have parity : ((2 * n + 1) % 2 != 0) = true := by simp [Nat.add_mod]
    cases round <;> cases sticky <;>
      simp only [ExtendedMantissa.shiftRightOne, half, parity,
        ExtendedMantissa.accuracy, Bool.or_false, Bool.or_true, Locates,
        Nat.cast_mul, Nat.cast_add, Nat.cast_one, Nat.cast_ofNat] at locates ⊢ <;>
      grind

/-- Shifting out `k` bits divides the located value by `2^k`. -/
theorem Locates.shiftRight {em : ExtendedMantissa} {r : ℚ}
    (locates : Locates em.accuracy em.mantissa r) (k : ℕ) :
    Locates (em >>> k).accuracy (em >>> k).mantissa (r / 2 ^ k) := by
  induction k with
  | zero => simpa [HShiftRight.hShiftRight, Nat.repeat] using locates
  | succ k ih =>
      have halved := ih.shiftRightOne
      rwa [div_div, ← pow_succ] at halved

theorem mantissa_shiftRight (em : ExtendedMantissa) (k : ℕ) :
    (em >>> k).mantissa = em.mantissa / 2 ^ k := by
  induction k with
  | zero => simp [HShiftRight.hShiftRight, Nat.repeat]
  | succ k ih =>
      show (em >>> k).mantissa / 2 = _
      rw [ih, Nat.div_div_eq_div_mul, ← Nat.pow_succ]

/-- Two naturals less than one apart, as rationals, are equal. -/
theorem eq_of_within_one {k m : ℕ} (below : (k : ℚ) < m + 1) (above : (m : ℚ) < k + 1) :
    k = m := by
  have below : k < m + 1 := by exact_mod_cast below
  have above : m < k + 1 := by exact_mod_cast above
  omega

/-- Rounding a located mantissa to the nearest, ties to even, gives the integer nearest to the
located value. -/
theorem roundToNearestEven_eq {acc : Accuracy} {m k : ℕ} {r : ℚ} (locates : Locates acc m r)
    (nearest : Nearest k r) : acc.roundToNearestEven m = k := by
  have ends := nearest.le
  rcases acc with _ | ⟨_ | _ | _⟩ <;> simp only [Locates] at locates <;>
    simp only [Accuracy.roundToNearestEven]
  · exact (eq_of_within_one (by linarith) (by linarith)).symm
  · exact (eq_of_within_one (by linarith) (by linarith)).symm
  · -- a tie: the two candidates are the ends of the nearest interval, which then is closed
    obtain ⟨low, high⟩ := nearest
    have below : (k : ℚ) ≤ m + 1 := by linarith
    have above : (m : ℚ) ≤ k := by linarith
    have below : k ≤ m + 1 := by exact_mod_cast below
    have above : m ≤ k := by exact_mod_cast above
    obtain same | up : k = m ∨ k = m + 1 := by omega
    · subst same
      have even : k % 2 = 0 := by
        rcases high with high | ⟨even, -⟩
        · linarith
        · simpa using even
      omega
    · subst up
      have even : (m + 1) % 2 = 0 := by
        rcases low with low | ⟨even, -⟩
        · push_cast at low
          linarith
        · simpa using even
      omega
  · exact (eq_of_within_one (by push_cast; linarith) (by push_cast; linarith)).symm

/-! ## The exponent a mantissa is rounded at -/

/-- A mantissa fits the exponent `t` as the double format writes numbers: it is below `2^53`,
and at least `2^52` unless `t` is the exponent of the subnormals, the least there is. -/
def Fits (m : ℕ) (t : ℤ) : Prop :=
  m < 2 ^ 53 ∧ (2 ^ 52 ≤ m ∨ t = -1074) ∧ -1074 ≤ t

/-- The target exponent of the double format, spelled out. -/
theorem targetExponent_eq (m : ℕ) (e : ℤ) :
    Format.binary64.targetExponent (totalExponent m e) = max ((m.log2 : ℤ) + e - 52) (-1074) := by
  simp only [Format.targetExponent, totalExponent, Format.mantissaBits, Format.minExponent]
  norm_num
  omega

/-- A positive mantissa is canonical at its exponent exactly when it fits it. -/
theorem canonical_iff_fits {m : ℕ} {e : ℤ} (pos : 0 < m) : Canonical m e ↔ Fits m e := by
  have low := Nat.log2_self_le (Nat.pos_iff_ne_zero.mp pos)
  have high := Nat.lt_log2_self (n := m)
  have small : m < 2 ^ 53 ↔ m.log2 < 53 := (Nat.log2_lt (Nat.pos_iff_ne_zero.mp pos)).symm
  have large : 2 ^ 52 ≤ m ↔ 52 ≤ m.log2 := (Nat.le_log2 (Nat.pos_iff_ne_zero.mp pos)).symm
  rw [Canonical, targetExponent_eq, Fits, small, large]
  omega

/-- Shifting a mantissa to the exponent the format assigns its magnitude, when that is no lower
than its own, makes it fit that exponent. -/
theorem fits_shiftRight {M : ℕ} {E : ℤ}
    (coarse : E ≤ Format.binary64.targetExponent (totalExponent M E)) :
    Fits (M / 2 ^ (Format.binary64.targetExponent (totalExponent M E) - E).toNat)
      (Format.binary64.targetExponent (totalExponent M E)) := by
  rw [targetExponent_eq] at coarse ⊢
  rcases Nat.eq_zero_or_pos M with zero | pos
  · subst zero
    refine ⟨by simp, .inr ?_, le_max_right _ _⟩
    simp only [Nat.log2_zero, Nat.cast_zero, zero_add] at coarse ⊢
    omega
  have high := Nat.lt_log2_self (n := M)
  obtain ⟨k, shift⟩ : ∃ k : ℕ, (max ((M.log2 : ℤ) + E - 52) (-1074) - E).toNat = k := ⟨_, rfl⟩
  rw [shift]
  have room : M.log2 ≤ 52 + k := by omega
  refine ⟨?_, ?_, le_max_right _ _⟩
  · -- the bits left after the shift are at most 53
    apply (Nat.div_lt_iff_lt_mul (by positivity)).mpr
    calc M < 2 ^ (M.log2 + 1) := high
      _ ≤ 2 ^ (53 + k) := Nat.pow_le_pow_right (by decide) (by omega)
      _ = 2 ^ 53 * 2 ^ k := Nat.pow_add _ _ _
  · by_cases subnormal : (M.log2 : ℤ) + E - 52 < -1074
    · exact .inr (by omega)
    · -- a normal magnitude keeps exactly 53 bits
      refine .inl ((Nat.le_div_iff_mul_le (by positivity)).mpr ?_)
      calc 2 ^ 52 * 2 ^ k = 2 ^ M.log2 := by rw [← Nat.pow_add]; congr 1; omega
        _ ≤ M := Nat.log2_self_le (Nat.pos_iff_ne_zero.mp pos)

/-! ## The values that round to a double -/

/-- The magnitude of a finite double with mantissa `m` and exponent `e`, as its bits give it:
the place below it is half as long at the bottom of a binade above the subnormals. -/
def magnitude (m : ℕ) (e : ℤ) : Binary :=
  ⟨m, e, decide (m = Nat.pow 2 52 ∧ -1074 < e)⟩

/-- The rationals that round to a positive magnitude, ties to even: those within half a place of
it, where the place below may be half as long, the ends included exactly when the mantissa is
even. The ends are counted in quarters of the last place. -/
def Binary.Rounds (b : Binary) (q : ℚ) : Prop :=
  Between (b.mantissa % 2 == 0)
    (((if b.narrowBelow then 4 * b.mantissa - 1 else 4 * b.mantissa - 2 : ℕ) : ℚ) *
      2 ^ (b.exponent - 2))
    (((4 * b.mantissa + 2 : ℕ) : ℚ) * 2 ^ (b.exponent - 2)) q

/-- Measured in last places, the values that round to a magnitude lie within half a place of its
mantissa, and within a quarter below where the place below is half as long. -/
theorem Binary.Rounds.scaled {m : ℕ} {e : ℤ} {q : ℚ} (pos : 0 < m)
    (rounds : (magnitude m e).Rounds q) :
    Between (m % 2 == 0) (if m = 2 ^ 52 ∧ -1074 < e then m - 1 / 4 else m - 1 / 2) (m + 1 / 2)
      (q / 2 ^ e) := by
  have scaled := rounds.div (zpow_pos (by norm_num : (0 : ℚ) < 2) e)
  have quarters : ∀ x : ℚ, x * 2 ^ (e - 2) / 2 ^ e = x / 4 := by
    intro x
    rw [zpow_sub₀ (by norm_num)]
    field_simp
    norm_num
  simp only [magnitude, Nat.pow_eq, decide_eq_true_eq, quarters] at scaled
  split_ifs with narrow
  · rw [if_pos narrow, Nat.cast_sub (by omega)] at scaled
    convert scaled using 2 <;> push_cast <;> ring
  · rw [if_neg narrow, Nat.cast_sub (by omega)] at scaled
    convert scaled using 2 <;> push_cast <;> ring

/-- A value that rounds to a finite positive double lies between half the least subnormal and
`2^1024`. -/
theorem Binary.Rounds.bounds {m : ℕ} {e : ℤ} {q : ℚ} (pos : 0 < m) (canonical : Canonical m e)
    (high : e ≤ 971) (rounds : (magnitude m e).Rounds q) :
    (2 : ℚ) ^ (-1075 : ℤ) ≤ q ∧ q < 2 ^ (1024 : ℤ) := by
  obtain ⟨small, -, low⟩ := (canonical_iff_fits pos).mp canonical
  have place : (0 : ℚ) < 2 ^ e := zpow_pos (by norm_num) e
  obtain ⟨below, above⟩ := (rounds.scaled pos).le
  have below : (m - 1 / 2 : ℚ) * 2 ^ e ≤ q := by
    rw [← le_div_iff₀ place]
    split_ifs at below <;> linarith
  have above : q ≤ (m + 1 / 2 : ℚ) * 2 ^ e := (div_le_iff₀ place).mp above
  have half : (1 / 2 : ℚ) ≤ m - 1 / 2 := by
    have one : (1 : ℚ) ≤ m := by exact_mod_cast pos
    linarith
  have under : (m + 1 / 2 : ℚ) < 2 ^ (53 : ℤ) := by
    have small : (m : ℚ) + 1 ≤ 2 ^ 53 := by exact_mod_cast small
    rw [zpow_ofNat]
    linarith
  have least : (2 : ℚ) ^ (-1074 : ℤ) ≤ 2 ^ e := zpow_le_zpow_right₀ (by norm_num) low
  have most : (2 : ℚ) ^ e ≤ 2 ^ (971 : ℤ) := zpow_le_zpow_right₀ (by norm_num) high
  constructor
  · calc (2 : ℚ) ^ (-1075 : ℤ) = 2 ^ (-1 : ℤ) * 2 ^ (-1074 : ℤ) := by
          rw [← zpow_add₀ (by norm_num)]
          norm_num
      _ = 1 / 2 * 2 ^ (-1074 : ℤ) := by norm_num
      _ ≤ (m - 1 / 2 : ℚ) * 2 ^ e := mul_le_mul half least (by positivity) (by linarith)
      _ ≤ q := below
  · calc q ≤ (m + 1 / 2 : ℚ) * 2 ^ e := above
      _ < 2 ^ (53 : ℤ) * 2 ^ (971 : ℤ) := mul_lt_mul under most place (by positivity)
      _ = 2 ^ (1024 : ℤ) := by
          rw [← zpow_add₀ (by norm_num)]
          norm_num

section Grid

/-! The first shift of rounding brings the mantissa to an exponent `t` it fits; a value that rounds
to a double sits on that double's exponent or, at the bottom of a binade, one below. -/

variable {M m : ℕ} {t e : ℤ} {q : ℚ}

theorem div_two_zpow_eq (q : ℚ) (t e : ℤ) : q / 2 ^ t = q / 2 ^ e * 2 ^ (e - t) := by
  rw [zpow_sub₀ (by norm_num)]
  field_simp

/-- The grid of the first shift is no coarser than the double's. -/
theorem grid_le (fits : Fits M t) (low : (M : ℚ) ≤ q / 2 ^ t) (pos : 0 < m) (canonical : Fits m e)
    (rounds : (magnitude m e).Rounds q) : t ≤ e := by
  by_contra coarser
  have large : 2 ^ 52 ≤ M := fits.2.1.resolve_right (by have := canonical.2.2; omega)
  have large : (2 ^ 52 : ℚ) ≤ M := by exact_mod_cast large
  have step : (2 : ℚ) ≤ 2 ^ (t - e) := by
    calc (2 : ℚ) = 2 ^ (1 : ℤ) := by norm_num
      _ ≤ 2 ^ (t - e) := zpow_le_zpow_right₀ (by norm_num) (by omega)
  have value : q / 2 ^ e = q / 2 ^ t * 2 ^ (t - e) := div_two_zpow_eq q e t
  have small : m + 1 ≤ 2 ^ 53 := canonical.1
  have small : (m : ℚ) + 1 ≤ 2 ^ 53 := by exact_mod_cast small
  have above := (rounds.scaled pos).le.2
  nlinarith

/-- The grid of the first shift is at most one finer than the double's. -/
theorem le_grid (fits : Fits M t) (high : q / 2 ^ t < M + 1) (pos : 0 < m) (canonical : Fits m e)
    (rounds : (magnitude m e).Rounds q) : e - 1 ≤ t := by
  by_contra finer
  have large : 2 ^ 52 ≤ m := canonical.2.1.resolve_right (by have := fits.2.2; omega)
  have large : (2 ^ 52 : ℚ) ≤ m := by exact_mod_cast large
  have step : (4 : ℚ) ≤ 2 ^ (e - t) := by
    calc (4 : ℚ) = 2 ^ (2 : ℤ) := by norm_num
      _ ≤ 2 ^ (e - t) := zpow_le_zpow_right₀ (by norm_num) (by omega)
  have value : q / 2 ^ t = q / 2 ^ e * 2 ^ (e - t) := div_two_zpow_eq q t e
  have small : M + 1 ≤ 2 ^ 53 := fits.1
  have small : (M : ℚ) + 1 ≤ 2 ^ 53 := by exact_mod_cast small
  have below := (rounds.scaled pos).le.1
  have below : (m : ℚ) - 1 / 2 ≤ q / 2 ^ e := by split_ifs at below <;> linarith
  nlinarith

/-- On the double's own grid, its mantissa is the integer nearest to the value. -/
theorem nearest_of_rounds (pos : 0 < m) (rounds : (magnitude m e).Rounds q) :
    Nearest m (q / 2 ^ e) := by
  have scaled := rounds.scaled pos
  refine scaled.widen ?_
  split_ifs <;> linarith

/-- One grid below, the value lies in the upper half of the last place below a power of two,
and the nearest integer is that power, `2^53`. -/
theorem nearest_of_rounds_finer (fits : Fits M t) (high : q / 2 ^ t < M + 1) (pos : 0 < m)
    (canonical : Fits m e) (rounds : (magnitude m e).Rounds q) (finer : t = e - 1) :
    m = 2 ^ 52 ∧ Nearest (2 ^ 53) (q / 2 ^ t) := by
  have large : 2 ^ 52 ≤ m := canonical.2.1.resolve_right (by have := fits.2.2; omega)
  have value : q / 2 ^ t = q / 2 ^ e * 2 := by
    simpa [finer] using div_two_zpow_eq q t e
  have small : M + 1 ≤ 2 ^ 53 := fits.1
  have small : (M : ℚ) + 1 ≤ 2 ^ 53 := by exact_mod_cast small
  obtain ⟨below, -⟩ := rounds.scaled pos
  have bottom : m = 2 ^ 52 := by
    have below : (m : ℚ) - 1 / 2 ≤ q / 2 ^ e := by
      rcases below with below | ⟨-, below⟩ <;> split_ifs at below <;> linarith
    have below : (m : ℚ) < 2 ^ 52 + 1 := by linarith
    have below : m < 2 ^ 52 + 1 := by exact_mod_cast below
    omega
  subst bottom
  have narrow : (2 : ℕ) ^ 52 = 2 ^ 52 ∧ -1074 < e := ⟨rfl, by have := fits.2.2; omega⟩
  rw [if_pos narrow] at below
  refine ⟨rfl, ?_, .inl (by push_cast; linarith)⟩
  rcases below with below | ⟨-, below⟩
  · left
    push_cast at below ⊢
    linarith
  · right
    refine ⟨by decide, ?_⟩
    push_cast at below ⊢
    linarith

end Grid

/-! ## Rounding -/

/-- Rounding ends at a canonical mantissa and exponent when its first shift rounds to that
mantissa with `j` zero bits appended, `j` places below its exponent. -/
theorem roundWithAccuracy_of_first (s : Sign) {M : ℕ} {E : ℤ} {acc : Accuracy}
    {em : ExtendedMantissa} {m : ℕ} {e : ℤ} (pos : 0 < m) (canonical : Canonical m e) (j : ℕ)
    (first : shiftToTargetExponent Format.binary64 M E acc = (em, e - j))
    (rounded : em.roundedMantissa = m * 2 ^ j) :
    roundWithAccuracy Format.binary64 s M E acc = .finite s m e pos := by
  simp only [roundWithAccuracy, first, rounded, shiftToTargetExponent_shifted pos canonical j,
    Nat.pos_iff_ne_zero.mp pos, dite_false]

/-- Rounding is correct: a mantissa `M` at exponent `E` whose accuracy locates a value `q`, and
whose exponent is no higher than the one the format assigns its magnitude, rounds to the double
that `q` rounds to, ties to even. -/
theorem roundWithAccuracy_of_rounds (s : Sign) {M : ℕ} {E : ℤ} {acc : Accuracy} {q : ℚ}
    (locates : Locates acc M (q / 2 ^ E))
    (coarse : E ≤ Format.binary64.targetExponent (totalExponent M E))
    {m : ℕ} {e : ℤ} (pos : 0 < m) (canonical : Canonical m e)
    (rounds : (magnitude m e).Rounds q) :
    roundWithAccuracy Format.binary64 s M E acc = .finite s m e pos := by
  obtain ⟨t, target⟩ : ∃ t, Format.binary64.targetExponent (totalExponent M E) = t := ⟨_, rfl⟩
  obtain ⟨em, shifted⟩ : ∃ em, ExtendedMantissa.ofMantissaAndAccuracy M acc >>> (t - E).toNat = em :=
    ⟨_, rfl⟩
  have first : shiftToTargetExponent Format.binary64 M E acc = (em, t) := by
    simp only [shiftToTargetExponent, shiftToExponent, target, shifted, Prod.mk.injEq, true_and]
    omega
  -- the first shift locates the value on the grid of `t`, with a mantissa that fits it
  have located : Locates em.accuracy em.mantissa (q / 2 ^ t) := by
    have moved := locates.ofMantissaAndAccuracy.shiftRight (t - E).toNat
    rw [shifted, div_div, ← zpow_natCast, ← zpow_add₀ (by norm_num),
      show E + ((t - E).toNat : ℤ) = t by omega] at moved
    exact moved
  have fits : Fits em.mantissa t := by
    rw [← shifted, mantissa_shiftRight, mantissa_ofMantissaAndAccuracy, ← target]
    exact fits_shiftRight coarse
  have canonical' := (canonical_iff_fits pos).mp canonical
  obtain ⟨low, high⟩ := located.bounds
  have coarser := grid_le fits low pos canonical' rounds
  have finer := le_grid fits high pos canonical' rounds
  obtain same | below : t = e ∨ t = e - 1 := by omega
  · -- the double's own grid: round to its mantissa
    subst same
    refine roundWithAccuracy_of_first s pos canonical 0 (by simpa using first) ?_
    rw [pow_zero, mul_one]
    exact roundToNearestEven_eq located (nearest_of_rounds pos rounds)
  · -- one grid finer: round up to `2^53`, which the second shift brings back to `2^52`
    obtain ⟨bottom, nearest⟩ := nearest_of_rounds_finer fits high pos canonical' rounds below
    subst bottom
    refine roundWithAccuracy_of_first s pos canonical 1 (by simpa [below] using first) ?_
    exact roundToNearestEven_eq located nearest

/-! ## Canonical doubles and their bits -/

/-- A subnormal double is read back from its bits as it was written. -/
theorem unpack_pack_subnormal (s : Sign) {m : ℕ} (pos : 0 < m) (small : m < 2 ^ 52) :
    unpack Format.binary64 (pack Format.binary64 (.finite s m (-1074) pos)) =
      .finite s m (-1074) pos := by
  have few : m.log2 < 52 := (Nat.log2_lt (Nat.pos_iff_ne_zero.mp pos)).mpr small
  have fraction : (BitVec.ofNat 52 m).toNat = m := by
    rw [BitVec.toNat_ofNat, Nat.mod_eq_of_lt small]
  have nonzero : BitVec.ofNat 52 m ≠ 0#52 := by
    intro zero
    have := congrArg BitVec.toNat zero
    rw [fraction] at this
    simp at this
    omega
  simp only [UnpackedFloat.pack, Format.exponentBias, Format.mantissaBits]
  norm_num
  rw [if_neg (by omega)]
  simp only [UnpackedFloat.unpack, unpackExponent_packComponents, unpackMantissa_packComponents,
    UnpackedFloat.unpackSign_packComponents, Sign.ofBitVec_toBitVec, nonzero]
  simp [fraction, Format.exponentBias]

/-- A canonical double whose exponent is in range is read back from its bits as it was
written. -/
theorem unpack_pack_canonical (s : Sign) {m : ℕ} {e : ℤ} (pos : 0 < m) (canonical : Canonical m e)
    (high : e ≤ 971) :
    unpack Format.binary64 (pack Format.binary64 (.finite s m e pos)) = .finite s m e pos := by
  obtain ⟨small, normal | subnormal, low⟩ := (canonical_iff_fits pos).mp canonical
  · have bits : m.log2 = 52 := (Nat.log2_eq_iff (Nat.pos_iff_ne_zero.mp pos)).mpr ⟨normal, small⟩
    exact unpack_pack_normal s pos bits low high
  · by_cases full : 2 ^ 52 ≤ m
    · have bits : m.log2 = 52 := (Nat.log2_eq_iff (Nat.pos_iff_ne_zero.mp pos)).mpr ⟨full, small⟩
      exact unpack_pack_normal s pos bits low high
    · subst subnormal
      exact unpack_pack_subnormal s pos (by omega)

/-- The bits of a finite double unpack to a canonical mantissa and exponent, the exponent at most
`971`. -/
theorem canonical_of_unpack {bits : BitVec 64} {s : Sign} {m : ℕ} {e : ℤ} {pos : 0 < m}
    (finite : unpack Format.binary64 bits = .finite s m e pos) : Canonical m e ∧ e ≤ 971 := by
  have fraction := (@unpackMantissa Format.binary64 bits).isLt
  have exponent := (@unpackExponent Format.binary64 bits).isLt
  change _ < 2 ^ 52 at fraction
  change _ < 2 ^ 11 at exponent
  unfold UnpackedFloat.unpack at finite
  simp only at finite
  split at finite
  next => split at finite <;> cases finite
  next top =>
    split at finite
    next zero =>
      split at finite
      next => cases finite
      next =>
        -- a subnormal sits on the least exponent
        cases finite
        rw [canonical_iff_fits pos, zero]
        simp only [Fits, Format.exponentBias]
        norm_num
        omega
    next zero =>
      -- a normal has its leading bit made explicit
      cases finite
      have notTop : (@unpackExponent Format.binary64 bits).toNat ≠ 2047 := by
        intro same
        exact top (BitVec.eq_of_toNat_eq (by simpa using same))
      have notZero : (@unpackExponent Format.binary64 bits).toNat ≠ 0 := by
        intro same
        exact zero (BitVec.eq_of_toNat_eq (by simpa using same))
      have lead : (1#1 ++ @unpackMantissa Format.binary64 bits).toNat =
          2 ^ 52 + (@unpackMantissa Format.binary64 bits).toNat := by
        rw [BitVec.toNat_append, ← Nat.shiftLeft_add_eq_or_of_lt fraction]
        simp [Nat.shiftLeft_eq]
      rw [canonical_iff_fits pos, lead]
      simp only [Fits, Format.exponentBias]
      norm_num
      omega

end Blueprint.Number
