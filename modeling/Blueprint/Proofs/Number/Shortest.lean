import Blueprint.Number.Shortest
import Blueprint.Proofs.Number.Rounding

/-!
# The shortest digits read back

A positive double is written with the fewest significant digits that read back as it, found by
testing grid points against the interval of values that round to the double. This module shows
that the exact test of reading back is membership in that interval (`readsBack_iff`), and that
the decimal the search settles on, trimmed of its trailing zeros, lies in it (`rounds_shortest`).
-/

namespace Blueprint.Number

/-- The value of a decimal. -/
def Decimal.value (d : Decimal) : ℚ :=
  d.digits * 10 ^ d.exponent

theorem zpow_mul_pow_toNat {x : ℚ} (nonzero : x ≠ 0) (i : ℤ) :
    x ^ i * x ^ (-i).toNat = x ^ i.toNat := by
  rw [← zpow_natCast, ← zpow_add₀ nonzero, ← zpow_natCast]
  congr 1
  omega

/-- Both sides of an exact comparison, cleared of denominators, are the rational sides times
one positive factor. -/
theorem compareScaled_sides (a : ℕ) (i : ℤ) (n : ℕ) (j : ℤ) :
    ((a * Nat.pow 10 i.toNat * Nat.pow 2 (-j).toNat : ℕ) : ℚ) =
        a * 10 ^ i * (10 ^ (-i).toNat * 2 ^ (-j).toNat) ∧
      ((n * Nat.pow 2 j.toNat * Nat.pow 10 (-i).toNat : ℕ) : ℚ) =
        n * 2 ^ j * (10 ^ (-i).toNat * 2 ^ (-j).toNat) := by
  simp only [Nat.pow_eq]
  push_cast
  constructor
  · rw [← zpow_mul_pow_toNat (by norm_num) i]
    ring
  · rw [← zpow_mul_pow_toNat (by norm_num) j]
    ring

theorem compareScaled_eq_gt_iff (a : ℕ) (i : ℤ) (n : ℕ) (j : ℤ) :
    compareScaled a i n j = .gt ↔ (n : ℚ) * 2 ^ j < a * 10 ^ i := by
  obtain ⟨left, right⟩ := compareScaled_sides a i n j
  rw [compareScaled, compare_gt_iff_gt, ← Nat.cast_lt (α := ℚ), left, right]
  exact mul_lt_mul_iff_of_pos_right (by positivity)

theorem compareScaled_eq_lt_iff (a : ℕ) (i : ℤ) (n : ℕ) (j : ℤ) :
    compareScaled a i n j = .lt ↔ (a : ℚ) * 10 ^ i < n * 2 ^ j := by
  obtain ⟨left, right⟩ := compareScaled_sides a i n j
  rw [compareScaled, compare_lt_iff_lt, ← Nat.cast_lt (α := ℚ), left, right]
  exact mul_lt_mul_iff_of_pos_right (by positivity)

theorem compareScaled_eq_eq_iff (a : ℕ) (i : ℤ) (n : ℕ) (j : ℤ) :
    compareScaled a i n j = .eq ↔ (a : ℚ) * 10 ^ i = n * 2 ^ j := by
  obtain ⟨left, right⟩ := compareScaled_sides a i n j
  rw [compareScaled, compare_eq_iff_eq, ← Nat.cast_inj (R := ℚ), left, right]
  exact mul_left_inj' (by positivity)

/-- The exact test of reading back is membership in the interval of values that round to the
magnitude. -/
theorem readsBack_iff (b : Binary) (d : Decimal) : b.readsBack d = true ↔ b.Rounds d.value := by
  simp only [Binary.readsBack, Binary.Rounds, Between, Decimal.value, Bool.and_eq_true,
    Bool.or_eq_true, beq_iff_eq, compareScaled_eq_gt_iff, compareScaled_eq_lt_iff,
    compareScaled_eq_eq_iff, eq_comm (a := (d.digits : ℚ) * 10 ^ d.exponent)]

/-- Removing trailing zeros keeps the value. -/
theorem value_trim (d : Decimal) : d.trim.value = d.value := by
  fun_induction Decimal.trim d with
  | case1 d strip ih =>
      rw [ih]
      obtain ⟨digits, exponent⟩ := d
      simp only [Decimal.value] at strip ⊢
      obtain ⟨k, rfl⟩ : 10 ∣ digits := Nat.dvd_of_mod_eq_zero strip.2
      rw [Nat.mul_div_cancel_left _ (by norm_num), zpow_add₀ (by norm_num)]
      push_cast
      ring
  | case2 => rfl

/-- A grid point found by the search reads back as the magnitude. -/
theorem readsBack_of_onGrid {b : Binary} {s : ℤ} {d : Decimal} (found : b.onGrid s = some d) :
    b.readsBack d = true := by
  unfold Binary.onGrid at found
  dsimp only at found
  split at found
  next lower upper =>
    -- both neighbours read back; the nearer one is either of them
    cases found
    unfold Binary.nearer
    split <;> assumption
  next lower _ =>
    cases found
    exact lower
  next _ upper =>
    cases found
    exact upper
  next => cases found

/-- The exact decimal of a magnitude has its value. -/
theorem value_exact (b : Binary) : b.exact.value = b.mantissa * 2 ^ b.exponent := by
  unfold Binary.exact
  split_ifs with nonneg
  · simp only [Decimal.value, Nat.pow_eq, zpow_zero, mul_one]
    push_cast
    rw [← zpow_natCast, Int.toNat_of_nonneg nonneg]
  · simp only [Decimal.value, Nat.pow_eq]
    push_cast
    have ten : (10 : ℚ) ^ b.exponent = 2 ^ b.exponent * 5 ^ b.exponent := by
      rw [← mul_zpow]
      norm_num
    have five : (5 : ℚ) ^ (-b.exponent).toNat * 5 ^ b.exponent = 1 := by
      rw [← zpow_natCast, ← zpow_add₀ (by norm_num)]
      rw [show ((-b.exponent).toNat : ℤ) + b.exponent = 0 by omega, zpow_zero]
    rw [ten]
    calc (b.mantissa : ℚ) * 5 ^ (-b.exponent).toNat * (2 ^ b.exponent * 5 ^ b.exponent)
        = b.mantissa * 2 ^ b.exponent * (5 ^ (-b.exponent).toNat * 5 ^ b.exponent) := by ring
      _ = b.mantissa * 2 ^ b.exponent := by rw [five, mul_one]

/-- A positive magnitude rounds to itself. -/
theorem rounds_self {b : Binary} (pos : 0 < b.mantissa) :
    b.Rounds (b.mantissa * 2 ^ b.exponent) := by
  have place : (0 : ℚ) < 2 ^ (b.exponent - 2) := by positivity
  have quarters : (b.mantissa : ℚ) * 2 ^ b.exponent = (4 * b.mantissa : ℕ) * 2 ^ (b.exponent - 2) := by
    rw [zpow_sub₀ (by norm_num)]
    push_cast
    field_simp
  rw [quarters]
  refine ⟨.inl ?_, .inl ?_⟩
  · apply mul_lt_mul_of_pos_right _ place
    have : (if b.narrowBelow then 4 * b.mantissa - 1 else 4 * b.mantissa - 2) < 4 * b.mantissa := by
      split <;> omega
    exact_mod_cast this
  · apply mul_lt_mul_of_pos_right _ place
    exact_mod_cast (by omega : 4 * b.mantissa < 4 * b.mantissa + 2)

/-- The shortest decimal written for a positive magnitude reads back as it. -/
theorem rounds_shortest {b : Binary} (pos : 0 < b.mantissa) : b.Rounds b.shortest.value := by
  unfold Binary.shortest
  dsimp only
  split
  next d found =>
    -- a grid point found by the search, trimmed of its trailing zeros
    obtain ⟨n, -, onGrid⟩ := List.exists_of_findSome?_eq_some found
    rw [value_trim, ← readsBack_iff]
    exact readsBack_of_onGrid onGrid
  next =>
    -- the exact value, which the search never needs
    rw [value_trim, value_exact]
    exact rounds_self pos

end Blueprint.Number
