import Blueprint.Proofs.Number.Unpacked
import Blueprint.Proofs.Number.Signs
import Blueprint.Proofs.Number.Rounding

/-!
# Comparing, adding and casting doubles by their values

The logical model compares two finite doubles by sign, then by exponent, and by mantissa within
one exponent. For doubles in the canonical form the format gives them that is the order of their
values: a magnitude on a lower exponent stays below `2^53` places of it, while every exponent above
the lowest carries a mantissa of 53 bits (`compare_magnitudes`). So doubles compare as their
values do (`compare_unpack`, `lt_iff_of_value?`), and a double is determined by its value up to
the sign of zero (`unpack_eq_of_value?_eq`).

Adding two doubles puts both mantissas on the smaller exponent, where their sum is exact, and
rounding keeps its sign: an exact sum below zero gives a negative number (`hasSign_add_of_neg`),
and two doubles holding integers below `2^53` add exactly while their sum stays below that bound
(`value?_add_of_int`). The cast of a double to a machine word truncates its value toward zero
(`toInt_of_value?`, `toUInt64_of_value?`).
-/

namespace Blueprint.Number

open Float.Model Float.Model.UnpackedFloat

/-! ## Canonical magnitudes -/

section Magnitudes

variable {m₁ m₂ : ℕ} {e₁ e₂ : ℤ}

/-- Of two canonical magnitudes, the one on the lower exponent is the smaller: it stays below
`2^53` places of its exponent, while the other, on an exponent above the lowest, has a full
mantissa. -/
theorem value_lt_of_exponent_lt (fits₁ : Fits m₁ e₁) (fits₂ : Fits m₂ e₂) (lower : e₁ < e₂) :
    (m₁ : ℚ) * 2 ^ e₁ < m₂ * 2 ^ e₂ := by
  obtain ⟨small, -, bottom⟩ := fits₁
  obtain ⟨-, full | lowest, -⟩ := fits₂
  · calc (m₁ : ℚ) * 2 ^ e₁ < 2 ^ 53 * 2 ^ e₁ :=
          mul_lt_mul_of_pos_right (by exact_mod_cast small) (by positivity)
      _ = 2 ^ 52 * 2 ^ (e₁ + 1) := by
          rw [zpow_add_one₀ (by norm_num)]
          ring
      _ ≤ 2 ^ 52 * 2 ^ e₂ :=
          mul_le_mul_of_nonneg_left (zpow_le_zpow_right₀ (by norm_num) (by omega)) (by positivity)
      _ ≤ m₂ * 2 ^ e₂ := mul_le_mul_of_nonneg_right (by exact_mod_cast full) (by positivity)
  · omega

/-- Canonical magnitudes compare by exponent, and by mantissa within one exponent, as their
values do. -/
theorem compare_magnitudes (fits₁ : Fits m₁ e₁) (fits₂ : Fits m₂ e₂) :
    (compare e₁ e₂).then (compare m₁ m₂) = compare ((m₁ : ℚ) * 2 ^ e₁) (m₂ * 2 ^ e₂) := by
  rcases lt_trichotomy e₁ e₂ with lower | rfl | higher
  · rw [compare_lt_iff_lt.mpr lower,
      compare_lt_iff_lt.mpr (value_lt_of_exponent_lt fits₁ fits₂ lower)]
    rfl
  · -- on one exponent the mantissas decide
    rw [compare_eq_iff_eq.mpr rfl]
    show compare m₁ m₂ = _
    have place : (0 : ℚ) < 2 ^ e₁ := by positivity
    rcases lt_trichotomy m₁ m₂ with less | rfl | greater
    · rw [compare_lt_iff_lt.mpr less,
        compare_lt_iff_lt.mpr (mul_lt_mul_of_pos_right (by exact_mod_cast less) place)]
    · rw [compare_eq_iff_eq.mpr rfl, compare_eq_iff_eq.mpr rfl]
    · rw [compare_gt_iff_gt.mpr greater,
        compare_gt_iff_gt.mpr (mul_lt_mul_of_pos_right (by exact_mod_cast greater) place)]
  · rw [compare_gt_iff_gt.mpr higher,
      compare_gt_iff_gt.mpr (value_lt_of_exponent_lt fits₂ fits₁ higher)]
    rfl

/-- Two canonical magnitudes of one value are the same magnitude. -/
theorem eq_of_magnitude_eq (fits₁ : Fits m₁ e₁) (fits₂ : Fits m₂ e₂)
    (same : (m₁ : ℚ) * 2 ^ e₁ = m₂ * 2 ^ e₂) : m₁ = m₂ ∧ e₁ = e₂ := by
  have lex := compare_magnitudes fits₁ fits₂
  rw [compare_eq_iff_eq.mpr same, Ordering.then_eq_eq, compare_eq_iff_eq, compare_eq_iff_eq] at lex
  exact ⟨lex.2, lex.1⟩

end Magnitudes

/-- Comparing two negated rationals swaps their comparison. -/
theorem swap_compare_eq_compare_neg (a b : ℚ) : (compare a b).swap = compare (-a) (-b) := by
  rcases lt_trichotomy a b with less | rfl | greater
  · rw [compare_lt_iff_lt.mpr less, compare_gt_iff_gt.mpr (neg_lt_neg less)]
    rfl
  · rw [compare_eq_iff_eq.mpr rfl, compare_eq_iff_eq.mpr rfl]
    rfl
  · rw [compare_gt_iff_gt.mpr greater, compare_lt_iff_lt.mpr (neg_lt_neg greater)]
    rfl

/-! ## Comparing doubles -/

/-- One double is below another when the model's comparison of their unpacked forms says so. -/
theorem lt_iff_unpack_lt (x y : Float) :
    x < y ↔ UnpackedFloat.lt x.toModel.unpack y.toModel.unpack = true := by
  show Float.lt x y = true ↔ _
  simp only [Float.lt, decide_eq_true_eq]
  rfl

section Compare

variable {s₁ s₂ : Sign} {m₁ m₂ : ℕ} {e₁ e₂ : ℤ} {pos₁ : 0 < m₁} {pos₂ : 0 < m₂}

/-- A double with a value is a zero, or a finite double in canonical form worth that value. -/
theorem unpack_of_value? {x : Float} {a : ℚ} (value : value? x = some a) :
    (∃ s, x.toModel.unpack = .zero s ∧ a = 0) ∨
      ∃ s m e pos, x.toModel.unpack = .finite s m e pos ∧ Fits m e ∧ a = (s.apply m : ℚ) * 2 ^ e := by
  unfold value? at value
  cases unpacked : x.toModel.unpack with
  | notANumber => rw [unpacked] at value; cases value
  | infinity s => rw [unpacked] at value; cases value
  | zero s =>
      rw [unpacked, Option.some.injEq] at value
      exact .inl ⟨s, rfl, value.symm⟩
  | finite s m e pos =>
      rw [unpacked, Option.some.injEq] at value
      exact .inr ⟨s, m, e, pos, rfl,
        (canonical_iff_fits pos).mp (canonical_of_unpack unpacked).1, value.symm⟩

/-- Canonical finite doubles compare as their values. -/
theorem compare_finite (fits₁ : Fits m₁ e₁) (fits₂ : Fits m₂ e₂) :
    (UnpackedFloat.finite s₁ m₁ e₁ pos₁).compare (.finite s₂ m₂ e₂ pos₂) =
      some (compare ((s₁.apply m₁ : ℚ) * 2 ^ e₁) ((s₂.apply m₂ : ℚ) * 2 ^ e₂)) := by
  have positive₁ : (0 : ℚ) < m₁ * 2 ^ e₁ := by positivity
  have positive₂ : (0 : ℚ) < m₂ * 2 ^ e₂ := by positivity
  cases s₁ with
  | negative =>
      cases s₂ with
      | negative =>
          -- both negative: the larger magnitude is the smaller value
          show some ((compare e₁ e₂).then (compare m₁ m₂)).swap = _
          simp only [Sign.apply, Int.cast_neg, Int.cast_natCast, neg_mul]
          rw [compare_magnitudes fits₁ fits₂, swap_compare_eq_compare_neg]
      | positive =>
          simp only [Sign.apply, Int.cast_neg, Int.cast_natCast, neg_mul]
          rw [compare_lt_iff_lt.mpr (by linarith)]
          rfl
  | positive =>
      cases s₂ with
      | negative =>
          simp only [Sign.apply, Int.cast_neg, Int.cast_natCast, neg_mul]
          rw [compare_gt_iff_gt.mpr (by linarith)]
          rfl
      | positive =>
          simp only [Sign.apply, Int.cast_natCast]
          exact congrArg some (compare_magnitudes fits₁ fits₂)

/-- A zero compares with a finite double as zero with its value. -/
theorem compare_zero_finite (s : Sign) :
    (UnpackedFloat.zero s).compare (.finite s₂ m₂ e₂ pos₂) =
      some (compare 0 ((s₂.apply m₂ : ℚ) * 2 ^ e₂)) := by
  have positive : (0 : ℚ) < m₂ * 2 ^ e₂ := by positivity
  cases s₂ with
  | negative =>
      simp only [Sign.apply, Int.cast_neg, Int.cast_natCast, neg_mul]
      rw [compare_gt_iff_gt.mpr (by linarith)]
      rfl
  | positive =>
      simp only [Sign.apply, Int.cast_natCast]
      rw [compare_lt_iff_lt.mpr positive]
      rfl

/-- A finite double compares with a zero as its value with zero. -/
theorem compare_finite_zero (s : Sign) :
    (UnpackedFloat.finite s₁ m₁ e₁ pos₁).compare (.zero s) =
      some (compare ((s₁.apply m₁ : ℚ) * 2 ^ e₁) 0) := by
  have positive : (0 : ℚ) < m₁ * 2 ^ e₁ := by positivity
  cases s₁ with
  | negative =>
      simp only [Sign.apply, Int.cast_neg, Int.cast_natCast, neg_mul]
      rw [compare_lt_iff_lt.mpr (by linarith)]
      rfl
  | positive =>
      simp only [Sign.apply, Int.cast_natCast]
      rw [compare_gt_iff_gt.mpr positive]
      rfl

variable {x y : Float} {a b : ℚ}

/-- Two doubles with values compare as their values. -/
theorem compare_unpack (valueX : value? x = some a) (valueY : value? y = some b) :
    x.toModel.unpack.compare y.toModel.unpack = some (compare a b) := by
  rcases unpack_of_value? valueX with ⟨s₁, unpackedX, rfl⟩ | ⟨s₁, m₁, e₁, pos₁, unpackedX, fits₁, rfl⟩ <;>
    rcases unpack_of_value? valueY with ⟨s₂, unpackedY, rfl⟩ | ⟨s₂, m₂, e₂, pos₂, unpackedY, fits₂, rfl⟩ <;>
    rw [unpackedX, unpackedY]
  · rw [compare_eq_iff_eq.mpr rfl]
    rfl
  · exact compare_zero_finite s₁
  · exact compare_finite_zero s₂
  · exact compare_finite fits₁ fits₂

/-- Of two doubles with values, one is below the other exactly when its value is. -/
theorem lt_iff_of_value? (valueX : value? x = some a) (valueY : value? y = some b) :
    x < y ↔ a < b := by
  rw [lt_iff_unpack_lt]
  simp only [UnpackedFloat.lt, compare_unpack valueX valueY, beq_iff_eq, Option.some.injEq,
    compare_lt_iff_lt]

/-- Two doubles of one nonzero value are the same double. -/
theorem unpack_eq_of_value?_eq (valueX : value? x = some a) (valueY : value? y = some a)
    (nonzero : a ≠ 0) : x.toModel.unpack = y.toModel.unpack := by
  rcases unpack_of_value? valueX with ⟨s₁, -, rfl⟩ | ⟨s₁, m₁, e₁, pos₁, unpackedX, fits₁, worth₁⟩
  · exact absurd rfl nonzero
  rcases unpack_of_value? valueY with ⟨s₂, -, rfl⟩ | ⟨s₂, m₂, e₂, pos₂, unpackedY, fits₂, worth₂⟩
  · exact absurd rfl nonzero
  rw [unpackedX, unpackedY]
  have positive₁ : (0 : ℚ) < m₁ * 2 ^ e₁ := by positivity
  have positive₂ : (0 : ℚ) < m₂ * 2 ^ e₂ := by positivity
  -- the signs agree, as the sign of the value, and then so do the magnitudes
  cases s₁ <;> cases s₂ <;>
    simp only [Sign.apply, Int.cast_neg, Int.cast_natCast, neg_mul] at worth₁ worth₂
  · obtain ⟨rfl, rfl⟩ := eq_of_magnitude_eq fits₁ fits₂ (by linarith)
    rfl
  · linarith
  · linarith
  · obtain ⟨rfl, rfl⟩ := eq_of_magnitude_eq fits₁ fits₂ (by linarith)
    rfl

end Compare

/-! ## Zero and the infinities -/

theorem unpack_zero : (0 : Float).toModel.unpack = .zero .positive := by
  show (Float.ofNat 0).toModel.unpack = _
  rw [ofNat_eq_exactInt (by decide)]
  exact unpack_pack_ofInt (by decide)

theorem value?_zero : value? (0 : Float) = some 0 := by
  unfold value?
  rw [unpack_zero]

/-- A double with a value is a number. -/
theorem isNaN_eq_false_of_value? {x : Float} {a : ℚ} (value : value? x = some a) :
    x.isNaN = false := by
  cases nan : x.isNaN
  · rfl
  · have none := (value?_eq_none_iff x).mpr (.inl nan)
    rw [value] at none
    cases none

/-- An infinity is a number. -/
theorem isNaN_eq_false_of_unpack_infinity {x : Float} {s : Sign}
    (unpacked : x.toModel.unpack = .infinity s) : x.isNaN = false := by
  show x.toModel.unpack.isNaN = false
  rw [unpacked]
  rfl

/-- An infinity is below zero exactly when it is minus infinity. -/
theorem lt_zero_iff_of_unpack_infinity {x : Float} {s : Sign}
    (unpacked : x.toModel.unpack = .infinity s) : x < 0 ↔ s = .negative := by
  rw [lt_iff_unpack_lt, unpacked, unpack_zero]
  cases s with
  | positive => exact iff_of_false (by decide) (by simp)
  | negative => exact iff_of_true (by decide) rfl

/-- Plus infinity is below no double with a value. -/
theorem not_lt_of_unpack_infinity {x y : Float} {b : ℚ}
    (unpacked : x.toModel.unpack = .infinity .positive) (valueY : value? y = some b) : ¬ x < y := by
  rw [lt_iff_unpack_lt, unpacked]
  rcases unpack_of_value? valueY with ⟨s, unpackedY, -⟩ | ⟨s, m, e, pos, unpackedY, -, -⟩ <;>
    rw [unpackedY] <;> cases s <;> exact Bool.false_ne_true

/-- Zero is below no double of sign minus, not even minus zero. -/
theorem not_zero_lt_of_hasSign {y : Float} (signed : HasSign .negative y) : ¬ (0 : Float) < y := by
  rw [lt_iff_unpack_lt, unpack_zero]
  unfold HasSign at signed
  generalize y.toModel.unpack = u at signed ⊢
  cases signed <;> exact Bool.false_ne_true

/-- Truncation leaves an infinity as it is. -/
theorem trunc_of_unpack_infinity {x : Float} {s : Sign} (unpacked : x.toModel.unpack = .infinity s) :
    trunc x = x := by
  unfold trunc
  rw [shape_eq_ofUnpacked, unpacked]
  rfl

/-! ## Adding doubles -/

/-- A mantissa moved down to a lower exponent keeps its value. -/
theorem value_decreaseExponent (s : Sign) (m : ℕ) {e low : ℤ} (le : low ≤ e) :
    ((s.apply (decreaseExponent m e low).1 : ℤ) : ℚ) * 2 ^ low = (s.apply m : ℚ) * 2 ^ e := by
  have shifted : ((decreaseExponent m e low).1 : ℚ) * 2 ^ low = m * 2 ^ e := by
    simp only [decreaseExponent, Nat.shiftLeft_eq, Nat.cast_mul, Nat.cast_pow, Nat.cast_ofNat]
    rw [← zpow_natCast, mul_assoc, ← zpow_add₀ (by norm_num : (2 : ℚ) ≠ 0)]
    congr 2
    omega
  cases s with
  | negative => simp only [Sign.apply, Int.cast_neg, Int.cast_natCast, neg_mul, shifted]
  | positive => simp only [Sign.apply, Int.cast_natCast, shifted]

section Add

variable {x y : Float} {a b : ℚ}

/-- Adding two doubles whose values sum below zero gives a negative number: the mantissas are
added exactly on the smaller exponent, and rounding keeps the sign of the sum. -/
theorem hasSign_add_of_neg (valueX : value? x = some a) (valueY : value? y = some b)
    (negative : a + b < 0) : HasSign .negative (x + y) := by
  show Signed _ (unpack Format.binary64 (pack Format.binary64
    (UnpackedFloat.add Format.binary64 x.toModel.unpack y.toModel.unpack)))
  apply Signed.unpack_pack
  rcases unpack_of_value? valueX with ⟨s₁, unpackedX, rfl⟩ | ⟨s₁, m₁, e₁, pos₁, unpackedX, -, rfl⟩ <;>
    rcases unpack_of_value? valueY with ⟨s₂, unpackedY, rfl⟩ | ⟨s₂, m₂, e₂, pos₂, unpackedY, -, rfl⟩ <;>
    rw [unpackedX, unpackedY]
  · norm_num at negative
  · -- a zero and a finite double: the sum is the finite one, of the sign of its value
    cases s₂ with
    | negative => exact .finite _ _ _
    | positive =>
        simp only [Sign.apply, Int.cast_natCast, zero_add] at negative
        exact absurd negative (not_lt.mpr (by positivity))
  · cases s₁ with
    | negative => exact .finite _ _ _
    | positive =>
        simp only [Sign.apply, Int.cast_natCast, add_zero] at negative
        exact absurd negative (not_lt.mpr (by positivity))
  · -- two finite doubles: their mantissas sum to a negative integer on the smaller exponent
    simp only [UnpackedFloat.add]
    set low := min e₁ e₂
    set sum := s₁.apply (decreaseExponent m₁ e₁ low).1 + s₂.apply (decreaseExponent m₂ e₂ low).1
    have worth : (sum : ℚ) * 2 ^ low = (s₁.apply m₁ : ℚ) * 2 ^ e₁ + (s₂.apply m₂ : ℚ) * 2 ^ e₂ := by
      rw [Int.cast_add, add_mul, value_decreaseExponent _ _ (min_le_left e₁ e₂),
        value_decreaseExponent _ _ (min_le_right e₁ e₂)]
    have below : sum < 0 := by
      have scaled : (sum : ℚ) * 2 ^ low < 0 := by rw [worth]; exact negative
      have : (sum : ℚ) < 0 := by
        by_contra nonneg
        exact absurd scaled (not_lt.mpr (mul_nonneg (not_lt.mp nonneg) (by positivity)))
      exact_mod_cast this
    have minus : sum = Sign.negative.apply ((-sum).toNat : ℤ) := by
      simp only [Sign.apply]
      omega
    rw [minus]
    exact Signed.normalize _ .negative (by omega) _ _

/-- Adding an infinity to a double with a value gives that infinity. -/
theorem hasSign_add_infinity {s : Sign} (valueX : value? x = some a)
    (unpacked : y.toModel.unpack = .infinity s) : HasSign s (x + y) := by
  show Signed _ (unpack Format.binary64 (pack Format.binary64
    (UnpackedFloat.add Format.binary64 x.toModel.unpack y.toModel.unpack)))
  apply Signed.unpack_pack
  rw [unpacked]
  rcases unpack_of_value? valueX with ⟨s₁, unpackedX, -⟩ | ⟨s₁, m₁, e₁, pos₁, unpackedX, -, -⟩ <;>
    rw [unpackedX] <;> exact .infinity

/-- Two doubles holding nonzero integers below `2^53` in magnitude add exactly while their sum
stays below that bound. -/
theorem value?_add_of_int {a b : ℤ} (valueX : value? x = some (a : ℚ))
    (valueY : value? y = some (b : ℚ)) (nonzeroA : a ≠ 0) (nonzeroB : b ≠ 0)
    (smallA : a.natAbs < 2 ^ 53) (smallB : b.natAbs < 2 ^ 53) (smallSum : (a + b).natAbs < 2 ^ 53) :
    value? (x + y) = some ((a + b : ℤ) : ℚ) := by
  have exactDouble : ∀ {z : ℤ}, z.natAbs < 2 ^ 53 →
      (Float.ofInt z).toModel.unpack = UnpackedFloat.ofInt Format.binary64 z := fun small => by
    rw [ofInt_eq_exactInt small]
    exact unpack_pack_ofInt small
  have unpackedX : x.toModel.unpack = UnpackedFloat.ofInt Format.binary64 a := by
    rw [← exactDouble smallA]
    exact unpack_eq_of_value?_eq valueX (value?_ofInt smallA) (by exact_mod_cast nonzeroA)
  have unpackedY : y.toModel.unpack = UnpackedFloat.ofInt Format.binary64 b := by
    rw [← exactDouble smallB]
    exact unpack_eq_of_value?_eq valueY (value?_ofInt smallB) (by exact_mod_cast nonzeroB)
  have sum : (x + y).toModel.unpack = (Float.ofInt (a + b)).toModel.unpack := by
    show unpack Format.binary64 (pack Format.binary64
      (UnpackedFloat.add Format.binary64 x.toModel.unpack y.toModel.unpack)) = _
    rw [unpackedX, unpackedY, add_ofInt smallA smallB smallSum, unpack_pack_ofInt smallSum,
      exactDouble smallSum]
  rw [← value?_ofInt smallSum]
  unfold value?
  rw [sum]

end Add

/-! ## Casting to machine words -/

/-- The model's truncation of a finite double to an integer is the integer part of its
magnitude, with its sign. -/
theorem roundToInt_eq (s : Sign) (m : ℕ) (e : ℤ) (flag : Bool) :
    roundToInt s m e = s.apply (Binary.truncNat ⟨m, e, flag⟩) := by
  unfold roundToInt Binary.truncNat
  simp only [decreaseExponent, shiftToExponent, ExtendedMantissa.ofMantissaAndAccuracy,
    mantissa_shiftRight, Nat.shiftLeft_eq, Nat.pow_eq, Int.sub_zero]
  split_ifs with whole
  · rw [show (0 - (e - (e.toNat : ℤ))).toNat = 0 by omega]
    simp
  · rw [show e.toNat = 0 by omega]
    simp

/-- The cast of a double with a value to an integer, whatever it does with the infinities, is
the value truncated toward zero. -/
theorem toInt_of_value? {x : Float} {q : ℚ} (value : value? x = some q) (low high : ℤ) :
    x.toModel.unpack.toInt low high = truncRat q := by
  have integer := truncInt?_eq_map_value? x
  rw [value, Option.map_some] at integer
  unfold truncInt? at integer
  rw [shape_eq_ofUnpacked] at integer
  unfold value? at value
  cases unpacked : x.toModel.unpack with
  | notANumber => rw [unpacked] at value; cases value
  | infinity s => rw [unpacked] at value; cases value
  | zero s =>
      simp only [unpacked, Shape.ofUnpacked, Binary.truncNat_zero, Nat.cast_zero, neg_zero, ite_self,
        Option.some.injEq] at integer
      rw [← integer]
      rfl
  | finite s m e pos =>
      simp only [unpacked, Shape.ofUnpacked, Option.some.injEq] at integer
      rw [← integer]
      show roundToInt s m e = _
      rw [roundToInt_eq s m e (decide (m = Nat.pow 2 52 ∧ -1074 < e))]
      cases s <;> rfl

/-- A double holding a natural below `2^64` is cast to that machine word. -/
theorem toUInt64_of_value? {x : Float} {k : ℕ} (value : value? x = some (k : ℚ))
    (small : k < 2 ^ 64) : x.toUInt64.toNat = k := by
  show (UInt64.ofNatClamp (x.toModel.unpack.toInt 0 (UInt64.size - 1)).toNat).toNat = k
  rw [toInt_of_value? value, show truncRat (k : ℚ) = k by simp [truncRat],
    Int.toNat_natCast, UInt64.ofNatClamp_eq_ofNat _ small, UInt64.toNat_ofNat_of_lt' small]

end Blueprint.Number
