import Blueprint.Number.Word
import Blueprint.Proofs.Number.ExactIntegers

/-!
# Reading doubles as the logical model of floats does

The runtime reads a double's bits into a `Shape`: NaN, an infinity, or a sign and a
magnitude `mantissa * 2^exponent`. Lean's logical model of floats unpacks the same bits into
its own form, and the operations on floats are defined on that form. This module shows that
the two readings agree on every bit pattern (`Shape.ofBits_eq_ofUnpacked`), so that facts
proved about the model's operations speak about the runtime's numbers.

On that basis it defines the exact rational value of a finite double (`Number.value?`), and
shows that the runtime's truncation toward zero gives the integer part of that value
(`truncInt?_eq_truncRat`), that NaN and the infinities are exactly the doubles without a value,
and that an integer below `2^53` in magnitude is the value of its double.
-/

namespace Blueprint.Number

open Float.Model UnpackedFloat

/-- Whether a sign of the logical model is the minus sign. -/
def signNegative : Sign → Bool
  | .negative => true
  | .positive => false

/-- The shape of a double as the logical model unpacks it. A zero is a zero magnitude on the
exponent of the subnormals, and the smallest value of each binade but the first has the lower
neighbour at half the distance. -/
def Shape.ofUnpacked : UnpackedFloat → Shape
  | .notANumber => .nan
  | .infinity s => .infinite (signNegative s)
  | .zero s => .finite (signNegative s) ⟨0, -1074, false⟩
  | .finite s m e _ => .finite (signNegative s) ⟨m, e, decide (m = Nat.pow 2 52 ∧ -1074 < e)⟩

/-- The runtime's reading of 64 bits agrees with the logical model's unpacking of them. -/
theorem Shape.ofBits_eq_ofUnpacked (bits : UInt64) :
    Shape.ofBits bits = Shape.ofUnpacked (UnpackedFloat.unpack Format.binary64 bits.toBitVec) := by
  -- the three fields of the word, as naturals, on both sides
  have exponent : (@unpackExponent Format.binary64 bits.toBitVec).toNat =
      bits.toNat / 2 ^ 52 % 2 ^ 11 := by
    rw [unpackExponent_def]
    simp [BitVec.extractLsb'_toNat, Nat.shiftRight_eq_div_pow]
  have mantissa : (@unpackMantissa Format.binary64 bits.toBitVec).toNat =
      bits.toNat % 2 ^ 52 := by
    rw [unpackMantissa_def]
    simp [BitVec.extractLsb'_toNat]
  have sign : (@unpackSign Format.binary64 bits.toBitVec).toNat = bits.toNat / 2 ^ 63 := by
    have below := bits.toNat_lt
    rw [unpackSign_def]
    simp [BitVec.extractLsb'_toNat, Nat.shiftRight_eq_div_pow]
    omega
  have biased : ((bits >>> 52) &&& 0x7FF).toNat = bits.toNat / 2 ^ 52 % 2 ^ 11 := by
    simp only [UInt64.toNat_and, UInt64.toNat_shiftRight, Nat.shiftRight_eq_div_pow]
    exact Nat.and_two_pow_sub_one_eq_mod _ 11
  have fraction : (bits &&& 0xFFFFFFFFFFFFF).toNat = bits.toNat % 2 ^ 52 := by
    simp only [UInt64.toNat_and]
    exact Nat.and_two_pow_sub_one_eq_mod _ 52
  have negative : (bits >>> 63 == 1) = decide (2 ^ 63 ≤ bits.toNat) := by
    have below := bits.toNat_lt
    rw [Bool.eq_iff_iff, beq_iff_eq, decide_eq_true_iff, ← UInt64.toNat_inj]
    simp only [UInt64.toNat_shiftRight, Nat.shiftRight_eq_div_pow]
    simp
    omega
  have allOnes : @unpackExponent Format.binary64 bits.toBitVec = -1#11 ↔
      bits.toNat / 2 ^ 52 % 2 ^ 11 = 2047 := by
    rw [← BitVec.toNat_inj, exponent]
    simp
  have zeroExponent : @unpackExponent Format.binary64 bits.toBitVec = 0#11 ↔
      bits.toNat / 2 ^ 52 % 2 ^ 11 = 0 := by
    rw [← BitVec.toNat_inj, exponent]
    simp
  have zeroMantissa : @unpackMantissa Format.binary64 bits.toBitVec = 0#52 ↔
      bits.toNat % 2 ^ 52 = 0 := by
    rw [← BitVec.toNat_inj, mantissa]
    simp
  have signOf : signNegative (Sign.ofBitVec (@unpackSign Format.binary64 bits.toBitVec)) =
      decide (2 ^ 63 ≤ bits.toNat) := by
    have below := bits.toNat_lt
    unfold Sign.ofBitVec
    split_ifs with zero
    all_goals
      rw [← BitVec.toNat_inj, sign] at zero
      simp only [BitVec.toNat_ofNat] at zero
      simp [signNegative]
      omega
  have lead : (1#1 ++ @unpackMantissa Format.binary64 bits.toBitVec).toNat =
      2 ^ 52 + bits.toNat % 2 ^ 52 := by
    rw [BitVec.toNat_append, mantissa,
      ← Nat.shiftLeft_add_eq_or_of_lt (Nat.mod_lt _ (Nat.two_pow_pos 52))]
    simp [Nat.shiftLeft_eq]
  unfold Shape.ofBits UnpackedFloat.unpack
  simp only [biased, fraction, negative, allOnes, zeroExponent, zeroMantissa, beq_iff_eq]
  -- both sides now test the same conditions on the exponent and fraction fields
  split_ifs with top empty low empty'
  · simp only [Shape.ofUnpacked, signOf]
  · rfl
  · simp only [Shape.ofUnpacked, signOf, empty']
  · -- a subnormal sits on the exponent of the smallest normals
    simp only [Shape.ofUnpacked, signOf, mantissa, exponent, Format.exponentBias, low]
    congr 2
    norm_num
  · -- a normal has its leading bit made explicit
    simp only [Shape.ofUnpacked, signOf, lead, exponent, Format.exponentBias]
    congr 2
    norm_num
    rw [Bool.eq_iff_iff]
    simp only [Bool.and_eq_true, beq_iff_eq, decide_eq_true_eq]
    omega

/-- The shape of a double is the logical model's unpacking of it. -/
theorem shape_eq_ofUnpacked (x : Float) : shape x = Shape.ofUnpacked x.toModel.unpack :=
  Shape.ofBits_eq_ofUnpacked x.toModel.toBits

/-! ## The value of a double -/

/-- The exact value of a finite double, as the logical model unpacks it; NaN and the infinities
have none. -/
def value? (x : Float) : Option ℚ :=
  match x.toModel.unpack with
  | .zero _ => some 0
  | .finite s m e _ => some ((s.apply m : ℚ) * 2 ^ e)
  | .infinity _ | .notANumber => none

/-- Exactly NaN and the infinities have no value. -/
theorem value?_eq_none_iff (x : Float) : value? x = none ↔ x.isNaN = true ∨ x.isInf = true := by
  unfold value? Float.isNaN Float.isInf Float.Model.isNaN Float.Model.isInf
  cases x.toModel.unpack <;> simp [UnpackedFloat.isNaN, UnpackedFloat.isInf]

/-- A rational rounded toward zero. -/
def truncRat (q : ℚ) : ℤ := if 0 ≤ q then ⌊q⌋ else ⌈q⌉

/-- The integer part of a magnitude is the floor of its value. -/
theorem floor_magnitude (b : Binary) : ⌊(b.mantissa : ℚ) * 2 ^ b.exponent⌋ = b.truncNat := by
  unfold Binary.truncNat
  split_ifs with above
  · -- a whole number: the mantissa shifted up
    obtain ⟨k, hk⟩ := Int.eq_ofNat_of_zero_le above
    rw [hk, zpow_natCast, Int.toNat_natCast, Nat.pow_eq]
    exact_mod_cast Int.floor_natCast (b.mantissa * 2 ^ k)
  · -- a fraction: the mantissa shifted down
    obtain ⟨k, hk⟩ := Int.exists_eq_neg_ofNat (Int.le_of_lt (Int.not_le.mp above))
    rw [hk, zpow_neg, zpow_natCast, neg_neg, Int.toNat_natCast, ← div_eq_mul_inv, Nat.pow_eq]
    have cast : ((2 : ℚ) ^ k) = ((2 ^ k : ℕ) : ℚ) := by norm_cast
    rw [cast, Int.floor_div_natCast, Int.floor_natCast]
    norm_cast

/-- A zero magnitude has no integer part, on any exponent. -/
@[simp] theorem Binary.truncNat_zero (e : ℤ) (flag : Bool) : Binary.truncNat ⟨0, e, flag⟩ = 0 := by
  unfold Binary.truncNat
  split_ifs <;> simp

/-- Truncating a double toward zero gives the integer part of its value, and a double without
a value gives none. -/
theorem truncInt?_eq_map_value? (x : Float) : truncInt? x = (value? x).map truncRat := by
  unfold truncInt? value?
  rw [shape_eq_ofUnpacked]
  cases x.toModel.unpack with
  | notANumber => rfl
  | infinity s => rfl
  | zero s => cases s <;> simp only [Shape.ofUnpacked, signNegative, Binary.truncNat_zero] <;> rfl
  | finite s m e pos =>
      have value := floor_magnitude ⟨m, e, false⟩
      have positive : (0 : ℚ) < (m : ℚ) * 2 ^ e := by positivity
      cases s with
      | positive =>
          simp only [Shape.ofUnpacked, signNegative, Sign.apply, Int.cast_natCast,
            Option.map_some, truncRat, if_pos positive.le, Bool.false_eq_true, if_false]
          rw [value]
          rfl
      | negative =>
          have negative : ¬ (0 : ℚ) ≤ -((m : ℚ) * 2 ^ e) := by linarith
          simp only [Shape.ofUnpacked, signNegative, Sign.apply, Int.cast_neg, Int.cast_natCast,
            Option.map_some, truncRat, neg_mul, if_neg negative, Int.ceil_neg, if_true]
          rw [value]
          rfl

/-- An integer below `2^53` in magnitude is the value of its double. -/
theorem value?_ofInt {z : ℤ} (small : z.natAbs < 2 ^ 53) : value? (Float.ofInt z) = some (z : ℚ) := by
  rw [ofInt_eq_exactInt small]
  have unpacked : (exactInt z).toModel.unpack = UnpackedFloat.ofInt Format.binary64 z :=
    unpack_pack_ofInt small
  unfold value?
  rw [unpacked]
  by_cases zero : z = 0
  · subst zero
    rfl
  · rw [ofInt_eq_finite zero small]
    have signed := apply_intSign z (2 ^ gap z.natAbs)
    simp only [Option.some.injEq]
    rw [signed]
    push_cast
    rw [mul_assoc, ← zpow_natCast, ← zpow_add₀ (by norm_num), add_neg_cancel, zpow_zero, mul_one]

/-- A natural below `2^53` is the value of its double. -/
theorem value?_ofNat {i : Nat} (small : i < 2 ^ 53) : value? i.toFloat = some (i : ℚ) := by
  have same : Float.ofNat i = Float.ofInt i := by
    rw [ofNat_eq_exactInt small, ofInt_eq_exactInt (by simpa using small)]
  show value? (Float.ofNat i) = _
  rw [same, value?_ofInt (by simpa using small)]
  simp

end Blueprint.Number
