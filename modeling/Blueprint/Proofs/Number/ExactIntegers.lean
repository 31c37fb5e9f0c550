import Mathlib

/-!
# Integers held exactly in doubles

A double holds every integer below `2^53` in magnitude exactly, and adding two such integers as
doubles is exact as long as the sum stays below that bound, as is multiplying two naturals while
the product does; comparing them as doubles compares them as integers. This module proves these facts for the logical model of doubles the runtime's
numbers are defined by: an unpacked double is a sign, a natural mantissa and an exponent, and an
operation unpacks its arguments, computes on them exactly, rounds to the format and packs again.

The key fact is that rounding loses nothing on such an integer, whatever zero bits its mantissa
carries (`round_int`): it is brought to the canonical form `n * 2^(gap n)` with exponent
`-(gap n)`, where `gap n` is how far `n` must be shifted to fill the 53 bits of a mantissa.
Addition aligns the two mantissas on the smaller exponent, which shifts zero bits in, so its
result normalizes to the canonical form of the sum (`add_ofInt`). Canonical forms compare by
exponent and then by mantissa, which is the order of the integers (`compare_ofInt`).

The statements about `Float` itself are `ofInt_add_ofInt`, `ofInt_lt_ofInt` and
`ofInt_beq_ofInt`.
-/

namespace Blueprint.Number

open Float.Model Float.Model.UnpackedFloat

/-! ## Shifting mantissas -/


theorem repeat_succ_inner {α : Type} (f : α → α) (n : Nat) (a : α) :
    Nat.repeat f (n + 1) a = Nat.repeat f n (f a) := by
  induction n with
  | zero => rfl
  | succ n ih =>
      show f (Nat.repeat f (n + 1) a) = f (Nat.repeat f n (f a))
      rw [ih]

/-- Shifting out bits that are all zero loses nothing. -/
theorem shiftRight_exact (m k : Nat) :
    (⟨m * 2 ^ k, false, false⟩ : ExtendedMantissa) >>> k = ⟨m, false, false⟩ := by
  induction k generalizing m with
  | zero => simp [HShiftRight.hShiftRight, Nat.repeat]
  | succ k ih =>
      show Nat.repeat ExtendedMantissa.shiftRightOne (k + 1) _ = _
      rw [repeat_succ_inner]
      have one : ExtendedMantissa.shiftRightOne ⟨m * 2 ^ (k + 1), false, false⟩ =
          ⟨m * 2 ^ k, false, false⟩ := by
        simp only [ExtendedMantissa.shiftRightOne, Bool.or_false, ExtendedMantissa.mk.injEq,
          and_true]
        constructor
        · rw [Nat.pow_succ, ← Nat.mul_assoc, Nat.mul_div_cancel _ (by decide)]
        · rw [Nat.pow_succ, ← Nat.mul_assoc, Nat.mul_mod_left]
          rfl
      rw [one]
      exact ih m

theorem log2_mul_pow {n : Nat} (k : Nat) (pos : 0 < n) : (n * 2 ^ k).log2 = n.log2 + k := by
  have nz : n * 2 ^ k ≠ 0 := by positivity
  rw [Nat.log2_eq_iff nz]
  have low := Nat.log2_self_le (Nat.pos_iff_ne_zero.mp pos)
  have high := Nat.lt_log2_self (n := n)
  constructor
  · rw [Nat.pow_add]
    exact Nat.mul_le_mul_right _ low
  · rw [show n.log2 + k + 1 = n.log2 + 1 + k by omega, Nat.pow_add]
    exact Nat.mul_lt_mul_of_pos_right high (by positivity)

/-- Whether `m * 2^e` is in the form the double format gives it: its exponent is the one the
format assigns to its magnitude. -/
def Canonical (m : Nat) (e : Int) : Prop :=
  Format.binary64.targetExponent (totalExponent m e) = e

theorem totalExponent_shifted {m : Nat} (pos : 0 < m) (e : Int) (k : Nat) :
    totalExponent (m * 2 ^ k) (e - k) = totalExponent m e := by
  simp only [totalExponent, log2_mul_pow k pos]
  omega

theorem shiftToTargetExponent_shifted {m : Nat} {e : Int} (pos : 0 < m)
    (canonical : Canonical m e) (k : Nat) :
    shiftToTargetExponent Format.binary64 (m * 2 ^ k) (e - k) .exact =
      (⟨m, false, false⟩, e) := by
  have target : Format.binary64.targetExponent (totalExponent m e) = e := canonical
  simp only [shiftToTargetExponent, totalExponent_shifted pos, target, shiftToExponent,
    ExtendedMantissa.ofMantissaAndAccuracy]
  rw [show (e - (e - k)).toNat = k by omega, shiftRight_exact]
  simp

theorem roundWithAccuracy_shifted (s : Sign) {m : Nat} {e : Int} (pos : 0 < m)
    (canonical : Canonical m e) (k : Nat) :
    roundWithAccuracy Format.binary64 s (m * 2 ^ k) (e - k) .exact = .finite s m e pos := by
  have again := shiftToTargetExponent_shifted pos canonical 0
  simp only [Nat.pow_zero, Nat.mul_one, Nat.cast_zero, Int.sub_zero] at again
  simp only [roundWithAccuracy, shiftToTargetExponent_shifted pos canonical k,
    ExtendedMantissa.roundedMantissa, ExtendedMantissa.accuracy, Accuracy.roundToNearestEven, again,
    Nat.pos_iff_ne_zero.mp pos, dite_false]

/-! ## Rounding integers -/

/-- The bits a positive integer below `2^53` is shifted up by in its double: enough to fill the
53 bits of a mantissa. -/
def gap (n : Nat) : Nat := 52 - n.log2

theorem log2_le_of_small {n : Nat} (pos : 0 < n) (small : n < 2 ^ 53) : n.log2 ≤ 52 := by
  have := (Nat.log2_lt (Nat.pos_iff_ne_zero.mp pos)).mpr small
  omega

theorem targetExponent_int {n : Nat} (pos : 0 < n) (small : n < 2 ^ 53) (k : Nat) :
    Format.binary64.targetExponent (totalExponent (n * 2 ^ k) (-k)) = -(gap n : Int) := by
  have low := log2_le_of_small pos small
  simp only [Format.targetExponent, totalExponent, log2_mul_pow k pos, Format.mantissaBits,
    Format.minExponent, gap]
  norm_num
  omega

theorem canonical_int {n : Nat} (pos : 0 < n) (small : n < 2 ^ 53) :
    Canonical (n * 2 ^ gap n) (-(gap n : Int)) :=
  targetExponent_int pos small (gap n)

/-- A positive integer below `2^53`, given as any mantissa with zero bits shifted in, rounds to
itself: its double holds it exactly, with the mantissa filled to 53 bits. -/
theorem round_int (s : Sign) {n : Nat} (pos : 0 < n) (small : n < 2 ^ 53) (k : Nat) :
    UnpackedFloat.round Format.binary64 s (n * 2 ^ k) (-k) =
      .finite s (n * 2 ^ gap n) (-(gap n : Int)) (by positivity) := by
  have canonical := canonical_int pos small
  have mpos : 0 < n * 2 ^ gap n := by positivity
  simp only [UnpackedFloat.round, targetExponent_int pos small k, decreaseExponent]
  by_cases within : k ≤ gap n
  · -- the mantissa is shifted up to the full 53 bits first
    rw [show (-(k : Int) - -(gap n : Int)).toNat = gap n - k by omega, Nat.shiftLeft_eq,
      Nat.mul_assoc, ← Nat.pow_add, Nat.add_sub_cancel' within,
      show -(k : Int) - ((gap n - k : Nat) : Int) = -(gap n : Int) - ((0 : Nat) : Int) by omega]
    simpa using roundWithAccuracy_shifted s mpos canonical 0
  · -- the mantissa has more bits than 53, all of them zero past the first 53
    rw [show (-(k : Int) - -(gap n : Int)).toNat = 0 by omega, Nat.shiftLeft_zero,
      show n * 2 ^ k = n * 2 ^ gap n * 2 ^ (k - gap n) by
        rw [Nat.mul_assoc, ← Nat.pow_add, Nat.add_sub_cancel' (by omega)],
      show -(k : Int) - ((0 : Nat) : Int) = -(gap n : Int) - ((k - gap n : Nat) : Int) by omega]
    exact roundWithAccuracy_shifted s mpos canonical (k - gap n)

/-- The sign a double gives a nonzero integer. -/
def intSign (z : Int) : Sign := if z < 0 then .negative else .positive

theorem apply_intSign (z : Int) (c : Nat) :
    (intSign z).apply ((z.natAbs * c : Nat) : Int) = z * c := by
  unfold intSign
  split
  · simp only [Sign.apply, Nat.cast_mul, Int.natCast_natAbs]
    rw [abs_of_neg (by assumption)]
    ring
  · simp only [Sign.apply, Nat.cast_mul, Int.natCast_natAbs]
    rw [abs_of_nonneg (by omega)]

/-- A nonzero integer below `2^53` in magnitude, given with zero bits shifted in, normalizes to
its exact double. -/
theorem normalize_int {z : Int} (nz : z ≠ 0) (small : z.natAbs < 2 ^ 53) (k : Nat)
    (zs : Sign) :
    UnpackedFloat.normalize Format.binary64 (z * 2 ^ k) (-k) zs =
      .finite (intSign z) (z.natAbs * 2 ^ gap z.natAbs) (-(gap z.natAbs : Int))
        (by have := Int.natAbs_pos.mpr nz; positivity) := by
  have pos : 0 < z.natAbs := Int.natAbs_pos.mpr nz
  have magnitude : ((z * 2 ^ k).natAbs) = z.natAbs * 2 ^ k := by
    rw [Int.natAbs_mul, Int.natAbs_pow]
    rfl
  unfold UnpackedFloat.normalize
  rcases lt_or_gt_of_ne nz with negative | positive
  · have below : z * 2 ^ k < 0 := Int.mul_neg_of_neg_of_pos negative (by positivity)
    rw [(compare_lt_iff_lt).mpr below]
    rw [show (-(z * 2 ^ k)).toNat = z.natAbs * 2 ^ k by omega]
    rw [round_int .negative pos small k]
    simp [intSign, negative]
  · have above : 0 < z * 2 ^ k := Int.mul_pos positive (by positivity)
    rw [(compare_gt_iff_gt).mpr above]
    rw [show (z * 2 ^ k).toNat = z.natAbs * 2 ^ k by omega]
    rw [round_int .positive pos small k]
    simp [intSign, not_lt.mpr positive.le]

/-- The exact double of a nonzero integer below `2^53` in magnitude. -/
theorem ofInt_eq_finite {z : Int} (nz : z ≠ 0) (small : z.natAbs < 2 ^ 53) :
    UnpackedFloat.ofInt Format.binary64 z =
      .finite (intSign z) (z.natAbs * 2 ^ gap z.natAbs) (-(gap z.natAbs : Int))
        (by have := Int.natAbs_pos.mpr nz; positivity) := by
  have exact := normalize_int nz small 0 .positive
  simp only [pow_zero, mul_one, Nat.cast_zero, neg_zero] at exact
  exact exact

theorem ofInt_zero : UnpackedFloat.ofInt Format.binary64 0 = .zero .positive := rfl

/-- Adding the exact doubles of two integers whose sum is below `2^53` in magnitude gives the
exact double of the sum. -/
theorem add_ofInt {a b : Int} (smallA : a.natAbs < 2 ^ 53) (smallB : b.natAbs < 2 ^ 53)
    (smallSum : (a + b).natAbs < 2 ^ 53) :
    UnpackedFloat.add Format.binary64 (.ofInt Format.binary64 a) (.ofInt Format.binary64 b) =
      .ofInt Format.binary64 (a + b) := by
  by_cases za : a = 0
  · subst za
    by_cases zb : b = 0
    · subst zb
      rfl
    · rw [ofInt_zero, ofInt_eq_finite zb smallB, Int.zero_add, ofInt_eq_finite zb smallB]
      rfl
  by_cases zb : b = 0
  · subst zb
    rw [ofInt_zero, ofInt_eq_finite za smallA, Int.add_zero, ofInt_eq_finite za smallA]
    rfl
  -- both are finite: the mantissas are aligned on the larger gap and added as integers
  rw [ofInt_eq_finite za smallA, ofInt_eq_finite zb smallB]
  simp only [UnpackedFloat.add, decreaseExponent, Nat.shiftLeft_eq]
  set D := max (gap a.natAbs) (gap b.natAbs)
  have lowest : min (-(gap a.natAbs : Int)) (-(gap b.natAbs : Int)) = -(D : Int) := by omega
  have alignA : a.natAbs * 2 ^ gap a.natAbs * 2 ^ (-(gap a.natAbs : Int) - -(D : Int)).toNat =
      a.natAbs * 2 ^ D := by
    rw [show (-(gap a.natAbs : Int) - -(D : Int)).toNat = D - gap a.natAbs by omega, Nat.mul_assoc,
      ← Nat.pow_add, Nat.add_sub_cancel' (by omega)]
  have alignB : b.natAbs * 2 ^ gap b.natAbs * 2 ^ (-(gap b.natAbs : Int) - -(D : Int)).toNat =
      b.natAbs * 2 ^ D := by
    rw [show (-(gap b.natAbs : Int) - -(D : Int)).toNat = D - gap b.natAbs by omega, Nat.mul_assoc,
      ← Nat.pow_add, Nat.add_sub_cancel' (by omega)]
  rw [lowest, alignA, alignB, apply_intSign, apply_intSign, ← Int.add_mul]
  by_cases cancel : a + b = 0
  · rw [cancel, Int.zero_mul]
    rfl
  · rw [Nat.cast_pow, Nat.cast_ofNat, normalize_int cancel smallSum,
      ofInt_eq_finite cancel smallSum]

theorem intSign_natCast (n : Nat) : intSign n = .positive := by
  simp [intSign]

theorem log2_add_le_log2_mul {a b : Nat} (pa : 0 < a) (pb : 0 < b) :
    a.log2 + b.log2 ≤ (a * b).log2 := by
  rw [Nat.le_log2 (Nat.mul_ne_zero (Nat.pos_iff_ne_zero.mp pa) (Nat.pos_iff_ne_zero.mp pb)),
    Nat.pow_add]
  exact Nat.mul_le_mul (Nat.log2_self_le (Nat.pos_iff_ne_zero.mp pa))
    (Nat.log2_self_le (Nat.pos_iff_ne_zero.mp pb))

/-- Multiplying the exact doubles of two naturals whose product is below `2^53` gives the exact
double of the product. -/
theorem mul_ofNat {a b : Nat} (smallA : a < 2 ^ 53) (smallB : b < 2 ^ 53)
    (smallProduct : a * b < 2 ^ 53) :
    UnpackedFloat.mul Format.binary64 (.ofInt Format.binary64 a) (.ofInt Format.binary64 b) =
      .ofInt Format.binary64 (a * b) := by
  have product : ((a : Int) * b).natAbs = a * b := by
    rw [Int.natAbs_mul, Int.natAbs_natCast, Int.natAbs_natCast]
  rcases Nat.eq_zero_or_pos a with za | pa
  · subst za
    rcases Nat.eq_zero_or_pos b with zb | pb
    · subst zb
      rfl
    · rw [ofInt_eq_finite (z := b) (by omega) (by simpa using smallB), intSign_natCast,
        Nat.cast_zero, Int.zero_mul]
      rfl
  rcases Nat.eq_zero_or_pos b with zb | pb
  · subst zb
    rw [ofInt_eq_finite (z := a) (by omega) (by simpa using smallA), intSign_natCast,
      Nat.cast_zero, Int.mul_zero]
    rfl
  -- both are finite: the product of the mantissas carries the zero bits of both
  have pab : 0 < a * b := Nat.mul_pos pa pb
  rw [ofInt_eq_finite (z := a) (by omega) (by simpa using smallA),
    ofInt_eq_finite (z := b) (by omega) (by simpa using smallB),
    ofInt_eq_finite (z := a * b) (by positivity) (by rwa [product])]
  have positive : intSign ((a : Int) * b) = .positive := by
    rw [← Nat.cast_mul, intSign_natCast]
  simp only [Int.natAbs_natCast, intSign_natCast, UnpackedFloat.mul, product, positive]
  have sign : Sign.positive * Sign.positive = Sign.positive := rfl
  have logs := log2_add_le_log2_mul pa pb
  have bound := log2_le_of_small pab smallProduct
  set k := gap a + gap b - gap (a * b)
  have mantissa : a * 2 ^ gap a * (b * 2 ^ gap b) = a * b * 2 ^ gap (a * b) * 2 ^ k := by
    rw [Nat.mul_assoc (a * b), ← Nat.pow_add, show gap (a * b) + k = gap a + gap b by
      simp only [k, gap]; omega, Nat.pow_add]
    ring
  have exponent : -(gap a : Int) + -(gap b : Int) = -(gap (a * b) : Int) - (k : Int) := by
    simp only [k, gap]
    omega
  rw [sign, mantissa, exponent]
  exact roundWithAccuracy_shifted _ _ (canonical_int pab smallProduct) k

/-! ## Comparing integers -/

theorem log2_lt_of_lt_log2 {n₁ n₂ : Nat} (pos₂ : 0 < n₂)
    (lower : n₁.log2 < n₂.log2) : n₁ < n₂ :=
  calc n₁ < 2 ^ (n₁.log2 + 1) := Nat.lt_log2_self
    _ ≤ 2 ^ n₂.log2 := Nat.pow_le_pow_right (by decide) lower
    _ ≤ n₂ := Nat.log2_self_le (Nat.pos_iff_ne_zero.mp pos₂)

/-- Exact doubles of positive integers compare as the integers do: by exponent first, and by
mantissa within one exponent. -/
theorem compare_canonical {n₁ n₂ : Nat} (pos₁ : 0 < n₁) (pos₂ : 0 < n₂)
    (small₁ : n₁ < 2 ^ 53) (small₂ : n₂ < 2 ^ 53) :
    (compare (-(gap n₁ : Int)) (-(gap n₂ : Int))).then
      (compare (n₁ * 2 ^ gap n₁) (n₂ * 2 ^ gap n₂)) = compare n₁ n₂ := by
  have bound₁ := log2_le_of_small pos₁ small₁
  have bound₂ := log2_le_of_small pos₂ small₂
  rcases lt_trichotomy n₁.log2 n₂.log2 with lower | same | higher
  · have exponents : -(gap n₁ : Int) < -(gap n₂ : Int) := by simp only [gap]; omega
    rw [(compare_lt_iff_lt).mpr exponents,
      (compare_lt_iff_lt).mpr (log2_lt_of_lt_log2 pos₂ lower)]
    rfl
  · have gaps : gap n₁ = gap n₂ := by simp only [gap, same]
    rw [gaps, (compare_eq_iff_eq).mpr rfl]
    show compare (n₁ * 2 ^ gap n₂) (n₂ * 2 ^ gap n₂) = compare n₁ n₂
    rcases lt_trichotomy n₁ n₂ with less | equal | greater
    · rw [(compare_lt_iff_lt).mpr less, (compare_lt_iff_lt).mpr
        (Nat.mul_lt_mul_of_pos_right less (by positivity))]
    · rw [equal, (compare_eq_iff_eq).mpr rfl, (compare_eq_iff_eq).mpr rfl]
    · rw [(compare_gt_iff_gt).mpr greater, (compare_gt_iff_gt).mpr
        (Nat.mul_lt_mul_of_pos_right greater (by positivity))]
  · have exponents : -(gap n₂ : Int) < -(gap n₁ : Int) := by simp only [gap]; omega
    rw [(compare_gt_iff_gt).mpr exponents,
      (compare_gt_iff_gt).mpr (log2_lt_of_lt_log2 pos₁ higher)]
    rfl

/-- The exact doubles of two integers below `2^53` in magnitude compare as the integers do. -/
theorem compare_ofInt {a b : Int} (smallA : a.natAbs < 2 ^ 53) (smallB : b.natAbs < 2 ^ 53) :
    (UnpackedFloat.ofInt Format.binary64 a).compare (.ofInt Format.binary64 b) =
      some (compare a b) := by
  by_cases za : a = 0
  · subst za
    by_cases zb : b = 0
    · subst zb
      rfl
    · rw [ofInt_zero, ofInt_eq_finite zb smallB]
      unfold intSign
      split
      · rw [(compare_gt_iff_gt).mpr (by assumption : b < 0)]
        rfl
      · rw [(compare_lt_iff_lt).mpr (by omega : 0 < b)]
        rfl
  by_cases zb : b = 0
  · subst zb
    rw [ofInt_zero, ofInt_eq_finite za smallA]
    unfold intSign
    split
    · rw [(compare_lt_iff_lt).mpr (by assumption : a < 0)]
      rfl
    · rw [(compare_gt_iff_gt).mpr (by omega : 0 < a)]
      rfl
  have posA : 0 < a.natAbs := Int.natAbs_pos.mpr za
  have posB : 0 < b.natAbs := Int.natAbs_pos.mpr zb
  have magnitudes := compare_canonical posA posB smallA smallB
  rw [ofInt_eq_finite za smallA, ofInt_eq_finite zb smallB]
  unfold intSign
  split <;> split
  · -- both negative: the larger magnitude is the smaller number
    show some ((compare _ _).then (compare _ _)).swap = _
    rw [magnitudes]
    rcases lt_trichotomy a b with less | equal | greater
    · rw [(compare_lt_iff_lt).mpr less, (compare_gt_iff_gt).mpr (by omega : b.natAbs < a.natAbs)]
      rfl
    · rw [equal, (compare_eq_iff_eq).mpr rfl, (compare_eq_iff_eq).mpr rfl]
      rfl
    · rw [(compare_gt_iff_gt).mpr greater,
        (compare_lt_iff_lt).mpr (by omega : a.natAbs < b.natAbs)]
      rfl
  · rw [(compare_lt_iff_lt).mpr (by omega : a < b)]
    rfl
  · rw [(compare_gt_iff_gt).mpr (by omega : b < a)]
    rfl
  · -- both positive
    show some ((compare _ _).then (compare _ _)) = _
    rw [magnitudes]
    congr 1
    rcases lt_trichotomy a b with less | equal | greater
    · rw [(compare_lt_iff_lt).mpr less, (compare_lt_iff_lt).mpr (by omega : a.natAbs < b.natAbs)]
    · rw [equal, (compare_eq_iff_eq).mpr rfl, (compare_eq_iff_eq).mpr rfl]
    · rw [(compare_gt_iff_gt).mpr greater,
        (compare_gt_iff_gt).mpr (by omega : b.natAbs < a.natAbs)]

/-! ## Reading back -/

/-- A normal double is read back from its bits as it was written. -/
theorem unpack_pack_normal (s : Sign) {m : Nat} {e : Int} (pos : 0 < m) (normal : m.log2 = 52)
    (low : -1074 ≤ e) (high : e ≤ 971) :
    unpack Format.binary64 (pack Format.binary64 (.finite s m e pos)) = .finite s m e pos := by
  have bits := (Nat.log2_eq_iff (Nat.pos_iff_ne_zero.mp pos)).mp normal
  simp only [UnpackedFloat.pack, normal]
  simp only [Format.exponentBias, Format.binary64, Format.mantissaBits]
  norm_num
  rw [if_neg (by omega)]
  have exponentNe : BitVec.ofNat 11 (e + 1023 + 52).toNat ≠ -1#11 := by
    intro same
    have := congrArg BitVec.toNat same
    simp at this
    omega
  have exponentNz : BitVec.ofNat 11 (e + 1023 + 52).toNat ≠ 0#11 := by
    intro same
    have := congrArg BitVec.toNat same
    simp at this
    omega
  simp only [UnpackedFloat.unpack, unpackExponent_packComponents, unpackMantissa_packComponents,
    UnpackedFloat.unpackSign_packComponents, Sign.ofBitVec_toBitVec, exponentNe, exponentNz,
    if_false, UnpackedFloat.finite.injEq, true_and]
  constructor
  · have low52 : (BitVec.ofNat 52 m).toNat < 2 ^ 52 := BitVec.isLt _
    rw [BitVec.toNat_append, ← Nat.shiftLeft_add_eq_or_of_lt low52]
    simp only [BitVec.toNat_ofNat, Nat.shiftLeft_eq]
    norm_num at bits ⊢
    omega
  · simp only [BitVec.toNat_ofNat, Format.exponentBias]
    norm_num
    omega

theorem unpack_pack_ofInt {z : Int} (small : z.natAbs < 2 ^ 53) :
    unpack Format.binary64 (pack Format.binary64 (.ofInt Format.binary64 z)) =
      .ofInt Format.binary64 z := by
  by_cases zero : z = 0
  · subst zero
    rfl
  have pos : 0 < z.natAbs := Int.natAbs_pos.mpr zero
  have bound := log2_le_of_small pos small
  rw [ofInt_eq_finite zero small]
  exact unpack_pack_normal _ _ (by rw [log2_mul_pow _ pos, gap]; omega) (by simp only [gap]; omega)
    (by omega)

theorem neg_ofInt {z : Int} (nz : z ≠ 0) (small : z.natAbs < 2 ^ 53) :
    (UnpackedFloat.ofInt Format.binary64 z).neg = .ofInt Format.binary64 (-z) := by
  have small' : (-z).natAbs < 2 ^ 53 := by rwa [Int.natAbs_neg]
  rw [ofInt_eq_finite nz small, ofInt_eq_finite (Int.neg_ne_zero.mpr nz) small']
  simp only [UnpackedFloat.neg, Int.natAbs_neg, UnpackedFloat.finite.injEq, and_true]
  unfold intSign
  split <;> split <;> first | rfl | omega


/-! ## Doubles of integers -/

/-- The double that holds an integer exactly, as the model of doubles builds it. -/
def exactInt (z : Int) : Float := .ofModel (Float.Model.ofInt z)

/-- Multiplying a natural below `2^53` by one, in the model, gives it back unchanged. -/
theorem mul_ofInt_one (n : Nat) (small : n < 2 ^ 53) :
    UnpackedFloat.mul Format.binary64 (.ofInt Format.binary64 n) (.ofInt Format.binary64 1) =
      .ofInt Format.binary64 n := by
  have one : UnpackedFloat.ofInt Format.binary64 1 = .finite .positive (2 ^ 52) (-52) (by decide) :=
    rfl
  rw [one]
  by_cases zero : n = 0
  · subst zero
    rfl
  have nz : (n : Int) ≠ 0 := by exact_mod_cast zero
  have small' : (n : Int).natAbs < 2 ^ 53 := by simpa using small
  have pos : 0 < (n : Int).natAbs := Int.natAbs_pos.mpr nz
  rw [ofInt_eq_finite nz small']
  show roundWithAccuracy Format.binary64 (intSign n * .positive) _ _ _ = _
  have sign : intSign n * Sign.positive = intSign n := by
    unfold intSign
    split <;> rfl
  rw [sign, show -((gap (n : Int).natAbs : Nat) : Int) + -52 =
    -((gap (n : Int).natAbs : Nat) : Int) - ((52 : Nat) : Int) by omega]
  exact roundWithAccuracy_shifted _ _ (canonical_int pos small') 52

/-- Converting a natural below `2^53` through a machine word to a double is exact. -/
theorem toFloat_toUInt64 {n : Nat} (small : n < 2 ^ 53) : n.toUInt64.toFloat = exactInt n := by
  show Float.ofModel (Float.Model.pack (.ofInt Format.binary64 (n.toUInt64.toNat : Int))) = _
  rw [UInt64.toNat_ofNat_of_lt' (lt_trans small (by decide))]
  rfl

/-- For a natural below `2^53`, converting it to a double is exact. -/
theorem ofNat_eq_exactInt {n : Nat} (small : n < 2 ^ 53) : Float.ofNat n = exactInt n := by
  show Float.ofScientific n false 0 = _
  unfold Float.ofScientific
  rw [dif_pos ⟨small, by decide⟩]
  have one : (Float.exactlyRepresentablePowersOfTen[0]).toModel = Float.Model.ofInt 1 := by decide
  have converted : (n.toUInt64.toFloat).toModel = Float.Model.ofInt n := by
    rw [toFloat_toUInt64 small]
    rfl
  simp only [Bool.false_eq_true, if_false]
  show Float.ofModel
    (n.toUInt64.toFloat.toModel * (Float.exactlyRepresentablePowersOfTen[0]).toModel) = _
  rw [one, converted]
  show Float.ofModel (Float.Model.pack (UnpackedFloat.mul Format.binary64 (unpack Format.binary64
    (pack Format.binary64 (.ofInt Format.binary64 n))) (unpack Format.binary64
    (pack Format.binary64 (.ofInt Format.binary64 1))))) = _
  rw [unpack_pack_ofInt (by simpa using small), unpack_pack_ofInt (by decide),
    mul_ofInt_one n small]
  rfl

theorem ofInt_eq_exactInt {z : Int} (small : z.natAbs < 2 ^ 53) : Float.ofInt z = exactInt z := by
  cases z with
  | ofNat n => exact ofNat_eq_exactInt (by simpa using small)
  | negSucc n =>
      -- a negative integer is converted as its magnitude and then negated
      have small' : n + 1 < 2 ^ 53 := by simpa [Int.natAbs_negSucc] using small
      have magnitude : ((n + 1 : Nat) : Int).natAbs < 2 ^ 53 := by
        rw [Int.natAbs_natCast]
        exact small'
      show Float.neg (Float.ofNat (n + 1)) = _
      rw [ofNat_eq_exactInt small']
      show Float.ofModel (Float.Model.pack (unpack Format.binary64
        (pack Format.binary64 (.ofInt Format.binary64 ((n + 1 : Nat) : Int)))).neg) = _
      rw [unpack_pack_ofInt magnitude, neg_ofInt (by omega) magnitude]
      rfl

section Arithmetic

variable {a b : Int} (smallA : a.natAbs < 2 ^ 53) (smallB : b.natAbs < 2 ^ 53)
include smallA smallB

/-- Adding two integers as doubles is exact while the sum stays below `2^53` in magnitude. -/
theorem ofInt_add_ofInt (smallSum : (a + b).natAbs < 2 ^ 53) :
    Float.ofInt a + Float.ofInt b = Float.ofInt (a + b) := by
  rw [ofInt_eq_exactInt smallA, ofInt_eq_exactInt smallB, ofInt_eq_exactInt smallSum]
  show Float.ofModel (Float.Model.pack (UnpackedFloat.add Format.binary64
    (unpack Format.binary64 (pack Format.binary64 (.ofInt Format.binary64 a)))
    (unpack Format.binary64 (pack Format.binary64 (.ofInt Format.binary64 b))))) = _
  rw [unpack_pack_ofInt smallA, unpack_pack_ofInt smallB, add_ofInt smallA smallB smallSum]
  rfl

/-- Integers below `2^53` in magnitude compare as doubles as they do as integers. -/
theorem ofInt_lt_ofInt : Float.ofInt a < Float.ofInt b ↔ a < b := by
  rw [ofInt_eq_exactInt smallA, ofInt_eq_exactInt smallB]
  show Float.lt (exactInt a) (exactInt b) = true ↔ _
  simp only [Float.lt, decide_eq_true_eq]
  show (UnpackedFloat.lt (unpack Format.binary64 (pack Format.binary64 (.ofInt Format.binary64 a)))
    (unpack Format.binary64 (pack Format.binary64 (.ofInt Format.binary64 b)))) = true ↔ _
  rw [unpack_pack_ofInt smallA, unpack_pack_ofInt smallB]
  simp only [UnpackedFloat.lt, compare_ofInt smallA smallB, beq_iff_eq, Option.some.injEq,
    compare_lt_iff_lt]

/-- Integers below `2^53` in magnitude are equal as doubles exactly when they are equal. -/
theorem ofInt_beq_ofInt : (Float.ofInt a == Float.ofInt b) = decide (a = b) := by
  rw [ofInt_eq_exactInt smallA, ofInt_eq_exactInt smallB]
  show (UnpackedFloat.beq (unpack Format.binary64 (pack Format.binary64 (.ofInt Format.binary64 a)))
    (unpack Format.binary64 (pack Format.binary64 (.ofInt Format.binary64 b)))) = _
  rw [unpack_pack_ofInt smallA, unpack_pack_ofInt smallB]
  simp only [UnpackedFloat.beq, compare_ofInt smallA smallB, Option.some_beq_some]
  by_cases same : a = b
  · simp [same]
  · simp [same]

end Arithmetic

/-- Multiplying two naturals as doubles is exact while the product stays below `2^53`. -/
theorem ofNat_mul_ofNat {a b : Nat} (smallA : a < 2 ^ 53) (smallB : b < 2 ^ 53)
    (smallProduct : a * b < 2 ^ 53) : Float.ofNat a * Float.ofNat b = Float.ofNat (a * b) := by
  rw [ofNat_eq_exactInt smallA, ofNat_eq_exactInt smallB, ofNat_eq_exactInt smallProduct]
  show Float.ofModel (Float.Model.pack (UnpackedFloat.mul Format.binary64
    (unpack Format.binary64 (pack Format.binary64 (.ofInt Format.binary64 a)))
    (unpack Format.binary64 (pack Format.binary64 (.ofInt Format.binary64 b))))) = _
  rw [unpack_pack_ofInt (by simpa using smallA), unpack_pack_ofInt (by simpa using smallB),
    mul_ofNat smallA smallB smallProduct, ← Nat.cast_mul]
  rfl

/-- Adding two naturals as doubles is exact while the sum stays below `2^53`. -/
theorem ofNat_add_ofNat {a b : Nat} (smallA : a < 2 ^ 53) (smallB : b < 2 ^ 53)
    (smallSum : a + b < 2 ^ 53) : Float.ofNat a + Float.ofNat b = Float.ofNat (a + b) := by
  have sum := ofInt_add_ofInt (a := Nat.cast a) (b := Nat.cast b) (by simpa using smallA)
    (by simpa using smallB) (by rw [← Nat.cast_add, Int.natAbs_natCast]; exact smallSum)
  rw [← Nat.cast_add] at sum
  exact sum

/-- The double of a positive natural below `2^53`, unpacked. -/
theorem unpack_ofNat {n : Nat} (pos : 0 < n) (small : n < 2 ^ 53) :
    (Float.ofNat n).toModel.unpack =
      .finite .positive (n * 2 ^ gap n) (-(gap n : Int)) (by positivity) := by
  have small' : (n : Int).natAbs < 2 ^ 53 := by simpa using small
  rw [ofNat_eq_exactInt small]
  show unpack Format.binary64 (pack Format.binary64 (.ofInt Format.binary64 n)) = _
  rw [unpack_pack_ofInt small', ofInt_eq_finite (by omega) small']
  simp only [intSign_natCast, Int.natAbs_natCast]

theorem zero_eq_ofInt : (0.0 : Float) = Float.ofInt 0 := by
  rw [ofInt_eq_exactInt (by decide)]
  show Float.ofModel (0.0 : Float).toModel = _
  have zero : (0.0 : Float).toModel = Float.Model.ofInt 0 := by decide
  rw [zero]
  rfl

end Blueprint.Number
