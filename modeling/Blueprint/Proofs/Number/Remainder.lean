import Blueprint.Number.Word
import Blueprint.Proofs.Number.RoundTrip

/-!
# Exact truncation and remainder, and the word of a double

`trunc` and `rem` read their operands' bits as magnitudes `mantissa * 2^exponent`, compute on
naturals, and write the result back as a double. Neither rounds: the integer part of a double
is a double, and so is the remainder of an integer by `2^32`, which is below `2^53`. This module
proves that, in terms of the values the doubles hold (`value?_trunc`, `value?_rem_wordModulus`).

On that basis it follows a number through the runtime's reading of it as a 32-bit word:
truncation, the remainder by `2^32` with the sign of the number, the cast to a 64-bit integer,
which saturates but never needs to, and the wrap to 32 bits. The result is the word of the
integer part of the number (`toWord_eq_ofInt_truncRat`): the remainder changes no bit of the
low 32.
-/

namespace Blueprint.Number

open Float.Model UnpackedFloat

/-! ## Magnitudes written back as doubles -/

theorem apply_neg_sign (s : Sign) (n : Int) : (-s).apply n = -(s.apply n) := by
  cases s <;> simp [Sign.apply]

/-- Negating a double negates its value. -/
theorem value?_neg (x : Float) : value? (-x) = (value? x).map Neg.neg := by
  unfold value?
  rw [unpack_neg]
  cases unpacked : x.toModel.unpack with
  | notANumber => rfl
  | infinity s => cases s <;> rfl
  | zero s => cases s <;> simp <;> rfl
  | finite s m e pos =>
    obtain ⟨canonical, high⟩ := canonical_of_unpack unpacked
    simp only [UnpackedFloat.neg]
    rw [unpack_pack_canonical _ pos canonical high]
    simp [apply_neg_sign]

/-- No digits are the zero double, on the fast path and on the path through the model. -/
theorem unpack_ofScientific_zero (negative : Bool) (k : Nat) :
    (Float.ofScientific 0 negative k).toModel.unpack = .zero .positive := by
  have zero : (exactInt ((0 : Nat) : Int)).toModel.unpack = .zero .positive :=
    (unpack_pack_ofInt (by decide)).trans ofInt_zero
  unfold Float.ofScientific
  split_ifs with fast divides
  · obtain ⟨p, f, ppos, power, -⟩ := unpack_powerOfTen ⟨k, by omega⟩
    show unpack Format.binary64 (pack Format.binary64 (UnpackedFloat.div Format.binary64
      ((0 : Nat).toUInt64.toFloat).toModel.unpack
      (Float.exactlyRepresentablePowersOfTen[(⟨k, by omega⟩ : Fin 23).val]).toModel.unpack)) = _
    rw [toFloat_toUInt64 (by decide), power, zero]
    simp only [UnpackedFloat.div]
    rfl
  · obtain ⟨p, f, ppos, power, -⟩ := unpack_powerOfTen ⟨k, by omega⟩
    show unpack Format.binary64 (pack Format.binary64 (UnpackedFloat.mul Format.binary64
      ((0 : Nat).toUInt64.toFloat).toModel.unpack
      (Float.exactlyRepresentablePowersOfTen[(⟨k, by omega⟩ : Fin 23).val]).toModel.unpack)) = _
    rw [toFloat_toUInt64 (by decide), power, zero]
    simp only [UnpackedFloat.mul]
    rfl
  · show unpack Format.binary64 (pack Format.binary64 (UnpackedFloat.ofScientific Format.binary64 0
      (Int.negOfNat k))) = _
    rw [UnpackedFloat.ofScientific, dif_pos rfl]
    rfl
  · show unpack Format.binary64 (pack Format.binary64 (UnpackedFloat.ofScientific Format.binary64 0
      (Int.ofNat k))) = _
    rw [UnpackedFloat.ofScientific, dif_pos rfl]
    rfl

/-- A magnitude whose value is that of a canonical double is written as that double. -/
theorem value?_toFloat_of_canonical {b : Binary} {m : ℕ} {e : ℤ} (pos : 0 < m)
    (canonical : Canonical m e) (high : e ≤ 971)
    (same : (b.mantissa : ℚ) * 2 ^ b.exponent = m * 2 ^ e) :
    value? b.toFloat = some ((m : ℚ) * 2 ^ e) := by
  have rounds : (magnitude m e).Rounds (m * 2 ^ e) := rounds_self (b := magnitude m e) pos
  unfold Binary.toFloat value?
  split_ifs with above
  · -- a whole magnitude is written as its digits
    rw [unpack_ofScientific_of_rounds pos canonical high]
    · simp [Sign.apply]
    · convert rounds using 1
      rw [← same]
      obtain ⟨k, hk⟩ := Int.eq_ofNat_of_zero_le above
      simp [hk, Nat.pow_eq]
  · -- a fraction over `2^k` is written as the same fraction over `10^k`
    rw [unpack_ofScientific_of_rounds pos canonical high]
    · simp [Sign.apply]
    · convert rounds using 1
      rw [← same]
      obtain ⟨k, hk⟩ := Int.exists_eq_neg_ofNat (Int.le_of_lt (Int.not_le.mp above))
      have ten : (10 : ℚ) ^ k = 2 ^ k * 5 ^ k := by rw [← mul_pow]; norm_num
      rw [hk]
      simp [Nat.pow_eq, zpow_neg, ten]
      field_simp

theorem value?_toFloat_of_zero {b : Binary} (zero : b.mantissa = 0) :
    value? b.toFloat = some 0 := by
  unfold Binary.toFloat value?
  split_ifs <;> simp [zero, unpack_ofScientific_zero]

/-- A magnitude whose value is a natural below `2^53` is written as that natural. -/
theorem value?_toFloat_of_nat {b : Binary} {n : ℕ} (small : n < 2 ^ 53)
    (same : (b.mantissa : ℚ) * 2 ^ b.exponent = n) : value? b.toFloat = some (n : ℚ) := by
  rcases Nat.eq_zero_or_pos n with zero | pos
  · subst zero
    have nothing : b.mantissa = 0 := by
      have power : (2 : ℚ) ^ b.exponent ≠ 0 := zpow_ne_zero _ two_ne_zero
      simpa [power] using same
    simpa using value?_toFloat_of_zero nothing
  · rw [← value_gap n] at same ⊢
    exact value?_toFloat_of_canonical (by positivity) (canonical_int pos small) (by omega) same

theorem value?_ofMagnitude (negative : Bool) {b : Binary} {q : ℚ}
    (value : value? b.toFloat = some q) :
    value? (ofMagnitude negative b) = some (if negative then -q else q) := by
  unfold ofMagnitude
  cases negative
  · simpa using value
  · simp [value?_neg, value]

/-! ## Truncation -/

/-- The integer part of a canonical magnitude is a double again: the magnitude itself when its
exponent is not negative, and a natural below `2^53` otherwise. -/
theorem value?_toFloat_truncNat {m : ℕ} {e : ℤ} (flag : Bool) (pos : 0 < m)
    (canonical : Canonical m e) (high : e ≤ 971) :
    value? (Binary.toFloat ⟨Binary.truncNat ⟨m, e, flag⟩, 0, false⟩) =
      some ((Binary.truncNat ⟨m, e, flag⟩ : ℕ) : ℚ) := by
  have small : m < 2 ^ 53 := ((canonical_iff_fits pos).mp canonical).1
  unfold Binary.truncNat
  dsimp only
  split_ifs with above
  · obtain ⟨k, hk⟩ := Int.eq_ofNat_of_zero_le above
    have same : ((m * Nat.pow 2 e.toNat : ℕ) : ℚ) = m * 2 ^ e := by simp [hk, Nat.pow_eq]
    rw [same]
    exact value?_toFloat_of_canonical pos canonical high (by simpa using same)
  · exact value?_toFloat_of_nat (lt_of_le_of_lt (Nat.div_le_self _ _) small) (by simp)

/-- Truncating a finite double toward zero gives the double of the integer part of its value. -/
theorem value?_trunc {x : Float} {q : ℚ} (value : value? x = some q) :
    value? (trunc x) = some (truncRat q : ℚ) := by
  -- the runtime's integer part, read from the same bits, is the integer part of the value
  have integer := truncInt?_eq_map_value? x
  rw [value, Option.map_some] at integer
  unfold trunc
  unfold truncInt? at integer
  rw [shape_eq_ofUnpacked] at integer ⊢
  unfold value? at value
  cases unpacked : x.toModel.unpack with
  | notANumber => simp [unpacked] at value
  | infinity s => simp [unpacked] at value
  | zero s =>
    simp only [unpacked, Shape.ofUnpacked, Option.some.injEq] at integer ⊢
    -- zero truncates to zero, whatever its sign
    rw [Binary.truncNat_zero] at integer ⊢
    rw [value?_ofMagnitude _ (value?_toFloat_of_zero rfl), ← integer]
    cases signNegative s <;> simp
  | finite s m e pos =>
    obtain ⟨canonical, high⟩ := canonical_of_unpack unpacked
    simp only [unpacked, Shape.ofUnpacked, Option.some.injEq] at integer ⊢
    rw [value?_ofMagnitude _ (value?_toFloat_truncNat _ pos canonical high), ← integer]
    cases signNegative s <;> simp

/-! ## The remainder by `2^32` -/

theorem shape_wordModulus : ∃ flag, shape wordModulus = .finite false ⟨2 ^ 52, -20, flag⟩ := by
  have unpacked := unpack_ofNat (n := 4294967296) (by norm_num) (by norm_num)
  have gap_eq : gap 4294967296 = 20 := by
    rw [gap, show 4294967296 = 2 ^ 32 by norm_num, Nat.log2_two_pow]
  rw [shape_eq_ofUnpacked]
  show ∃ flag, Shape.ofUnpacked (Float.ofNat 4294967296).toModel.unpack = _
  rw [unpacked]
  simp only [Shape.ofUnpacked, signNegative, gap_eq, Shape.finite.injEq, Binary.mk.injEq]
  norm_num

/-- On their common exponent, the lesser of `e` and the exponent `-20` of `2^32`, a magnitude of
natural value `N` and `2^32` leave the remainder `N % 2^32`: both are shifted by the same power
of two, which the remainder keeps. -/
theorem remainder_on_common_exponent {m N : ℕ} {e : ℤ} (same : (m : ℚ) * 2 ^ e = N) :
    (((m * Nat.pow 2 (e - min e (-20)).toNat) % (2 ^ 52 * Nat.pow 2 (-20 - min e (-20)).toNat) : ℕ)
      : ℚ) * 2 ^ (min e (-20)) = ((N % 2 ^ 32 : ℕ) : ℚ) := by
  obtain ⟨K, low⟩ : ∃ K : ℕ, min e (-20) = -K := ⟨(-(min e (-20))).toNat, by omega⟩
  obtain ⟨j, shift⟩ : ∃ j : ℕ, (e - min e (-20)).toNat = j ∧ (j : ℤ) = e + K :=
    ⟨_, rfl, by omega⟩
  have divisor : 2 ^ 52 * Nat.pow 2 (-20 - min e (-20)).toNat = 2 ^ 32 * 2 ^ K := by
    rw [low, Nat.pow_eq, show (-20 - -(K : ℤ)).toNat = K - 20 by omega, ← Nat.pow_add,
      ← Nat.pow_add]
    congr 1
    omega
  have dividend : m * Nat.pow 2 (e - min e (-20)).toNat = N * 2 ^ K := by
    rw [shift.1, Nat.pow_eq]
    have scaled : ((m * 2 ^ j : ℕ) : ℚ) = (N * 2 ^ K : ℕ) := by
      push_cast
      rw [← same, ← zpow_natCast, ← zpow_natCast, mul_assoc, ← zpow_add₀ two_ne_zero, shift.2]
    exact_mod_cast scaled
  rw [dividend, divisor, Nat.mul_mod_mul_right, low]
  push_cast
  rw [zpow_neg, zpow_natCast, mul_assoc, mul_inv_cancel₀ (by positivity), mul_one]

/-- The remainder of an integer-valued double by `2^32` is the double of the remainder of the
integer, which keeps its sign. -/
theorem value?_rem_wordModulus {y : Float} {z : ℤ} (value : value? y = some (z : ℚ)) :
    value? (rem y wordModulus) = some ((z.tmod (2 ^ 32) : ℤ) : ℚ) := by
  obtain ⟨flag, modulus⟩ := shape_wordModulus
  unfold rem
  rw [modulus, shape_eq_ofUnpacked]
  unfold value? at value
  cases unpacked : y.toModel.unpack with
  | notANumber => simp [unpacked] at value
  | infinity s => simp [unpacked] at value
  | zero s =>
    simp only [unpacked, Option.some.injEq] at value
    obtain rfl : z = 0 := by exact_mod_cast value.symm
    simp only [Shape.ofUnpacked, Binary.align, -Nat.reducePow]
    rw [if_neg (by norm_num),
      value?_ofMagnitude _ (value?_toFloat_of_zero (by rw [Nat.zero_mul, Nat.zero_mod]))]
    simp
  | finite s m e pos =>
    simp only [unpacked, Option.some.injEq] at value
    simp only [Shape.ofUnpacked, Binary.align]
    rw [if_neg (by norm_num)]
    -- the integer as a magnitude `N` with the sign of the double
    obtain ⟨N, magnitude, signed⟩ : ∃ N : ℕ, (m : ℚ) * 2 ^ e = N ∧
        z = if signNegative s then -(N : ℤ) else N := by
      have positive : (0 : ℚ) < m * 2 ^ e := by positivity
      cases s with
      | positive =>
        simp only [Sign.apply, Int.cast_natCast] at value
        obtain ⟨N, rfl⟩ := Int.eq_ofNat_of_zero_le (by exact_mod_cast (value ▸ positive).le)
        exact ⟨N, by exact_mod_cast value, rfl⟩
      | negative =>
        simp only [Sign.apply, Int.cast_neg, Int.cast_natCast, neg_mul] at value
        obtain ⟨N, hN⟩ := Int.eq_ofNat_of_zero_le (a := -z) (by
          have : (0 : ℚ) ≤ -z := by linarith
          exact_mod_cast this)
        refine ⟨N, ?_, by simp only [signNegative, if_true]; omega⟩
        have : ((-z : ℤ) : ℚ) = N := by exact_mod_cast hN
        push_cast at this
        linarith
    have small : N % 2 ^ 32 < 2 ^ 53 := lt_of_lt_of_le (Nat.mod_lt _ (by positivity)) (by norm_num)
    rw [value?_ofMagnitude _ (value?_toFloat_of_nat small (remainder_on_common_exponent magnitude)),
      signed]
    -- the remainder keeps the sign of the dividend
    cases signNegative s <;> simp [Int.tmod_eq_emod_of_nonneg] <;> norm_cast

/-! ## Casts to integers -/

@[simp] theorem truncRat_intCast (z : ℤ) : truncRat z = z := by
  unfold truncRat
  split_ifs <;> simp

/-- A double of integer value is read as a 64-bit integer by clamping that value. -/
theorem toInt64_of_value? {w : Float} {z : ℤ} (value : value? w = some (z : ℚ)) :
    toInt64 w = Int64.ofIntClamp z := by
  have integer := truncInt?_eq_map_value? w
  rw [value, Option.map_some, truncRat_intCast] at integer
  unfold toInt64
  unfold truncInt? at integer
  split at integer
  · next negative b shaped =>
    rw [shaped]
    exact congrArg Int64.ofIntClamp (Option.some.inj integer)
  · cases integer

theorem shape_finite_of_value? {x : Float} {q : ℚ} (value : value? x = some q) :
    ∃ negative b, shape x = .finite negative b := by
  rw [shape_eq_ofUnpacked]
  unfold value? at value
  generalize x.toModel.unpack = u at value ⊢
  cases u <;> simp_all [Shape.ofUnpacked]

theorem shape_ne_finite_of_value?_eq_none {x : Float} (none : value? x = none) :
    ∀ negative b, shape x ≠ .finite negative b := by
  rw [shape_eq_ofUnpacked]
  unfold value? at none
  generalize x.toModel.unpack = u at none ⊢
  cases u <;> simp_all [Shape.ofUnpacked]

theorem tmod_emod_self (a n : Int) : (a.tmod n) % n = a % n := by
  rw [Int.tmod_def, Int.sub_emod, Int.mul_emod_right, sub_zero, Int.emod_emod]

/-- The remainder by `2^32` leaves the word of an integer as it is. -/
theorem ofInt_tmod_word (a : Int) : Int32.ofInt (a.tmod (2 ^ 32)) = Int32.ofInt a := by
  apply Int32.toInt_inj.mp
  rw [Int32.toInt_ofInt, Int32.toInt_ofInt, ← Int.emod_bmod, ← Int.emod_bmod a]
  congr 1
  exact tmod_emod_self a _

/-! ## The word of a double -/

/-- The word of a finite double is the word of the integer part of its value. The remainder by
`2^32` lies strictly between `-2^32` and `2^32`, so the cast to 64 bits holds it exactly, and it
is congruent to the integer part modulo `2^32`, so the wrap to 32 bits gives the same word. -/
theorem toWord_eq_ofInt_truncRat {x : Float} {q : ℚ} (value : value? x = some q) :
    toWord x = Int32.ofInt (truncRat q) := by
  have remainder := value?_rem_wordModulus (value?_trunc value)
  have above := Int.lt_tmod_of_pos (truncRat q) (b := 2 ^ 32) (by norm_num)
  have below := Int.tmod_lt_of_pos (truncRat q) (b := 2 ^ 32) (by norm_num)
  obtain ⟨negative, b, shaped⟩ := shape_finite_of_value? value
  unfold toWord
  rw [shaped]
  dsimp only
  rw [toInt64_of_value? remainder, Int64.toInt32_ofIntClamp (by omega) (by omega),
    ofInt_tmod_word]

/-- The word of a double without a value is zero. -/
theorem toWord_of_value?_eq_none {x : Float} (none : value? x = none) : toWord x = 0 := by
  unfold toWord
  split
  · next negative b shaped => exact absurd shaped (shape_ne_finite_of_value?_eq_none none _ _)
  · rfl

end Blueprint.Number
