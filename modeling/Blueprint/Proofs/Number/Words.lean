import Blueprint.Expr.Operator
import Blueprint.Proofs.Number.Remainder

/-!
# The bitwise operators on 32-bit words

The bitwise operators read each operand as a signed 32-bit word (`Number.toWord`). This module
pins that reading down on every double: NaN and the infinities are the word zero, and a finite
double gives the one integer of `[-2^31, 2^31)` congruent to its integer part modulo `2^32`
(the runtime's truncation, remainder and casts are followed in `Proofs.Number.Remainder`).
The operators then act on two's complement words, and their results are the integers that the
bitwise operations on all of `ℤ` (`Int.land`, `Int.lor`, `Int.xor`, `Int.lnot`) give on the
words' values, held exactly by a double.

The bridge from words to integers goes through the sign bit: a word with its top bit set is
the negative successor of its complement, and the integer operations are defined by the same
case split.
-/

namespace Blueprint.Number

/-! ## Complements below a power of two -/

section Complement

variable {w N M : ℕ}

theorem testBit_eq_false_of_le (hN : N < 2 ^ w) {i : ℕ} (high : w ≤ i) : N.testBit i = false :=
  Nat.testBit_lt_two_pow (Nat.lt_of_lt_of_le hN (Nat.pow_le_pow_right (by decide) high))

/-- A number below `2^w` minus one is the negative successor of its complement in `w` bits. -/
theorem natCast_sub_two_pow (hN : N < 2 ^ w) :
    (N : ℤ) - ((2 ^ w : ℕ) : ℤ) = Int.negSucc (2 ^ w - (N + 1)) := by
  rw [Int.negSucc_eq, Nat.cast_sub (show N + 1 ≤ 2 ^ w by omega)]
  push_cast
  ring

variable (hN : N < 2 ^ w) (hM : M < 2 ^ w)
include hN hM

-- Each identity is checked bit by bit: below `w` the complement flips the bit, above it both
-- sides are clear.

theorem ldiff_complement : Nat.ldiff N (2 ^ w - (M + 1)) = N &&& M := by
  apply Nat.eq_of_testBit_eq
  intro i
  by_cases low : i < w
  · simp [Nat.testBit_ldiff, Nat.testBit_two_pow_sub_succ hM, low]
  · simp [Nat.testBit_ldiff, testBit_eq_false_of_le hN (Nat.le_of_not_lt low)]

theorem complement_ldiff : Nat.ldiff (2 ^ w - (M + 1)) N = 2 ^ w - ((N ||| M) + 1) := by
  apply Nat.eq_of_testBit_eq
  intro i
  simp only [Nat.testBit_ldiff, Nat.testBit_two_pow_sub_succ hM,
    Nat.testBit_two_pow_sub_succ (Nat.or_lt_two_pow hN hM), Nat.testBit_or]
  cases decide (i < w) <;> cases N.testBit i <;> cases M.testBit i <;> rfl

theorem complement_or_complement :
    (2 ^ w - (N + 1)) ||| (2 ^ w - (M + 1)) = 2 ^ w - ((N &&& M) + 1) := by
  apply Nat.eq_of_testBit_eq
  intro i
  simp only [Nat.testBit_or, Nat.testBit_two_pow_sub_succ hN, Nat.testBit_two_pow_sub_succ hM,
    Nat.testBit_two_pow_sub_succ (Nat.and_lt_two_pow N hM), Nat.testBit_and]
  cases decide (i < w) <;> cases N.testBit i <;> cases M.testBit i <;> rfl

theorem complement_and_complement :
    (2 ^ w - (N + 1)) &&& (2 ^ w - (M + 1)) = 2 ^ w - ((N ||| M) + 1) := by
  apply Nat.eq_of_testBit_eq
  intro i
  simp only [Nat.testBit_and, Nat.testBit_two_pow_sub_succ hN, Nat.testBit_two_pow_sub_succ hM,
    Nat.testBit_two_pow_sub_succ (Nat.or_lt_two_pow hN hM), Nat.testBit_or]
  cases decide (i < w) <;> cases N.testBit i <;> cases M.testBit i <;> rfl

theorem xor_complement : N ^^^ (2 ^ w - (M + 1)) = 2 ^ w - ((N ^^^ M) + 1) := by
  apply Nat.eq_of_testBit_eq
  intro i
  by_cases low : i < w
  · simp only [Nat.testBit_xor, Nat.testBit_two_pow_sub_succ hM,
      Nat.testBit_two_pow_sub_succ (Nat.xor_lt_two_pow hN hM), low, decide_true, Bool.true_and]
    cases N.testBit i <;> cases M.testBit i <;> rfl
  · simp [Nat.testBit_xor, Nat.testBit_two_pow_sub_succ hM,
      Nat.testBit_two_pow_sub_succ (Nat.xor_lt_two_pow hN hM), low,
      testBit_eq_false_of_le hN (Nat.le_of_not_lt low)]

theorem complement_xor_complement : (2 ^ w - (N + 1)) ^^^ (2 ^ w - (M + 1)) = N ^^^ M := by
  apply Nat.eq_of_testBit_eq
  intro i
  by_cases low : i < w
  · simp only [Nat.testBit_xor, Nat.testBit_two_pow_sub_succ hN, Nat.testBit_two_pow_sub_succ hM,
      low, decide_true, Bool.true_and]
    cases N.testBit i <;> cases M.testBit i <;> rfl
  · simp [Nat.testBit_xor, Nat.testBit_two_pow_sub_succ hN, Nat.testBit_two_pow_sub_succ hM, low,
      testBit_eq_false_of_le hN (Nat.le_of_not_lt low),
      testBit_eq_false_of_le hM (Nat.le_of_not_lt low)]

end Complement

/-! ## Two's complement words as integers -/

section Words

variable {w : ℕ}

-- Each proof splits on the two sign bits, as `Int.land`, `Int.lor` and `Int.xor` split on the
-- signs of their arguments; a set sign bit turns the word into a negative successor.

theorem toInt_and_eq_land (x y : BitVec w) : (x &&& y).toInt = Int.land x.toInt y.toInt := by
  have hN := x.isLt
  have hM := y.isLt
  rw [BitVec.toInt_eq_msb_cond, BitVec.toInt_eq_msb_cond x, BitVec.toInt_eq_msb_cond y,
    BitVec.msb_and, BitVec.toNat_and]
  cases x.msb <;> cases y.msb <;>
    simp only [Bool.and_self, Bool.and_false, Bool.and_true, Bool.false_eq_true, ↓reduceIte]
  · rfl
  · rw [natCast_sub_two_pow hM]
    show _ = ((Nat.ldiff x.toNat (2 ^ w - (y.toNat + 1)) : ℕ) : ℤ)
    rw [ldiff_complement hN hM]
  · rw [natCast_sub_two_pow hN]
    show _ = ((Nat.ldiff y.toNat (2 ^ w - (x.toNat + 1)) : ℕ) : ℤ)
    rw [ldiff_complement hM hN, Nat.and_comm]
  · rw [natCast_sub_two_pow hN, natCast_sub_two_pow hM,
      natCast_sub_two_pow (Nat.and_lt_two_pow x.toNat hM)]
    show _ = Int.negSucc ((2 ^ w - (x.toNat + 1)) ||| (2 ^ w - (y.toNat + 1)))
    rw [complement_or_complement hN hM]

theorem toInt_or_eq_lor (x y : BitVec w) : (x ||| y).toInt = Int.lor x.toInt y.toInt := by
  have hN := x.isLt
  have hM := y.isLt
  have hNM := Nat.or_lt_two_pow hN hM
  rw [BitVec.toInt_eq_msb_cond, BitVec.toInt_eq_msb_cond x, BitVec.toInt_eq_msb_cond y,
    BitVec.msb_or, BitVec.toNat_or]
  cases x.msb <;> cases y.msb <;>
    simp only [Bool.or_self, Bool.or_false, Bool.or_true, Bool.false_eq_true, ↓reduceIte]
  · rfl
  · rw [natCast_sub_two_pow hM, natCast_sub_two_pow hNM]
    show _ = Int.negSucc (Nat.ldiff (2 ^ w - (y.toNat + 1)) x.toNat)
    rw [complement_ldiff hN hM]
  · rw [natCast_sub_two_pow hN, natCast_sub_two_pow hNM]
    show _ = Int.negSucc (Nat.ldiff (2 ^ w - (x.toNat + 1)) y.toNat)
    rw [complement_ldiff hM hN, Nat.or_comm]
  · rw [natCast_sub_two_pow hN, natCast_sub_two_pow hM, natCast_sub_two_pow hNM]
    show _ = Int.negSucc ((2 ^ w - (x.toNat + 1)) &&& (2 ^ w - (y.toNat + 1)))
    rw [complement_and_complement hN hM]

theorem toInt_xor_eq_xor (x y : BitVec w) : (x ^^^ y).toInt = Int.xor x.toInt y.toInt := by
  have hN := x.isLt
  have hM := y.isLt
  have hNM := Nat.xor_lt_two_pow hN hM
  rw [BitVec.toInt_eq_msb_cond, BitVec.toInt_eq_msb_cond x, BitVec.toInt_eq_msb_cond y,
    BitVec.msb_xor, BitVec.toNat_xor]
  cases x.msb <;> cases y.msb <;>
    simp only [Bool.xor_self, Bool.xor_false, Bool.xor_true, Bool.not_false, Bool.false_eq_true,
      ↓reduceIte]
  · rfl
  · rw [natCast_sub_two_pow hM, natCast_sub_two_pow hNM]
    show _ = Int.negSucc (x.toNat ^^^ (2 ^ w - (y.toNat + 1)))
    rw [xor_complement hN hM]
  · rw [natCast_sub_two_pow hN, natCast_sub_two_pow hNM]
    show _ = Int.negSucc ((2 ^ w - (x.toNat + 1)) ^^^ y.toNat)
    rw [Nat.xor_comm (2 ^ w - (x.toNat + 1)), xor_complement hM hN, Nat.xor_comm y.toNat]
  · rw [natCast_sub_two_pow hN, natCast_sub_two_pow hM]
    show _ = (((2 ^ w - (x.toNat + 1)) ^^^ (2 ^ w - (y.toNat + 1)) : ℕ) : ℤ)
    rw [complement_xor_complement hN hM]

end Words

theorem lnot_eq_neg_sub_one (z : ℤ) : Int.lnot z = -z - 1 := by
  cases z with
  | ofNat m =>
      simp only [Int.lnot, Int.negSucc_eq, Int.ofNat_eq_natCast]
      ring
  | negSucc m =>
      simp only [Int.lnot, Int.negSucc_eq]
      ring

namespace Word

@[simp] theorem toInt_and (a b : Int32) : (a &&& b).toInt = Int.land a.toInt b.toInt :=
  toInt_and_eq_land a.toBitVec b.toBitVec

@[simp] theorem toInt_or (a b : Int32) : (a ||| b).toInt = Int.lor a.toInt b.toInt :=
  toInt_or_eq_lor a.toBitVec b.toBitVec

@[simp] theorem toInt_xor (a b : Int32) : (a ^^^ b).toInt = Int.xor a.toInt b.toInt :=
  toInt_xor_eq_xor a.toBitVec b.toBitVec

@[simp] theorem toInt_not (a : Int32) : (~~~a).toInt = Int.lnot a.toInt := by
  rw [Int32.toInt_not, lnot_eq_neg_sub_one]
  have low := a.le_toInt
  have high := a.toInt_lt
  exact Int.bmod_eq_of_le (by omega) (by omega)

end Word

/-! ## Reading a double as a word -/

/-- The word of a finite double is its integer part reduced to the signed 32-bit range. -/
theorem toWord_toInt_of_value? {x : Float} {q : ℚ} (value : value? x = some q) :
    (toWord x).toInt = (truncRat q).bmod (2 ^ 32) := by
  rw [toWord_eq_ofInt_truncRat value]
  exact Int32.toInt_ofInt

/-- A double holds the integer `z` exactly, and `z` is in the range of signed 32-bit words. -/
def HoldsWord (r : Float) (z : ℤ) : Prop :=
  value? r = some (z : ℚ) ∧ -2 ^ 31 ≤ z ∧ z < 2 ^ 31

/-- A word goes back to a double that holds it exactly. -/
theorem holdsWord_ofWord (a : Int32) : HoldsWord (ofWord a) a.toInt := by
  have low := a.le_toInt
  have high := a.toInt_lt
  refine ⟨value?_ofInt ?_, low, high⟩
  omega

/-- An operator's result is a number holding the integer `z` of a signed 32-bit word. -/
def GivesWord (result : Except Fault Value) (z : ℤ) : Prop :=
  ∃ r, result = .ok (.number r) ∧ HoldsWord r z

theorem givesWord_ofWord (a : Int32) : GivesWord (.ok (.number (ofWord a))) a.toInt :=
  ⟨ofWord a, rfl, holdsWord_ofWord a⟩

/-- The bitwise operators read their operands as signed 32-bit words: NaN and the infinities
are zero, and a finite number is the integer of `[-2^31, 2^31)` congruent to its integer part
modulo `2^32`. Not, and, or and exclusive or then give the integers that the bitwise operations
on `ℤ` give on those words, as exact numbers of the same range. -/
theorem bitwise_operators_on_words (a b : Float) :
    ((a.isNaN = true ∨ a.isInf = true) → toWord a = 0) ∧
    (∀ q, value? a = some q →
      -2 ^ 31 ≤ (toWord a).toInt ∧ (toWord a).toInt < 2 ^ 31 ∧
        (toWord a).toInt ≡ truncRat q [ZMOD 2 ^ 32]) ∧
    GivesWord (UnaryOp.bitNot.apply (.number a)) (Int.lnot (toWord a).toInt) ∧
    GivesWord (BinaryOp.bitAnd.apply (.number a) (.number b))
      (Int.land (toWord a).toInt (toWord b).toInt) ∧
    GivesWord (BinaryOp.bitOr.apply (.number a) (.number b))
      (Int.lor (toWord a).toInt (toWord b).toInt) ∧
    GivesWord (BinaryOp.bitXor.apply (.number a) (.number b))
      (Int.xor (toWord a).toInt (toWord b).toInt) := by
  refine ⟨?nonfinite, ?finite, ?bitNot, ?bitAnd, ?bitOr, ?bitXor⟩
  case nonfinite =>
    intro nonfinite
    exact toWord_of_value?_eq_none ((value?_eq_none_iff a).mpr nonfinite)
  case finite =>
    intro q value
    refine ⟨(toWord a).le_toInt, (toWord a).toInt_lt, ?_⟩
    rw [toWord_toInt_of_value? value]
    exact Int.bmod_emod
  -- each operator builds a word and turns it back into a double
  case bitNot =>
    rw [← Word.toInt_not]
    exact givesWord_ofWord _
  case bitAnd =>
    rw [← Word.toInt_and]
    exact givesWord_ofWord _
  case bitOr =>
    rw [← Word.toInt_or]
    exact givesWord_ofWord _
  case bitXor =>
    rw [← Word.toInt_xor]
    exact givesWord_ofWord _

end Blueprint.Number
