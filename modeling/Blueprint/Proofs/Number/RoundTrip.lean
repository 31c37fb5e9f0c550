import Blueprint.Expr.Operator
import Blueprint.Value.Render
import Blueprint.Proofs.Number.Reading
import Blueprint.Proofs.Number.Scientific
import Blueprint.Proofs.Number.Shortest
import Blueprint.Proofs.Number.Unpacked

/-!
# Writing a number and reading it back

A number is written as `NaN`, as `Infinity` with its sign, as `0` for a zero of either sign, or as
its sign and the shortest decimal that reads back as it, written positionally. This module shows
that the reader of numbers takes each such text back to the number it was written from, the
negative zero apart, which comes back as the positive zero (`ofText_render`). So the `text`
operator followed by the `number` operator gives back every number under the equality of doubles
(`text_number_round_trip`).

The positional text of a decimal is the text of a decimal numeral of the same value
(`Decimal.numeral`). That numeral reads as the double whose interval holds its value, and the
shortest decimal of a double lies in the double's interval.
-/

namespace Blueprint.Number

open Float.Model Float.Model.UnpackedFloat

/-! ## The numeral of a decimal -/

theorem isDigit_of_mem_toDigits {n : ℕ} : ∀ c ∈ Nat.toDigits 10 n, c.isDigit = true :=
  fun _ member => Nat.isDigit_of_mem_toDigits (by decide) (by decide) member

theorem isDigit_of_mem_zeros {k : ℕ} : ∀ c ∈ List.replicate k '0', c.isDigit = true := by
  intro c member
  rw [List.eq_of_mem_replicate member]
  rfl

/-- The numeral a decimal is written as: its digits and then zeros up to the point, or a point
set inside its digits, or `0.` and zeros before them. -/
def Decimal.numeral (d : Decimal) : DecimalNumeral :=
  if 0 ≤ d.exponent then
    { whole := Nat.toDigits 10 d.digits ++ List.replicate d.exponent.toNat '0'
      fraction := none
      exponent := none
      whole_digits := by
        intro c member
        rcases List.mem_append.mp member with digit | zero
        · exact isDigit_of_mem_toDigits c digit
        · exact isDigit_of_mem_zeros c zero
      fraction_digits := by simp
      some_digit := by simp }
  else if inside : (-d.exponent).toNat < (Nat.toDigits 10 d.digits).length then
    { whole := (Nat.toDigits 10 d.digits).take
        ((Nat.toDigits 10 d.digits).length - (-d.exponent).toNat)
      fraction := some ((Nat.toDigits 10 d.digits).drop
        ((Nat.toDigits 10 d.digits).length - (-d.exponent).toNat))
      exponent := none
      whole_digits := fun c member => isDigit_of_mem_toDigits c (List.mem_of_mem_take member)
      fraction_digits := by
        intro f member c inner
        cases Option.mem_def.mp member
        exact isDigit_of_mem_toDigits c (List.mem_of_mem_drop inner)
      some_digit := by
        left
        simp only [ne_eq, List.take_eq_nil_iff, Nat.toDigits_ne_nil, or_false]
        omega }
  else
    { whole := ['0']
      fraction := some (List.replicate ((-d.exponent).toNat - (Nat.toDigits 10 d.digits).length) '0' ++
        Nat.toDigits 10 d.digits)
      exponent := none
      whole_digits := by simp
      fraction_digits := by
        intro f member c inner
        cases Option.mem_def.mp member
        rcases List.mem_append.mp inner with zero | digit
        · exact isDigit_of_mem_zeros c zero
        · exact isDigit_of_mem_toDigits c digit
      some_digit := by simp }

/-- The numeral of a decimal is its positional text. -/
theorem Decimal.text_numeral (d : Decimal) : d.numeral.text = d.positional.toList := by
  unfold Decimal.numeral Decimal.positional
  simp only [digitText, String.length_ofList]
  split_ifs with nonneg inside <;>
    simp [DecimalNumeral.text, DecimalNumeral.pointText, DecimalNumeral.exponentText, zeros]

theorem valueOfDigits_eq (ds : List Char) : valueOfDigits ds = Nat.ofDigitChars 10 ds 0 := rfl

/-- The numeral of a decimal denotes its value. -/
theorem Decimal.value_numeral (d : Decimal) :
    (d.numeral.digits : ℚ) * 10 ^ d.numeral.scale = d.value := by
  unfold Decimal.numeral
  split_ifs with nonneg inside
  · -- the digits and the zeros up to the point
    simp only [DecimalNumeral.digits, DecimalNumeral.scale, DecimalNumeral.fractionDigits,
      Option.getD_none, List.append_nil, Option.map_none, List.length_nil, valueOfDigits_eq,
      Nat.ofDigitChars_append, Nat.ofDigitChars_ten_toDigits, Nat.ofDigitChars_replicate_zero,
      Nat.cast_zero, sub_zero, zpow_zero, mul_one, Decimal.value]
    push_cast
    rw [← zpow_natCast, Int.toNat_of_nonneg nonneg, mul_comm]
  · -- a point inside the digits
    simp only [DecimalNumeral.digits, DecimalNumeral.scale, DecimalNumeral.fractionDigits,
      Option.getD_some, List.take_append_drop, Option.map_none, Option.getD_none,
      List.length_drop, valueOfDigits_eq, Nat.ofDigitChars_ten_toDigits, Decimal.value]
    congr 2
    omega
  · -- `0.` and zeros before the digits
    simp only [DecimalNumeral.digits, DecimalNumeral.scale, DecimalNumeral.fractionDigits,
      Option.getD_some, Option.map_none, Option.getD_none, List.length_append,
      List.length_replicate, valueOfDigits_eq, Decimal.value, List.singleton_append]
    rw [Nat.ofDigitChars_cons, Nat.ofDigitChars_append, Nat.ofDigitChars_replicate_zero]
    simp only [Nat.mul_zero, Nat.zero_add, Char.reduceToNat, Nat.sub_self,
      Nat.ofDigitChars_ten_toDigits]
    congr 2
    omega

/-! ## The text of a number -/

/-- No character of a literal is blank. -/
theorem isBlank_eq_false_of_isLiteralChar {c : Char} (literal : isLiteralChar c = true) :
    Text.isBlank c = false := by
  simp only [isLiteralChar, Bool.or_eq_true, decide_eq_true_eq] at literal
  rcases literal with ((((digit | rfl) | rfl) | rfl) | rfl) | rfl
  · -- the digits lie between the blanks of the control range and the space, and the others
    simp only [Char.isDigit, Bool.and_eq_true, decide_eq_true_eq, UInt32.le_iff_toNat_le] at digit
    have zero : '0'.val.toNat = 48 := rfl
    have nine : '9'.val.toNat = 57 := rfl
    simp only [Text.isBlank, Text.blankRanges, Char.toNat, List.any_cons, List.any_nil,
      Bool.or_eq_false_iff, Bool.and_eq_false_iff, decide_eq_false_iff_not, not_le, and_true]
    omega
  all_goals decide

/-- A text of literal characters has no blanks to trim. -/
theorem trimBlank_of_literal {cs : List Char} (literal : ∀ c ∈ cs, isLiteralChar c = true) :
    Text.trimBlank cs = cs := by
  have notBlank : ∀ c ∈ cs, Text.isBlank c = false :=
    fun c member => isBlank_eq_false_of_isLiteralChar (literal c member)
  have front : cs.dropWhile Text.isBlank = cs := by
    refine List.dropWhile_eq_self_iff.mpr fun nonempty => ?_
    rw [notBlank _ (List.getElem_mem nonempty)]
    decide
  have back : cs.reverse.dropWhile Text.isBlank = cs.reverse := by
    refine List.dropWhile_eq_self_iff.mpr fun nonempty => ?_
    rw [notBlank _ (List.mem_reverse.mp (List.getElem_mem nonempty))]
    decide
  unfold Text.trimBlank
  rw [front, back, List.reverse_reverse]

/-- Doubles with the same unpacked form are the same double. -/
theorem eq_of_unpack_eq {x y : Float} (same : x.toModel.unpack = y.toModel.unpack) : x = y :=
  Float.toBits_inj.mp (UInt64.toBitVec_inj.mp
    ((unpack_inj_of_valid x.toModel.valid y.toModel.valid).mp same))

/-- The sign a negative flag is written with. -/
def flagSign (negative : Bool) : Option Bool :=
  if negative then some true else none

theorem flagSign_false : flagSign (signNegative .positive) = none := rfl

theorem flagSign_true : flagSign (signNegative .negative) = some true := rfl

theorem applySign_none (x : Float) : applySign none x = x := rfl

theorem applySign_minus (x : Float) : applySign (some true) x = -x := rfl

/-- Negating a double negates its unpacked form. -/
theorem unpack_neg (x : Float) :
    (-x).toModel.unpack = unpack Format.binary64 (pack Format.binary64 x.toModel.unpack.neg) := rfl

theorem text_sign (negative : Bool) :
    (if negative then "-" else "").toList = signText (flagSign negative) := by
  cases negative <;> rfl

/-- A finite nonzero double is written as its sign and the numeral of its shortest decimal. -/
theorem render_finite {x : Float} {s : Sign} {m : ℕ} {e : ℤ} {pos : 0 < m}
    (unpacked : x.toModel.unpack = .finite s m e pos) :
    (render x).toList = signText (flagSign (signNegative s)) ++ (magnitude m e).shortest.numeral.text := by
  unfold render
  rw [shape_eq_ofUnpacked, unpacked]
  simp only [Shape.ofUnpacked, pos.ne', if_false, String.toList_append, text_sign,
    Decimal.text_numeral]
  rfl

/-- A finite nonzero double is read back from its text. -/
theorem ofText_render_finite {x : Float} {s : Sign} {m : ℕ} {e : ℤ} {pos : 0 < m}
    (unpacked : x.toModel.unpack = .finite s m e pos) : ofText (render x) = x := by
  obtain ⟨canonical, high⟩ := canonical_of_unpack unpacked
  have decimal : (ofDecimal (magnitude m e).shortest.numeral.digits
      (magnitude m e).shortest.numeral.scale).toModel.unpack = .finite .positive m e pos := by
    refine unpack_ofDecimal_of_rounds pos canonical high ?_
    rw [Decimal.value_numeral]
    exact rounds_shortest pos
  have literal := (magnitude m e).shortest.numeral.signed_text_literal (flagSign (signNegative s))
  have spelled : signText (flagSign (signNegative s)) ++ (magnitude m e).shortest.numeral.text =
      Text.trimBlank (render x).toList := by
    rw [render_finite unpacked, trimBlank_of_literal literal]
  rw [ofText_of_decimal _ _ spelled]
  apply eq_of_unpack_eq
  rw [unpacked]
  cases s with
  | positive => rw [flagSign_false, applySign_none, decimal]
  | negative =>
      -- the negation of the positive double read back
      rw [flagSign_true, applySign_minus, unpack_neg, decimal]
      exact unpack_pack_canonical .negative pos canonical high

/-- NaN is written `NaN`, which reads back as NaN. -/
theorem ofText_render_nan {x : Float} (unpacked : x.toModel.unpack = .notANumber) :
    ofText (render x) = x := by
  have isNaN : x.isNaN = true := by
    show x.toModel.unpack.isNaN = true
    rw [unpacked]
    rfl
  rw [Float.isNaN_eq_decide_eq_nan, decide_eq_true_eq] at isNaN
  subst isNaN
  rfl

/-- An infinity is written `Infinity` with its sign, which reads back as it. -/
theorem ofText_render_infinity {x : Float} {s : Sign} (unpacked : x.toModel.unpack = .infinity s) :
    ofText (render x) = x := by
  have text : (render x).toList = signText (flagSign (signNegative s)) ++ "Infinity".toList := by
    unfold render
    rw [shape_eq_ofUnpacked, unpacked]
    cases s <;> rfl
  have spelled : signText (flagSign (signNegative s)) ++ "Infinity".toList =
      Text.trimBlank (render x).toList := by
    rw [text]
    cases s <;> decide
  rw [ofText_of_infinity _ spelled]
  apply eq_of_unpack_eq
  rw [unpacked]
  cases s <;> rfl

/-- A zero of either sign is written `0`, which reads back as the positive zero. -/
theorem ofText_render_zero {x : Float} {s : Sign} (unpacked : x.toModel.unpack = .zero s) :
    ofText (render x) = 0.0 := by
  have text : render x = "0" := by
    unfold render
    rw [shape_eq_ofUnpacked, unpacked]
    rfl
  rw [text]
  rfl

/-- Writing a number and reading the text back gives the number again, the negative zero apart,
which comes back as the positive zero. -/
theorem ofText_render (x : Float) :
    (x ≠ -0.0 → ofText (render x) = x) ∧ (x = -0.0 → ofText (render x) = 0.0) := by
  constructor
  · intro notNegativeZero
    cases unpacked : x.toModel.unpack with
    | notANumber => exact ofText_render_nan unpacked
    | infinity s => exact ofText_render_infinity unpacked
    | finite s m e pos => exact ofText_render_finite unpacked
    | zero s =>
        rw [ofText_render_zero unpacked]
        cases s with
        | positive => exact eq_of_unpack_eq (unpacked.trans rfl).symm
        | negative => exact absurd (eq_of_unpack_eq (unpacked.trans rfl)) notNegativeZero
  · rintro rfl
    exact ofText_render_zero rfl

/-- A double equals itself exactly when it is not NaN. -/
theorem beq_self_eq (x : Float) : (x == x) = !x.isNaN := by
  rw [Float.isNaN_eq_decide_eq_nan]
  by_cases nan : x = Float.nan
  · subst nan
    rfl
  · rw [decide_eq_false nan, Bool.not_false]
    exact Float.beq_self_iff.mpr nan

/-- Converting a number to text and the text back to a number, as the `text` and `number`
operators do, gives the number again under the equality of doubles and NaN for NaN. It is the
same double, except that the negative zero comes back as the positive zero. -/
theorem text_number_round_trip (x : Float) :
    ∃ y, (UnaryOp.toText.apply (.number x) >>= UnaryOp.toNumber.apply) = .ok (.number y) ∧
      (y == x) = !x.isNaN ∧ y.isNaN = x.isNaN ∧ (x ≠ -0.0 → y = x) ∧ (x = -0.0 → y = 0.0) := by
  obtain ⟨same, zero⟩ := ofText_render x
  refine ⟨ofText (render x), rfl, ?_⟩
  by_cases negativeZero : x = -0.0
  · subst negativeZero
    rw [zero rfl]
    exact ⟨rfl, rfl, fun other => absurd rfl other, fun _ => rfl⟩
  · rw [same negativeZero]
    exact ⟨beq_self_eq x, rfl, fun _ => rfl, fun other => absurd other negativeZero⟩

end Blueprint.Number
