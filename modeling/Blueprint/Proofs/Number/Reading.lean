import Blueprint.Proofs.Number.Numerals

/-!
# Which texts read as numbers

The reader of numbers never fails: a text it does not understand reads as NaN. This module
shows that it gives a number exactly for the spellings of `Numerals` (an empty text, a numeral
in a base, a signed `Infinity`, a signed decimal numeral), and says what each reads as: zero,
the numeral's value while it is below `2^53`, a signed infinity, and the signed double that
`ofDecimal` makes of the decimal's digits and scale (`ofText_isNaN_eq_false_iff`).
-/

namespace Blueprint.Number

/-! ## Reading each form -/

section Forms

variable {s : String}

theorem ofText_of_empty (empty : Text.trimBlank s.toList = []) : ofText s = 0.0 := by
  unfold ofText
  dsimp only
  rw [empty]
  rfl

theorem ofText_of_radix (r : RadixNumeral) (spelled : r.text = Text.trimBlank s.toList) :
    ofText s = (accumulateDigits r.radix r.digits 0.0).getD nan := by
  unfold ofText
  dsimp only
  rw [← spelled]
  have nonempty : r.digits.isEmpty = false := by
    cases h : r.digits with
    | nil => exact absurd h r.nonempty
    | cons => rfl
  simp only [RadixNumeral.text, List.isEmpty_cons, Bool.false_eq_true, if_false, List.take,
    radixOfPrefix_mark, List.drop, nonempty]

theorem ofText_of_infinity (sign : Option Bool)
    (spelled : signText sign ++ "Infinity".toList = Text.trimBlank s.toList) :
    ofText s = applySign sign infinity := by
  unfold ofText
  dsimp only
  rw [← spelled]
  rcases sign with _ | _ | _ <;> rfl

theorem ofText_of_decimal (sign : Option Bool) (n : DecimalNumeral)
    (spelled : signText sign ++ n.text = Text.trimBlank s.toList) :
    ofText s = applySign sign (ofDecimal n.digits n.scale) := by
  have literal := n.signed_text_literal sign
  have unsigned : ∀ c ∈ n.text.head?, c ≠ '+' ∧ c ≠ '-' := by
    intro c head
    rcases n.head_text c head with digit | rfl
    · constructor <;> rintro rfl <;> cases digit
    · decide
  have notInfinity : n.text ≠ "Infinity".toList := by
    intro same
    have capital := n.text_literal 'I' (by rw [same]; decide)
    cases capital
  have nonempty : (signText sign ++ n.text).isEmpty = false := by
    cases h : signText sign ++ n.text with
    | nil => exact absurd (List.eq_nil_of_append_eq_nil h).2 n.text_ne_nil
    | cons => rfl
  unfold ofText
  dsimp only
  rw [← spelled, nonempty, radixOfPrefix_eq_none literal]
  simp only [Bool.false_eq_true, if_false, splitSign_signText sign unsigned, if_neg notInfinity,
    List.all_eq_true.mpr n.text_literal, if_true, readLiteral?, String.toList_ofList,
    DecimalNumeral.ofChars?_text, Option.map_some, Option.getD_some, Literal.toFloat, applySign,
    decide_eq_true_eq]

/-- Every text that is not read as NaN has one of the four forms. -/
theorem spelled_of_isNaN_eq_false (notNaN : (ofText s).isNaN = false) :
    Text.trimBlank s.toList = [] ∨ (∃ r : RadixNumeral, r.text = Text.trimBlank s.toList) ∨
      (∃ sign, signText sign ++ "Infinity".toList = Text.trimBlank s.toList) ∨
      (∃ sign, ∃ n : DecimalNumeral, signText sign ++ n.text = Text.trimBlank s.toList) := by
  unfold ofText at notNaN
  dsimp only at notNaN
  generalize Text.trimBlank s.toList = cs at notNaN ⊢
  by_cases empty : cs.isEmpty
  · exact .inl (List.isEmpty_iff.mp empty)
  rw [if_neg empty] at notNaN
  right
  cases prefixed : radixOfPrefix (cs.take 2) with
  | some radix =>
      -- a base prefix: the digits after it must all be digits of the base
      rw [prefixed] at notNaN
      dsimp only at notNaN
      obtain ⟨mark, ds, rfl, names⟩ := radixOfPrefix_eq_some prefixed
      split_ifs at notNaN with noDigits
      · rw [isNaN_nan] at notNaN
        cases notNaN
      have dropped : List.drop 2 ('0' :: mark :: ds) = ds := rfl
      rw [dropped] at notNaN noDigits
      cases accumulated : accumulateDigits radix ds 0.0 with
      | none =>
          rw [accumulated, Option.getD_none, isNaN_nan] at notNaN
          cases notNaN
      | some v =>
          have digits := (accumulateDigits_isSome_iff radix ds 0.0).mp (by rw [accumulated]; rfl)
          exact .inl ⟨⟨mark, radix, ds, names, fun nil => noDigits (by simp [nil]), digits⟩, rfl⟩
  | none =>
      rw [prefixed] at notNaN
      dsimp only at notNaN
      obtain ⟨sign, decomposed, -⟩ := splitSign_spec cs
      by_cases infinity : (splitSign cs).2 = "Infinity".toList
      · exact .inr (.inl ⟨sign, by rw [← infinity]; exact decomposed.symm⟩)
      rw [if_neg infinity] at notNaN
      split_ifs at notNaN with literal
      · -- literal characters only: the literal reader must have read a decimal
        cases read : readLiteral? (String.ofList cs) with
        | none =>
            rw [read, Option.getD_none, isNaN_nan] at notNaN
            cases notNaN
        | some v =>
            unfold readLiteral? at read
            rw [String.toList_ofList] at read
            obtain ⟨lit, parsed, -⟩ := Option.map_eq_some_iff.mp read
            obtain ⟨n, spelled⟩ := exists_numeral_of_ofChars? (List.all_eq_true.mp literal) parsed
            exact .inr (.inr ⟨sign, n, by rw [spelled]; exact decomposed.symm⟩)
      · rw [isNaN_nan] at notNaN
        cases notNaN

end Forms

/-! ## Values -/

theorem hasSign_ofDecimal (digits : Nat) (exponent : Int) :
    HasSign .positive (ofDecimal digits exponent) := by
  unfold ofDecimal
  dsimp only
  split_ifs
  · exact hasSign_zero
  · exact hasSign_infinity
  · exact hasSign_zero
  · exact hasSign_ofScientific _ _ _

theorem isNaN_applySign {x : Float} (sign : Option Bool) (positive : HasSign .positive x) :
    (applySign sign x).isNaN = false := by
  unfold applySign
  split
  · exact positive.neg.isNaN_eq_false
  · exact positive.isNaN_eq_false

theorem hasSign_radix (r : RadixNumeral) :
    ∃ v, accumulateDigits r.radix r.digits 0.0 = some v ∧ HasSign .positive v := by
  obtain ⟨v, accumulated⟩ := Option.isSome_iff_exists.mp
    ((accumulateDigits_isSome_iff r.radix r.digits 0.0).mpr r.of_base)
  exact ⟨v, accumulated, hasSign_accumulateDigits r.radix_pos r.radix_small hasSign_zero accumulated⟩

theorem accumulateDigits_value (r : RadixNumeral) (small : r.value < 2 ^ 53) :
    accumulateDigits r.radix r.digits 0.0 = some (Float.ofNat r.value) := by
  have zero : (0.0 : Float) = Float.ofNat 0 := zero_eq_ofInt
  rw [zero]
  exact accumulateDigits_ofNat r.radix_pos r.radix_small r.of_base small

/-- A text reads as a number other than NaN exactly when, trimmed of blanks, it is empty, a
numeral in base sixteen, eight or two, the word `Infinity` with at most one sign, or a decimal
numeral with at most one sign. Empty text is zero, a numeral in a base is its value whenever that
value is below `2^53`, the word is the infinity of its sign, and a decimal numeral is the double
nearest its value, with its sign. -/
theorem ofText_isNaN_eq_false_iff (s : String) :
    ((ofText s).isNaN = false ↔
      Text.trimBlank s.toList = [] ∨ (∃ r : RadixNumeral, r.text = Text.trimBlank s.toList) ∨
        (∃ sign, signText sign ++ "Infinity".toList = Text.trimBlank s.toList) ∨
        (∃ sign, ∃ n : DecimalNumeral, signText sign ++ n.text = Text.trimBlank s.toList)) ∧
    (Text.trimBlank s.toList = [] → ofText s = 0.0) ∧
    (∀ r : RadixNumeral, r.text = Text.trimBlank s.toList → r.value < 2 ^ 53 →
      ofText s = Float.ofNat r.value) ∧
    (∀ sign, signText sign ++ "Infinity".toList = Text.trimBlank s.toList →
      ofText s = applySign sign infinity) ∧
    (∀ sign (n : DecimalNumeral), signText sign ++ n.text = Text.trimBlank s.toList →
      ofText s = applySign sign (ofDecimal n.digits n.scale)) := by
  refine ⟨⟨spelled_of_isNaN_eq_false, ?_⟩, ofText_of_empty, ?_, ofText_of_infinity, ofText_of_decimal⟩
  · -- each form reads as a number with a sign
    rintro (empty | ⟨r, spelled⟩ | ⟨sign, spelled⟩ | ⟨sign, n, spelled⟩)
    · rw [ofText_of_empty empty]
      exact hasSign_zero.isNaN_eq_false
    · obtain ⟨v, accumulated, positive⟩ := hasSign_radix r
      rw [ofText_of_radix r spelled, accumulated, Option.getD_some]
      exact positive.isNaN_eq_false
    · rw [ofText_of_infinity sign spelled]
      exact isNaN_applySign sign hasSign_infinity
    · rw [ofText_of_decimal sign n spelled]
      exact isNaN_applySign sign (hasSign_ofDecimal _ _)
  · intro r spelled small
    rw [ofText_of_radix r spelled, accumulateDigits_value r small, Option.getD_some]

end Blueprint.Number
