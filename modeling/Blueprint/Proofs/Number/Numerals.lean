import Blueprint.Number.FromText
import Blueprint.Proofs.Number.Signs

/-!
# Spellings of numbers

After trimming blanks, the reader of numbers accepts four kinds of text: an empty text, a
numeral in base sixteen, eight or two after a `0x`, `0o` or `0b` prefix, an optional sign before
`Infinity`, and an optional sign before a decimal numeral with an optional fraction and an
optional exponent. This module describes the last two numerals as structures that carry their
own well-formedness (`RadixNumeral`, `DecimalNumeral`), each with its text and the value it
spells, and relates them to the scanner of literals: a decimal numeral scans to its digits and
its scale (`DecimalNumeral.ofChars?_text`), and every text the scanner accepts is the text of a
decimal numeral (`exists_numeral_of_ofChars?`).
-/

namespace Blueprint.Number

open Float.Model Float.Model.UnpackedFloat

/-! ## Spellings of numbers -/

/-- The text of an optional sign; `some true` is the minus sign. -/
def signText : Option Bool → List Char
  | none => []
  | some false => ['+']
  | some true => ['-']

/-- A double with an optional sign applied to it. -/
def applySign (sign : Option Bool) (x : Float) : Float :=
  if sign = some true then -x else x

/-- A number in base sixteen, eight or two: `0`, a letter that names the base in either case,
and at least one digit of that base. -/
structure RadixNumeral where
  mark : Char
  radix : Nat
  digits : List Char
  names_base : (mark = 'x' ∨ mark = 'X') ∧ radix = 16 ∨ (mark = 'o' ∨ mark = 'O') ∧ radix = 8 ∨
    (mark = 'b' ∨ mark = 'B') ∧ radix = 2
  nonempty : digits ≠ []
  of_base : ∀ c ∈ digits, (digitValue? radix c).isSome

namespace RadixNumeral

/-- The text of a numeral in a base. -/
def text (r : RadixNumeral) : List Char :=
  '0' :: r.mark :: r.digits

/-- The natural that the digits denote, the most significant first. -/
def value (r : RadixNumeral) : Nat :=
  r.digits.foldl (fun n c => n * r.radix + (digitValue? r.radix c).getD 0) 0

theorem radix_pos (r : RadixNumeral) : 0 < r.radix := by
  have := r.names_base
  omega

theorem radix_small (r : RadixNumeral) : r.radix < 2 ^ 53 := by
  have := r.names_base
  omega

end RadixNumeral

/-- The exponent part of a decimal numeral: `e` or `E`, an optional sign and at least one
digit. -/
structure ExponentPart where
  mark : Char
  sign : Option Bool
  digits : List Char
  is_mark : mark = 'e' ∨ mark = 'E'
  nonempty : digits ≠ []
  all_digits : ∀ c ∈ digits, c.isDigit = true

namespace ExponentPart

/-- The text of an exponent part. -/
def text (x : ExponentPart) : List Char :=
  x.mark :: signText x.sign ++ x.digits

/-- The power of ten an exponent part stands for. -/
def value (x : ExponentPart) : Int :=
  if x.sign = some true then -(valueOfDigits x.digits : Int) else valueOfDigits x.digits

end ExponentPart

/-- An unsigned decimal numeral: digits with at most one point and at least one digit in all,
then perhaps an exponent part. -/
structure DecimalNumeral where
  whole : List Char
  /-- The digits after the point, if there is a point. -/
  fraction : Option (List Char)
  exponent : Option ExponentPart
  whole_digits : ∀ c ∈ whole, c.isDigit = true
  fraction_digits : ∀ f ∈ fraction, ∀ c ∈ f, c.isDigit = true
  some_digit : whole ≠ [] ∨ ∃ f ∈ fraction, f ≠ []

namespace DecimalNumeral

/-- The point and the digits after it, if there is a point. -/
def pointText : Option (List Char) → List Char
  | none => []
  | some f => '.' :: f

/-- The exponent part, if there is one. -/
def exponentText : Option ExponentPart → List Char
  | none => []
  | some x => x.text

/-- The text of an unsigned decimal numeral. -/
def text (n : DecimalNumeral) : List Char :=
  n.whole ++ pointText n.fraction ++ exponentText n.exponent

/-- The digits after the point, none without a point. -/
def fractionDigits (n : DecimalNumeral) : List Char :=
  n.fraction.getD []

/-- A numeral denotes `digits * 10^scale`. -/
def digits (n : DecimalNumeral) : Nat :=
  valueOfDigits (n.whole ++ n.fractionDigits)

/-- A numeral denotes `digits * 10^scale`. -/
def scale (n : DecimalNumeral) : Int :=
  (n.exponent.map ExponentPart.value).getD 0 - n.fractionDigits.length

end DecimalNumeral

/-! ## Characters and signs of literals -/

theorem toLower_of_isDigit {c : Char} (digit : c.isDigit = true) : c.toLower = c := by
  unfold Char.toLower
  rw [dif_neg]
  simp only [Char.isDigit, Bool.and_eq_true, decide_eq_true_eq] at digit
  intro upper
  have := upper.1
  have := digit.2
  simp only [UInt32.le_iff_toNat_le] at *
  have nine : '9'.val.toNat = 57 := rfl
  have bigA : 'A'.val.toNat = 65 := rfl
  omega

theorem isLiteralChar_of_isDigit {c : Char} (digit : c.isDigit = true) : isLiteralChar c = true := by
  simp [isLiteralChar, digit]

theorem isLiteralChar_toLower {c : Char} (literal : isLiteralChar c = true) :
    isLiteralChar c.toLower = true := by
  simp only [isLiteralChar, Bool.or_eq_true, decide_eq_true_eq] at literal
  rcases literal with ((((digit | rfl) | rfl) | rfl) | rfl) | rfl
  · rw [toLower_of_isDigit digit]
    exact isLiteralChar_of_isDigit digit
  all_goals decide

/-- Literal characters in lower case spell no word with a letter other than `e`. -/
theorem map_toLower_ne {cs w : List Char} (literal : ∀ c ∈ cs, isLiteralChar c = true) {x : Char}
    (mem : x ∈ w) (other : isLiteralChar x = false) : cs.map Char.toLower ≠ w := by
  rintro rfl
  obtain ⟨c, member, rfl⟩ := List.mem_map.mp mem
  rw [isLiteralChar_toLower (literal c member)] at other
  cases other

/-- A text of literal characters is none of the words for infinity and NaN. -/
theorem not_special {cs : List Char} (literal : ∀ c ∈ cs, isLiteralChar c = true) :
    ¬ (String.ofList (cs.map Char.toLower) = "inf" ∨
        String.ofList (cs.map Char.toLower) = "infinity") ∧
      String.ofList (cs.map Char.toLower) ≠ "nan" := by
  have inf : "inf" = String.ofList ['i', 'n', 'f'] := by decide
  have infinity : "infinity" = String.ofList "infinity".toList := by decide
  have nan : "nan" = String.ofList ['n', 'a', 'n'] := by decide
  refine ⟨?_, ?_⟩
  · rintro (same | same)
    · exact map_toLower_ne literal (x := 'i') (by decide) (by decide)
        (String.ofList_injective (same.trans inf))
    · exact map_toLower_ne literal (x := 'i') (by decide) (by decide)
        (String.ofList_injective (same.trans infinity))
  · intro same
    exact map_toLower_ne literal (x := 'n') (by decide) (by decide)
      (String.ofList_injective (same.trans nan))

/-- Digits followed by a text that does not start with one split there. -/
theorem takeWhile_dropWhile_digits {w rest : List Char} (digits : ∀ c ∈ w, c.isDigit = true)
    (stop : ∀ c ∈ rest.head?, c.isDigit = false) :
    (w ++ rest).takeWhile Char.isDigit = w ∧ (w ++ rest).dropWhile Char.isDigit = rest := by
  rw [List.takeWhile_append_of_pos digits, List.dropWhile_append_of_pos digits]
  cases rest with
  | nil => simp
  | cons c r =>
      have notDigit := stop c rfl
      simp [notDigit]

/-- A sign written before a text that does not start with one is split off again. -/
theorem splitSign_signText (sign : Option Bool) {rest : List Char}
    (unsigned : ∀ c ∈ rest.head?, c ≠ '+' ∧ c ≠ '-') :
    splitSign (signText sign ++ rest) = (decide (sign = some true), rest) := by
  rcases sign with _ | _ | _
  · cases rest with
    | nil => rfl
    | cons c r =>
        obtain ⟨plus, minus⟩ := unsigned c rfl
        show splitSign (c :: r) = (false, c :: r)
        unfold splitSign
        split <;> simp_all
  · rfl
  · rfl

/-- Every text is an optional sign followed by what the sign split leaves. -/
theorem splitSign_spec (cs : List Char) :
    ∃ sign, cs = signText sign ++ (splitSign cs).2 ∧ (splitSign cs).1 = decide (sign = some true) := by
  unfold splitSign
  split
  · exact ⟨some false, rfl, rfl⟩
  · exact ⟨some true, rfl, rfl⟩
  · exact ⟨none, rfl, rfl⟩

theorem readExponent?_eq_some {r : List Char} {e : Int} (read : readExponent? r = some e) :
    ∃ sign ds, r = signText sign ++ ds ∧ ds ≠ [] ∧ ∀ c ∈ ds, c.isDigit = true := by
  obtain ⟨sign, decomposed, -⟩ := splitSign_spec r
  unfold readExponent? at read
  dsimp only at read
  split_ifs at read with valid <;>
    exact ⟨sign, (splitSign r).2, decomposed, valid.1, List.all_eq_true.mp valid.2⟩

/-! ## The base prefix -/

theorem eq_cons_cons_of_take {cs : List Char} {a b : Char} (taken : cs.take 2 = [a, b]) :
    ∃ ds, cs = a :: b :: ds := by
  rcases cs with _ | ⟨x, _ | ⟨y, ds⟩⟩
  · cases taken
  · cases taken
  · simp only [List.take, List.cons.injEq, and_true] at taken
    obtain ⟨rfl, rfl⟩ := taken
    exact ⟨ds, rfl⟩

theorem radixOfPrefix_mark (r : RadixNumeral) : radixOfPrefix ['0', r.mark] = some r.radix := by
  obtain ⟨mark, radix, _, names, _, _⟩ := r
  rcases names with ⟨rfl | rfl, rfl⟩ | ⟨rfl | rfl, rfl⟩ | ⟨rfl | rfl, rfl⟩ <;> rfl

theorem radixOfPrefix_eq_some {cs : List Char} {radix : Nat}
    (prefixed : radixOfPrefix (cs.take 2) = some radix) :
    ∃ mark ds, cs = '0' :: mark :: ds ∧ ((mark = 'x' ∨ mark = 'X') ∧ radix = 16 ∨
      (mark = 'o' ∨ mark = 'O') ∧ radix = 8 ∨ (mark = 'b' ∨ mark = 'B') ∧ radix = 2) := by
  unfold radixOfPrefix at prefixed
  split at prefixed
  · rename_i mark same
    obtain ⟨ds, rfl⟩ := eq_cons_cons_of_take same
    refine ⟨mark, ds, rfl, ?_⟩
    split_ifs at prefixed <;> simp_all
  · cases prefixed

/-- No base prefix stands at the start of a text of literal characters. -/
theorem radixOfPrefix_eq_none {cs : List Char} (literal : ∀ c ∈ cs, isLiteralChar c = true) :
    radixOfPrefix (cs.take 2) = none := by
  unfold radixOfPrefix
  split
  · rename_i mark same
    -- the second character is a literal character, which names no base
    have markLiteral : isLiteralChar mark = true := by
      obtain ⟨ds, rfl⟩ := eq_cons_cons_of_take same
      exact literal mark (by simp)
    rw [if_neg, if_neg, if_neg] <;> rintro (rfl | rfl) <;> cases markLiteral
  · rfl

/-! ## Digits in a base -/

theorem digitValue?_lt {radix : Nat} {c : Char} {d : Nat} (value : digitValue? radix c = some d) :
    d < radix := by
  unfold digitValue? at value
  dsimp only at value
  rw [Option.ite_none_right_eq_some] at value
  obtain ⟨below, same⟩ := value
  rw [← Option.some.inj same]
  exact below

theorem accumulateDigits_isSome_iff (radix : Nat) :
    ∀ (ds : List Char) (acc : Float),
      (accumulateDigits radix ds acc).isSome ↔ ∀ c ∈ ds, (digitValue? radix c).isSome
  | [], acc => by simp [accumulateDigits]
  | c :: rest, acc => by
      unfold accumulateDigits
      cases digit : digitValue? radix c with
      | none => simp [digit]
      | some d => simp [digit, accumulateDigits_isSome_iff radix rest]

/-- Accumulating digits of a base into a positive number keeps it positive, never NaN. -/
theorem hasSign_accumulateDigits {radix : Nat} (base : 0 < radix) (small : radix < 2 ^ 53) :
    ∀ {ds : List Char} {acc v : Float}, HasSign .positive acc →
      accumulateDigits radix ds acc = some v → HasSign .positive v
  | [], acc, v, signed, result => by
      cases result
      exact signed
  | c :: rest, acc, v, signed, result => by
      unfold accumulateDigits at result
      cases digit : digitValue? radix c with
      | none => simp [digit] at result
      | some d =>
          rw [digit] at result
          -- one step multiplies by the finite positive base and adds a positive digit
          have step : HasSign .positive (acc * radix.toFloat + d.toFloat) :=
            (HasSign.mul signed (unpack_ofNat base small)).add (hasSign_ofNat d)
          exact hasSign_accumulateDigits base small step result

/-- The value of digits in a base accumulated onto `n`, the most significant first. -/
theorem le_foldl_digits (radix : Nat) (base : 0 < radix) (value : Char → Nat) :
    ∀ (ds : List Char) (n : Nat), n ≤ ds.foldl (fun n c => n * radix + value c) n
  | [], n => le_refl n
  | c :: rest, n => by
      have step : n ≤ n * radix + value c :=
        le_trans (Nat.le_mul_of_pos_right n base) (Nat.le_add_right _ _)
      exact le_trans step (le_foldl_digits radix base value rest _)

/-- Digits in a base are accumulated exactly while their value stays below `2^53`. -/
theorem accumulateDigits_ofNat {radix : Nat} (base : 0 < radix) (small : radix < 2 ^ 53) :
    ∀ {ds : List Char} {n : Nat}, (∀ c ∈ ds, (digitValue? radix c).isSome) →
      ds.foldl (fun n c => n * radix + (digitValue? radix c).getD 0) n < 2 ^ 53 →
      accumulateDigits radix ds (Float.ofNat n) =
        some (Float.ofNat (ds.foldl (fun n c => n * radix + (digitValue? radix c).getD 0) n))
  | [], n, _, _ => rfl
  | c :: rest, n, digits, below => by
      obtain ⟨d, digit⟩ := Option.isSome_iff_exists.mp (digits c (by simp))
      have less := digitValue?_lt digit
      simp only [List.foldl_cons, digit, Option.getD_some] at below ⊢
      have within := lt_of_le_of_lt (le_foldl_digits radix base _ rest _) below
      have product : n * radix < 2 ^ 53 := by omega
      have smallN : n < 2 ^ 53 := lt_of_le_of_lt (Nat.le_mul_of_pos_right n base) product
      -- the step is exact: a product and a sum of integers below `2^53`
      have step : Float.ofNat n * radix.toFloat + d.toFloat = Float.ofNat (n * radix + d) := by
        rw [Nat.toFloat, Nat.toFloat, ofNat_mul_ofNat smallN small product,
          ofNat_add_ofNat product (lt_trans less small) within]
      unfold accumulateDigits
      rw [digit]
      dsimp only
      rw [step]
      exact accumulateDigits_ofNat base small (fun c mem => digits c (by simp [mem])) below

/-! ## Decimal numerals -/

namespace ExponentPart

variable (x : ExponentPart)

theorem mark_ne_point : x.mark ≠ '.' := by
  rcases x.is_mark with same | same <;> rw [same] <;> decide

theorem isDigit_mark : x.mark.isDigit = false := by
  rcases x.is_mark with same | same <;> rw [same] <;> rfl

/-- An exponent part is made of literal characters only. -/
theorem text_literal : ∀ c ∈ x.text, isLiteralChar c = true := by
  intro c member
  simp only [text, List.mem_cons, List.mem_append] at member
  rcases member with (rfl | signed) | digit
  · rcases x.is_mark with same | same <;> rw [same] <;> rfl
  · rcases h : x.sign with _ | _ | _ <;> simp_all [signText] <;> rfl
  · exact isLiteralChar_of_isDigit (x.all_digits c digit)

/-- The exponent reader reads the sign and digits of an exponent part as its value. -/
theorem readExponent?_text : readExponent? (signText x.sign ++ x.digits) = some x.value := by
  have unsigned : ∀ c ∈ x.digits.head?, c ≠ '+' ∧ c ≠ '-' := by
    intro c head
    have digit := x.all_digits c (List.mem_of_mem_head? head)
    constructor <;> rintro rfl <;> cases digit
  unfold readExponent?
  rw [splitSign_signText x.sign unsigned]
  simp only [x.nonempty, ne_eq, not_false_eq_true, List.all_eq_true, true_and, value,
    decide_eq_true_eq]
  rw [if_pos x.all_digits]

end ExponentPart

namespace DecimalNumeral

/-- A numeral is made of literal characters only. -/
theorem text_literal (n : DecimalNumeral) : ∀ c ∈ n.text, isLiteralChar c = true := by
  intro c member
  simp only [text, List.mem_append] at member
  rcases member with (whole | point) | exponent
  · exact isLiteralChar_of_isDigit (n.whole_digits c whole)
  · rcases hf : n.fraction with _ | f
    · simp [hf, pointText] at point
    · simp only [hf, pointText, List.mem_cons] at point
      rcases point with rfl | digit
      · rfl
      · exact isLiteralChar_of_isDigit (n.fraction_digits f hf c digit)
  · rcases hx : n.exponent with _ | x
    · simp [hx, exponentText] at exponent
    · rw [hx] at exponent
      exact x.text_literal c exponent

/-- A numeral with a sign before it is made of literal characters. -/
theorem signed_text_literal (sign : Option Bool) (n : DecimalNumeral) :
    ∀ c ∈ signText sign ++ n.text, isLiteralChar c = true := by
  have signLiteral : ∀ c ∈ signText sign, isLiteralChar c = true := by
    rcases sign with _ | _ | _ <;> simp [signText] <;> rfl
  intro c member
  rcases List.mem_append.mp member with signed | numeral
  · exact signLiteral c signed
  · exact n.text_literal c numeral

/-- A numeral starts with a digit or its point. -/
theorem head_text (n : DecimalNumeral) : ∀ c ∈ n.text.head?, c.isDigit = true ∨ c = '.' := by
  intro c head
  rcases hw : n.whole with _ | ⟨d, ds⟩
  · -- without whole digits there is a point with digits after it
    obtain ⟨f, hf, -⟩ := n.some_digit.resolve_left (by simp [hw])
    simp only [text, hw, Option.mem_def.mp hf, pointText, List.nil_append, List.cons_append,
      List.head?_cons, Option.mem_def, Option.some.injEq] at head
    exact .inr head.symm
  · simp only [text, hw, List.cons_append, List.head?_cons, Option.mem_def,
      Option.some.injEq] at head
    subst head
    exact .inl (n.whole_digits d (by simp [hw]))

theorem text_ne_nil (n : DecimalNumeral) : n.text ≠ [] := by
  intro empty
  rcases n.some_digit with whole | ⟨f, hf, nonempty⟩
  · exact whole (List.eq_nil_of_append_eq_nil (List.eq_nil_of_append_eq_nil empty).1).1
  · have point := (List.eq_nil_of_append_eq_nil (List.eq_nil_of_append_eq_nil empty).1).2
    simp [Option.mem_def.mp hf, pointText] at point

/-- What follows the digits of a numeral starts with no digit. -/
theorem head_exponentText (x : Option ExponentPart) :
    ∀ c ∈ (exponentText x).head?, c.isDigit = false ∧ c ≠ '.' := by
  intro c head
  rcases x with _ | x
  · cases head
  · simp only [exponentText, ExponentPart.text, List.cons_append, List.head?_cons, Option.mem_def,
      Option.some.injEq] at head
    subst head
    exact ⟨x.isDigit_mark, x.mark_ne_point⟩

/-- The literal reader reads a numeral as its digits and scale. -/
theorem ofChars?_text (n : DecimalNumeral) :
    Literal.ofChars? n.text = some (.decimal n.digits n.scale) := by
  obtain ⟨notInfinite, notNaN⟩ := not_special n.text_literal
  unfold Literal.ofChars?
  dsimp only
  rw [if_neg notInfinite, if_neg notNaN]
  obtain ⟨w, f, x, wholeDigits, fractionOk, someDigit⟩ := n
  have stop : ∀ c ∈ (pointText f ++ exponentText x).head?, c.isDigit = false := by
    rcases f with _ | f
    · exact fun c head => (head_exponentText x c head).1
    · intro c head
      simp only [pointText, List.cons_append, List.head?_cons, Option.mem_def,
        Option.some.injEq] at head
      subst head
      rfl
  have whole := takeWhile_dropWhile_digits wholeDigits stop
  simp only [text, List.append_assoc, whole.1, whole.2]
  -- the reader splits off the digits after the point, then reads the exponent part
  have someDigit' : w = [] → ∀ fr ∈ f, fr ≠ [] := by
    intro empty fr hf
    simpa [empty, Option.mem_def.mp hf] using someDigit
  rcases f with _ | fr <;> rcases x with _ | x
  · have nonempty : w ≠ [] := by simpa using someDigit
    simp [pointText, exponentText, nonempty, digits, scale, fractionDigits]
  · have nonempty : w ≠ [] := by simpa using someDigit
    simp [pointText, exponentText, ExponentPart.text, nonempty, digits, scale, fractionDigits,
      x.mark_ne_point, x.is_mark, x.readExponent?_text]
  · have fraction := @takeWhile_dropWhile_digits _ [] (fractionOk fr rfl) (by simp)
    simp only [List.append_nil] at fraction
    simp [pointText, exponentText, fraction.1, fraction.2, digits, scale, fractionDigits]
    exact fun empty => someDigit' empty fr rfl
  · have fraction := @takeWhile_dropWhile_digits _ x.text (fractionOk fr rfl)
      (fun c head => (head_exponentText (some x) c head).1)
    simp [pointText, exponentText, fraction.1, fraction.2, digits, scale, fractionDigits]
    simp [ExponentPart.text, x.is_mark, x.readExponent?_text]
    exact fun empty => someDigit' empty fr rfl

end DecimalNumeral

/-- What the literal reader accepts after the digits of a numeral is an exponent part or
nothing. -/
theorem exists_exponentText {exps : List Char}
    (accepted : ∀ mark r, exps = mark :: r → (mark = 'e' ∨ mark = 'E') ∧ ∃ e, readExponent? r = some e) :
    ∃ x, DecimalNumeral.exponentText x = exps := by
  rcases exps with _ | ⟨mark, r⟩
  · exact ⟨none, rfl⟩
  · obtain ⟨markE, e, read⟩ := accepted mark r rfl
    obtain ⟨sign, ds, rfl, nonempty, digits⟩ := readExponent?_eq_some read
    exact ⟨some ⟨mark, sign, ds, markE, nonempty, digits⟩, rfl⟩

/-- Whatever the literal reader reads as a decimal from literal characters is a numeral. -/
theorem exists_numeral_of_ofChars? {cs : List Char} {lit : Literal}
    (literal : ∀ c ∈ cs, isLiteralChar c = true) (parsed : Literal.ofChars? cs = some lit) :
    ∃ n : DecimalNumeral, n.text = cs := by
  obtain ⟨notInfinite, notNaN⟩ := not_special literal
  unfold Literal.ofChars? at parsed
  dsimp only at parsed
  rw [if_neg notInfinite, if_neg notNaN] at parsed
  have split := List.takeWhile_append_dropWhile (p := Char.isDigit) (l := cs)
  have wholeDigits : ∀ c ∈ cs.takeWhile Char.isDigit, c.isDigit = true :=
    fun c member => List.mem_takeWhile_imp member
  generalize cs.takeWhile Char.isDigit = whole at parsed split wholeDigits
  generalize cs.dropWhile Char.isDigit = after at parsed split
  subst split
  rcases after with _ | ⟨c, r⟩
  · -- only whole digits
    have nonempty : whole ≠ [] := by
      intro empty
      simp [empty] at parsed
    exact ⟨⟨whole, none, none, wholeDigits, by simp, .inl nonempty⟩,
      by simp [DecimalNumeral.text, DecimalNumeral.pointText, DecimalNumeral.exponentText]⟩
  · by_cases point : c = '.'
    · subst point
      simp only at parsed
      have fractionSplit := List.takeWhile_append_dropWhile (p := Char.isDigit) (l := r)
      have fractionDigits : ∀ c ∈ r.takeWhile Char.isDigit, c.isDigit = true :=
        fun c member => List.mem_takeWhile_imp member
      generalize r.takeWhile Char.isDigit = f at parsed fractionSplit fractionDigits
      generalize r.dropWhile Char.isDigit = exps at parsed fractionSplit
      subst fractionSplit
      have someDigit : whole ≠ [] ∨ f ≠ [] := by
        by_contra none
        simp only [not_or, not_not] at none
        rw [if_pos ⟨by simp [none.1], by simp [none.2]⟩] at parsed
        cases parsed
      have notBoth : ¬ (whole.isEmpty = true ∧ f.isEmpty = true) := by
        rintro ⟨noWhole, noFraction⟩
        rcases someDigit with nonempty | nonempty
        · exact nonempty (List.isEmpty_iff.mp noWhole)
        · exact nonempty (List.isEmpty_iff.mp noFraction)
      rw [if_neg notBoth] at parsed
      obtain ⟨x, exponent⟩ := @exists_exponentText exps (by
        rintro mark r' rfl
        simp only at parsed
        split_ifs at parsed with markE
        exact ⟨markE, (Option.map_eq_some_iff.mp parsed).imp fun e found => found.1⟩)
      refine ⟨⟨whole, some f, x, wholeDigits, ?_, ?_⟩, ?_⟩
      · intro f' member
        cases Option.mem_def.mp member
        exact fractionDigits
      · exact someDigit.imp id fun nonempty => ⟨f, rfl, nonempty⟩
      · simp [DecimalNumeral.text, DecimalNumeral.pointText, exponent]
    · -- no point: what follows the whole digits is the exponent part
      simp [point] at parsed
      obtain ⟨nonempty, markE, e, read, -⟩ := parsed
      obtain ⟨x, exponent⟩ := @exists_exponentText (c :: r) (by
        intro mark r' same
        obtain ⟨rfl, rfl⟩ := List.cons.inj same
        exact ⟨markE, e, read⟩)
      refine ⟨⟨whole, none, x, wholeDigits, by simp, .inl nonempty⟩, ?_⟩
      simp [DecimalNumeral.text, DecimalNumeral.pointText, exponent]

end Blueprint.Number
