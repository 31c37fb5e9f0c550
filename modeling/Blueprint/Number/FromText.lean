import Blueprint.Number.Literal
import Blueprint.Text.Blank

/-!
# Numbers from text

The conversion of text to a number that the language's `number` operator performs.
Blank text at both ends is ignored, and text that is then empty is zero. A prefix
`0x`, `0o` or `0b`, in either case, selects base sixteen, eight or two, and the digits
after it are accumulated in doubles, one multiply and add per digit. Otherwise an
optional sign may stand before the word `Infinity`, and all other text must be a
decimal literal made of digits, points, signs and exponent marks only. Text that fits
none of these is NaN.
-/

namespace Blueprint.Number

/-- The base that a two-character prefix selects, if any. -/
def radixOfPrefix : List Char → Option Nat
  | ['0', c] =>
    if c = 'x' ∨ c = 'X' then some 16
    else if c = 'o' ∨ c = 'O' then some 8
    else if c = 'b' ∨ c = 'B' then some 2
    else none
  | _ => none

/-- The value of an ASCII digit or letter in a base up to thirty-six. -/
def digitValue? (radix : Nat) (c : Char) : Option Nat :=
  let v :=
    if c.isDigit then c.toNat - '0'.toNat
    else if 'a' ≤ c ∧ c ≤ 'z' then c.toNat - 'a'.toNat + 10
    else if 'A' ≤ c ∧ c ≤ 'Z' then c.toNat - 'A'.toNat + 10
    else radix
  if v < radix then some v else none

/-- Digits in a base, accumulated left to right in doubles; `none` at the first
character that is no digit of the base. -/
def accumulateDigits (radix : Nat) : List Char → Float → Option Float
  | [], acc => some acc
  | c :: rest, acc =>
    match digitValue? radix c with
    | some d => accumulateDigits radix rest (acc * radix.toFloat + d.toFloat)
    | none => none

/-- Whether a character may stand in a decimal literal of this conversion. -/
def isLiteralChar (c : Char) : Bool :=
  c.isDigit || c = '.' || c = 'e' || c = 'E' || c = '+' || c = '-'

/-- The number that a text denotes, NaN where it denotes none. -/
def ofText (s : String) : Float :=
  let cs := Text.trimBlank s.toList
  if cs.isEmpty then 0.0
  else
    match radixOfPrefix (cs.take 2) with
    | some radix =>
      let ds := cs.drop 2
      if ds.isEmpty then nan else (accumulateDigits radix ds 0.0).getD nan
    | none =>
      let unsigned := (splitSign cs).2
      if unsigned = "Infinity".toList then
        if cs.head? = some '-' then -infinity else infinity
      else if unsigned.all isLiteralChar then
        (readLiteral? (String.ofList cs)).getD nan
      else nan

end Blueprint.Number
