import Blueprint.Number.Binary

/-!
# Reading decimal literals

A decimal literal is an optional sign followed either by one of the words `inf`,
`infinity` and `nan`, in any case, or by digits with at most one point, at least one
digit in all, and an optional exponent: `e` or `E`, an optional sign and at least one
digit. Its value is the double nearest to the exact decimal, ties to even; decimals
too large for a double are infinite and those too small are zero, with their sign.
-/

namespace Blueprint.Number

/-- What a literal denotes, before its sign is applied. -/
inductive Literal where
  | infinite
  | notANumber
  /-- `digits * 10^exponent` -/
  | decimal (digits : Nat) (exponent : Int)
deriving Repr, DecidableEq

/-- The value of a list of decimal digit characters. -/
def valueOfDigits (ds : List Char) : Nat :=
  ds.foldl (fun acc c => 10 * acc + (c.toNat - '0'.toNat)) 0

/-- Splits off a leading `+` or `-`, answering whether it was a minus. -/
def splitSign : List Char → Bool × List Char
  | '+' :: rest => (false, rest)
  | '-' :: rest => (true, rest)
  | rest => (false, rest)

/-- The exponent part after its mark: an optional sign and at least one digit. -/
def readExponent? (cs : List Char) : Option Int :=
  let (negative, ds) := splitSign cs
  if ds ≠ [] ∧ ds.all Char.isDigit then
    let n : Int := valueOfDigits ds
    some (if negative then -n else n)
  else none

/-- Reads an unsigned literal: a special word or digits, point and exponent. -/
def Literal.ofChars? (cs : List Char) : Option Literal :=
  let lower := String.ofList (cs.map Char.toLower)
  if lower = "inf" ∨ lower = "infinity" then some .infinite
  else if lower = "nan" then some .notANumber
  else
    let whole := cs.takeWhile Char.isDigit
    let afterWhole := cs.dropWhile Char.isDigit
    let (fraction, rest) : List Char × List Char :=
      match afterWhole with
      | '.' :: r => (r.takeWhile Char.isDigit, r.dropWhile Char.isDigit)
      | r => ([], r)
    if whole.isEmpty ∧ fraction.isEmpty then none
    else
      let digits := valueOfDigits (whole ++ fraction)
      let shift : Int := fraction.length
      match rest with
      | [] => some (.decimal digits (-shift))
      | mark :: r =>
        if mark = 'e' ∨ mark = 'E' then
          (readExponent? r).map fun e => .decimal digits (e - shift)
        else none

/-- The nearest double to `digits * 10^exponent`. Decimals whose leading digit stands
above `10^308` are infinite, and those below `10^-324` are zero, which is where
rounding sends them; the rest are rounded exactly. -/
def ofDecimal (digits : Nat) (exponent : Int) : Float :=
  let width : Int := (Nat.toDigits 10 digits).length
  if digits = 0 then 0.0
  else if width + exponent > 309 then infinity
  else if width + exponent ≤ -324 then 0.0
  else Float.ofScientific digits (decide (exponent < 0)) exponent.natAbs

/-- The double a literal denotes, with its sign. -/
def Literal.toFloat (negative : Bool) : Literal → Float
  | .infinite => if negative then -infinity else infinity
  | .notANumber => nan
  | .decimal digits exponent =>
    let x := ofDecimal digits exponent
    if negative then -x else x

/-- Reads a whole text as a decimal literal, or answers `none`. -/
def readLiteral? (s : String) : Option Float :=
  let (negative, rest) := splitSign s.toList
  (Literal.ofChars? rest).map (Literal.toFloat negative)

end Blueprint.Number
