import Blueprint.Value.Basic
import Blueprint.Number.Shortest

/-!
# Text of values and types

Numbers are written in the fewest significant digits that read back as the same
double, positionally and never with an exponent; zero of either sign is `0`, and NaN
and the infinities are the words `NaN`, `Infinity` and `-Infinity`. Booleans are
`true` and `false`, text stands for itself, an entity is its kind and identifier
joined by `#`, and an array is the text of its items joined by commas, without
brackets. Types are written in lower case, with the item type or entity kind in angle
brackets.
-/

namespace Blueprint

namespace Number

/-- A run of `n` zero digits. -/
def zeros (n : Nat) : String :=
  String.ofList (List.replicate n '0')

/-- A decimal written positionally: its digits, then zeros up to the point, or a point
set inside the digits, or `0.` and zeros before them. -/
def Decimal.positional (d : Decimal) : String :=
  let ds := digitText d.digits
  if 0 ≤ d.exponent then ds ++ zeros d.exponent.toNat
  else
    let shift := (-d.exponent).toNat
    let width := ds.length
    if shift < width then
      String.ofList (ds.toList.take (width - shift)) ++ "." ++ String.ofList (ds.toList.drop (width - shift))
    else "0." ++ zeros (shift - width) ++ ds

/-- The text of a number. -/
def render (x : Float) : String :=
  match shape x with
  | .nan => "NaN"
  | .infinite negative => if negative then "-Infinity" else "Infinity"
  | .finite negative b =>
    if b.mantissa = 0 then "0"
    else (if negative then "-" else "") ++ b.shortest.positional

end Number

namespace Value

mutual

/-- The text of a value. -/
def render : Value → String
  | .bool b => if b then "true" else "false"
  | .number x => Number.render x
  | .text s => s
  | .array items => renderItems items
  | .entity e => e.kind ++ "#" ++ toString e.id.toNat

/-- The text of array items, joined by commas. -/
def renderItems : List Value → String
  | [] => ""
  | [v] => render v
  | v :: rest => render v ++ "," ++ renderItems rest

end

end Value

/-- The text of a type. -/
def DataType.render : DataType → String
  | .boolean => "boolean"
  | .number => "number"
  | .text => "text"
  | .void => "void"
  | .array item => "array<" ++ item.render ++ ">"
  | .entity kind => "entity<" ++ kind ++ ">"
  | .any => "any"

end Blueprint
