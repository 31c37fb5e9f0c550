import Blueprint.Number.Binary

/-!
# Numbers as 32-bit words

Bitwise operators see a number as a signed 32-bit word. NaN and the infinities are the word
zero. A finite number is truncated toward zero, reduced by the remainder of its division by
`2^32`, which keeps the sign of the number, read as a 64-bit integer, and wrapped to 32 bits.
Words go back to numbers exactly.
-/

namespace Blueprint.Number

/-- The double `2^32`, by which a number is reduced before it is read as a word. -/
def wordModulus : Float := 4294967296

/-- The integer part of a double as a 64-bit integer: rounded toward zero and saturated at the
ends of the range, the infinities at the end of their sign, NaN at zero. -/
def toInt64 (x : Float) : Int64 :=
  match shape x with
  | .finite negative b => Int64.ofIntClamp (if negative then -(b.truncNat : Int) else b.truncNat)
  | .infinite negative => if negative then Int64.minValue else Int64.maxValue
  | .nan => 0

/-- The signed 32-bit word of a number. -/
def toWord (x : Float) : Int32 :=
  match shape x with
  | .finite _ _ => (toInt64 (rem (trunc x) wordModulus)).toInt32
  | _ => 0

/-- The number of a signed 32-bit word. -/
def ofWord (w : Int32) : Float :=
  Float.ofInt w.toInt

end Blueprint.Number
