/-!
# Exact binary view of double-precision numbers

A finite double is a sign and a magnitude `mantissa * 2^exponent` with a natural
mantissa. Reading the bits into that form makes the operations that must not round
on the way exact: truncation toward zero and the remainder of a truncated division
are computed on naturals, and only the final result is turned back into a double.
-/

namespace Blueprint.Number

/-- A finite non-negative magnitude `mantissa * 2^exponent`, as the bits of a double
give it. The flag `narrowBelow` marks the values whose lower neighbour is half as
far away as the upper one (the smallest value of each binade but the first). -/
structure Binary where
  mantissa : Nat
  exponent : Int
  narrowBelow : Bool := false
deriving Repr, DecidableEq

/-- What a double is: not a number, an infinity, or a finite magnitude, the last two
with their sign. -/
inductive Shape where
  | nan
  | infinite (negative : Bool)
  | finite (negative : Bool) (magnitude : Binary)
deriving Repr, DecidableEq

/-- Reads the 64 bits of a double: sign bit, eleven exponent bits and fifty-two
fraction bits, with subnormals on the fixed exponent `-1074`. -/
def Shape.ofBits (bits : UInt64) : Shape :=
  let negative := bits >>> 63 == 1
  let biased := ((bits >>> 52) &&& 0x7FF).toNat
  let fraction := (bits &&& 0xFFFFFFFFFFFFF).toNat
  if biased == 0x7FF then
    if fraction == 0 then .infinite negative else .nan
  else if biased == 0 then
    .finite negative ⟨fraction, -1074, false⟩
  else
    .finite negative ⟨Nat.pow 2 52 + fraction, (biased : Int) - 1075, fraction == 0 && biased > 1⟩

/-- The shape of a double. -/
def shape (x : Float) : Shape :=
  Shape.ofBits x.toBits

/-- The quiet not-a-number. -/
def nan : Float :=
  Float.ofBits 0x7FF8000000000000

/-- Positive infinity. -/
def infinity : Float :=
  Float.ofBits 0x7FF0000000000000

/-- The magnitude as the nearest double; exact whenever the magnitude is a double. -/
def Binary.toFloat (b : Binary) : Float :=
  if 0 ≤ b.exponent then
    Float.ofScientific (b.mantissa * Nat.pow 2 b.exponent.toNat) false 0
  else
    Float.ofScientific (b.mantissa * Nat.pow 5 (-b.exponent).toNat) true (-b.exponent).toNat

/-- A double with the given sign and magnitude; a zero magnitude keeps its sign. -/
def ofMagnitude (negative : Bool) (b : Binary) : Float :=
  if negative then -b.toFloat else b.toFloat

/-- The integer part of the magnitude, rounded toward zero. -/
def Binary.truncNat (b : Binary) : Nat :=
  if 0 ≤ b.exponent then b.mantissa * Nat.pow 2 b.exponent.toNat
  else b.mantissa / Nat.pow 2 (-b.exponent).toNat

/-- Both magnitudes on their common exponent, the smaller of the two, so that they
compare and divide as naturals. -/
def Binary.align (a b : Binary) : Nat × Nat × Int :=
  let low := min a.exponent b.exponent
  (a.mantissa * Nat.pow 2 (a.exponent - low).toNat,
    b.mantissa * Nat.pow 2 (b.exponent - low).toNat, low)

/-- The integer part of a finite double, rounded toward zero; `none` for NaN and the
infinities. -/
def truncInt? (x : Float) : Option Int :=
  match shape x with
  | .finite negative b => some (if negative then -(b.truncNat : Int) else b.truncNat)
  | _ => none

/-- Rounds toward zero. A fraction of either sign becomes a zero of that sign, and NaN
and the infinities are left as they are. -/
def trunc (x : Float) : Float :=
  match shape x with
  | .finite negative b => ofMagnitude negative ⟨b.truncNat, 0, false⟩
  | _ => x

/-- The remainder of the division truncated toward zero: `x - n * y` for the integer
`n` nearest zero among those that leave it smaller than `y` in magnitude. It has the
sign of `x` and is exact. A zero or non-finite divisor or a non-finite dividend gives
NaN, except that a finite dividend over an infinity is left as it is. -/
def rem (x y : Float) : Float :=
  match shape x, shape y with
  | .finite negative a, .finite _ b =>
    if b.mantissa = 0 then nan
    else
      let (p, d, low) := a.align b
      ofMagnitude negative ⟨p % d, low, false⟩
  | .finite _ _, .infinite _ => x
  | _, _ => nan

end Blueprint.Number
