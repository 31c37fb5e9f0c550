import Blueprint.Number.Binary

/-!
# Shortest decimal digits of a double

Every positive finite double owns an interval of reals that round to it. The decimal
written for the double is the one with the fewest significant digits inside that
interval; among decimals of that length the nearest one is taken, and an exact tie
goes to the larger. The search tries the grids `10^s` from the one of the leading
digit downwards: if a point of a grid lies in the interval, so does one of the two
grid points that enclose the value, so testing those two suffices. All arithmetic is
on naturals, so the choice is exact.
-/

namespace Blueprint.Number

/-- A non-negative decimal `digits * 10^exponent`. -/
structure Decimal where
  digits : Nat
  exponent : Int
deriving Repr, DecidableEq

/-- Compares `a * 10^i` with `n * 2^j` exactly, by clearing both denominators. -/
def compareScaled (a : Nat) (i : Int) (n : Nat) (j : Int) : Ordering :=
  compare (a * Nat.pow 10 i.toNat * Nat.pow 2 (-j).toNat)
    (n * Nat.pow 2 j.toNat * Nat.pow 10 (-i).toNat)

/-- Whether the decimal lies in the interval of reals that round to the magnitude,
ties to even: the ends, half way to each neighbour, belong to it exactly when the
mantissa is even. -/
def Binary.readsBack (b : Binary) (d : Decimal) : Bool :=
  let below := if b.narrowBelow then 4 * b.mantissa - 1 else 4 * b.mantissa - 2
  let above := 4 * b.mantissa + 2
  let closed := b.mantissa % 2 == 0
  let low := compareScaled d.digits d.exponent below (b.exponent - 2)
  let high := compareScaled d.digits d.exponent above (b.exponent - 2)
  (low == .gt || (closed && low == .eq)) && (high == .lt || (closed && high == .eq))

/-- Whether `10^k` does not exceed the magnitude. -/
def Binary.atLeastPow (b : Binary) (k : Int) : Bool :=
  compareScaled 1 k b.mantissa b.exponent != .gt

/-- Moves an estimate of the leading exponent to the exact one, a step at a time. -/
def Binary.settleLead (b : Binary) : Nat → Int → Int
  | 0, k => k
  | fuel + 1, k =>
    if !b.atLeastPow k then b.settleLead fuel (k - 1)
    else if b.atLeastPow (k + 1) then b.settleLead fuel (k + 1)
    else k

/-- The exponent of the leading decimal digit of a positive magnitude: the largest
`k` with `10^k` at most the magnitude. The estimate from the binary length is off by
at most one, and four steps settle it. -/
def Binary.leadExponent (b : Binary) : Int :=
  let length : Int := (Nat.log2 b.mantissa : Int) + b.exponent
  b.settleLead 4 ((length * 30103).fdiv 100000)

/-- The number of steps of `10^s` that fit in the magnitude, rounded down. -/
def Binary.floorOnGrid (b : Binary) (s : Int) : Nat :=
  (b.mantissa * Nat.pow 2 b.exponent.toNat * Nat.pow 10 (-s).toNat) /
    (Nat.pow 2 (-b.exponent).toNat * Nat.pow 10 s.toNat)

/-- The nearer of two decimals on one grid that enclose the magnitude; of two equally
near, the upper one. -/
def Binary.nearer (b : Binary) (lower upper : Decimal) : Decimal :=
  -- twice the magnitude against the sum of the two grid points
  match compareScaled (lower.digits + upper.digits) lower.exponent (2 * b.mantissa) b.exponent with
  | .gt => lower
  | _ => upper

/-- The grid point of `10^s` that reads back as the magnitude, if either of the two
enclosing points does. -/
def Binary.onGrid (b : Binary) (s : Int) : Option Decimal :=
  let lower : Decimal := ⟨b.floorOnGrid s, s⟩
  let upper : Decimal := ⟨b.floorOnGrid s + 1, s⟩
  match b.readsBack lower, b.readsBack upper with
  | true, true => some (b.nearer lower upper)
  | true, false => some lower
  | false, true => some upper
  | false, false => none

/-- Removes trailing zero digits without changing the value. -/
def Decimal.trim (d : Decimal) : Decimal :=
  if h : d.digits ≠ 0 ∧ d.digits % 10 = 0 then
    Decimal.trim ⟨d.digits / 10, d.exponent + 1⟩
  else d
termination_by d.digits
decreasing_by exact Nat.div_lt_self (Nat.pos_of_ne_zero h.1) (by decide)

/-- The exact value of a magnitude as a decimal. -/
def Binary.exact (b : Binary) : Decimal :=
  if 0 ≤ b.exponent then ⟨b.mantissa * Nat.pow 2 b.exponent.toNat, 0⟩
  else ⟨b.mantissa * Nat.pow 5 (-b.exponent).toNat, b.exponent⟩

/-- The shortest decimal that reads back as a positive magnitude, nearest among those
of its length, with trailing zeros removed. Seventeen significant digits always
suffice; the exact value stands behind the search so that the function is total. -/
def Binary.shortest (b : Binary) : Decimal :=
  let lead := b.leadExponent
  match (List.range 17).findSome? (fun (n : Nat) => b.onGrid (lead - (n : Int))) with
  | some d => d.trim
  | none => b.exact.trim

/-- The decimal digits of a natural, most significant first (`"0"` for zero). -/
def digitText (n : Nat) : String :=
  String.ofList (Nat.toDigits 10 n)

end Blueprint.Number
