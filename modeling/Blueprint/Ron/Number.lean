import Blueprint.Number.Literal
import Blueprint.Ron.Lexeme

/-!
# Numbers in RON text

An integer is an optional sign, an optional base prefix `0b`, `0o` or `0x`, and digits of
the base, with low lines between them but not first; a width suffix from `i8` to `u64`
bounds it to that type, and without one it must fit 64 bits, signed when negative. A byte
literal `b'a'` is an integer too. A decimal is a run of digits, points, exponent marks,
signs and low lines that reads as a decimal once the low lines are gone, where a low line
may only follow a digit, an exponent mark or another low line that does; a suffix `f32`
or `f64` may follow it, and the words `inf` and `NaN`, signed or not, are decimals as well.

Which of the two a number is, the characters decide: a number whose decimal characters
run further than its integer characters is a decimal. Otherwise it is read as an
integer, and where that fails, a decimal reading that gets at least as far stands in its
place, so that integers too large for 64 bits still read as decimals. This is the decision
of the `ron` library, version 0.9, which these readers follow.
-/

namespace Blueprint.Ron

/-- Whether a character may stand among an integer's digits: a hexadecimal digit or a low
line. -/
def isIntegerChar (c : Char) : Bool :=
  (Number.digitValue? 16 c).isSome || c = '_'

/-- Whether a character may stand in a decimal: a digit, an exponent mark, a point, a sign
or a low line. -/
def isDecimalChar (c : Char) : Bool :=
  c.isDigit || c = 'e' || c = 'E' || c = '.' || c = '+' || c = '-' || c = '_'

/-- Whether a number reads as a decimal: after its sign, its decimal characters run
further than its integer characters. -/
def looksDecimal (cs : List Char) : Bool :=
  let body := match cs with
    | c :: rest => if c = '+' || c = '-' then rest else cs
    | [] => []
  (body.takeWhile isIntegerChar).length < (body.takeWhile isDecimalChar).length

/-- The words of the infinite and undefined decimals, with their signs. -/
def specialDecimals : List String :=
  ["inf", "+inf", "-inf", "NaN", "+NaN", "-NaN"]

/-- Skips an infinite or undefined decimal: one of its words, alone or with the width
suffix `f32` or `f64`. -/
def skipSpecialDecimal? (cs : List Char) : Option (List Char) :=
  specialDecimals.findSome? fun w =>
    word? w cs <|>
      if opens w cs then word? "f32" (cs.drop w.length) <|> word? "f64" (cs.drop w.length)
      else none

/-- A decimal's characters without their low lines. A low line may stand only after a
digit or an exponent mark, or after another low line that may; `allowed` says whether
one may stand next. -/
def dropLowLines? : Bool → List Char → Option (List Char)
  | _, [] => some []
  | allowed, c :: rest =>
    if c = '_' then if allowed then dropLowLines? allowed rest else none
    else
      let next := if c.isDigit || c = 'e' || c = 'E' then true else c != '.' && allowed
      (c :: ·) <$> dropLowLines? next rest

/-- Whether characters read as a decimal: an optional sign, digits with at most one
point, at least one digit, and an optional exponent. -/
def isDecimal (cs : List Char) : Bool :=
  (Number.Literal.ofChars? (Number.splitSign cs).2).isSome

/-- Skips a decimal: a special word, or a run of decimal characters that reads as a
decimal once its low lines are gone, with an optional width suffix. -/
def skipDecimal? (cs : List Char) : Option (List Char) :=
  match skipSpecialDecimal? cs with
  | some rest => some rest
  | none =>
    let run := cs.takeWhile isDecimalChar
    let after := cs.dropWhile isDecimalChar
    if run.isEmpty || run.head? == some '_' then none
    else do
      let digits ← dropLowLines? false run
      if isDecimal digits then some ((word? "f32" after <|> word? "f64" after).getD after)
      else none

/-- The integer width suffixes, each with the least and the greatest value it allows. -/
def integerSuffixes : List (String × Int × Int) :=
  [("i8", -Int.pow 2 7, Int.pow 2 7 - 1), ("i16", -Int.pow 2 15, Int.pow 2 15 - 1),
   ("i32", -Int.pow 2 31, Int.pow 2 31 - 1), ("i64", -Int.pow 2 63, Int.pow 2 63 - 1),
   ("u8", 0, Int.pow 2 8 - 1), ("u16", 0, Int.pow 2 16 - 1),
   ("u32", 0, Int.pow 2 32 - 1), ("u64", 0, Int.pow 2 64 - 1)]

/-- The base that an integer's prefix selects, with the prefix's width. -/
def basePrefix : List Char → Nat × Nat
  | '0' :: 'b' :: _ => (2, 2)
  | '0' :: 'o' :: _ => (8, 2)
  | '0' :: 'x' :: _ => (16, 2)
  | _ => (10, 0)

/-- Reads digits in a base, skipping low lines, while the magnitude stays at most
`limit`. Answers the magnitude, or the offset at which reading stops: that of the first
digit outside the base, or the end `width` of the digits once the magnitude passes the
limit, which is noticed before the next digit is looked at. -/
def digitsValue (base limit width : Nat) : Nat → Nat → List Char → Except Nat Nat
  | acc, _, [] => .ok acc
  | acc, i, c :: rest =>
    if c = '_' then digitsValue base limit width acc (i + 1) rest
    else if limit < acc * base then .error width
    else
      let d := (Number.digitValue? 16 c).getD 16
      if base ≤ d then .error i
      else if limit < acc * base + d then .error width
      else digitsValue base limit width (acc * base + d) (i + 1) rest

/-- Reads an integer after its sign, with the magnitude at most `limit`: a base prefix,
and digits of which the first is no low line. Answers the rest, or the offset from the
start at which reading stops. -/
def integerBody (limit : Nat) (body : List Char) : Except Nat (List Char) :=
  let (base, prefixWidth) := basePrefix body
  let afterPrefix := body.drop prefixWidth
  let digits := afterPrefix.takeWhile isIntegerChar
  if digits.isEmpty || digits.head? == some '_' then .error prefixWidth
  else
    match digitsValue base limit digits.length 0 0 digits with
    | .ok _ => .ok (afterPrefix.drop digits.length)
    | .error stop => .error (prefixWidth + stop)

/-- How reading an integer ends. -/
inductive IntegerEnd where
  /-- The integer was read, and this text follows it. -/
  | read (rest : List Char)
  /-- Reading stopped at this offset, where a decimal that reads as far may stand. -/
  | stopped (offset : Nat)
  /-- A fault that no decimal reading repairs. -/
  | failed

/-- Reads an integer: a byte literal, or a signed integer with an optional width suffix
whose range its value must fit. Without a suffix the magnitude of a negative integer is
at most `2^63`, and that of another below `2^64`. -/
def skipInteger (cs : List Char) : IntegerEnd :=
  match cs with
  | 'b' :: '\'' :: rest =>
    match skipByte rest with
    | some rest => .read rest
    | none => .failed
  | _ =>
    let (negative, body) := Number.splitSign cs
    let afterDigits := body.dropWhile isIntegerChar
    let suffix := integerSuffixes.findSome? fun (name, least, greatest) =>
      (word? name afterDigits).map fun rest => (least, greatest, rest)
    match suffix with
    | some (least, greatest, rest) =>
      let limit := if negative then (-least).toNat else greatest.toNat
      match integerBody limit body with
      | .ok _ => .read rest
      | .error _ => .failed
    | none =>
      match integerBody (if negative then Nat.pow 2 63 else Nat.pow 2 64 - 1) body with
      | .ok rest => .read rest
      | .error stop => .stopped (cs.length - body.length + stop)

/-- Skips a number, integer or decimal. -/
def skipNumber? (cs : List Char) : Option (List Char) :=
  if looksDecimal cs then skipDecimal? cs
  else
    match skipInteger cs with
    | .read rest => some rest
    | .failed => none
    | .stopped offset =>
      match skipDecimal? cs with
      | some rest => if offset ≤ cs.length - rest.length then some rest else none
      | none => none

end Blueprint.Ron
