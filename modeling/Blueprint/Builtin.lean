import Blueprint.Fault
import Blueprint.Number.Binary
import Blueprint.Text.Search

/-!
# Builtin functions

A registry maps symbols to functions of a fixed arity, in the order they were
registered; registering a symbol again replaces its function in place. A call checks
that the symbol is known, then the number of arguments, and only then runs the
function, which checks the kinds of its arguments in order.

The standard registry holds `PI`, `abs`, `min`, `max`, `indexOf`, `slice`, `split` and
`length`. Text positions count characters.
-/

namespace Blueprint

/-- A function callable from expressions, with the number of arguments it takes. -/
structure Builtin where
  arity : Nat
  run : List Value → Except Fault Value

/-- Functions by symbol, in registration order. -/
structure Registry where
  entries : List (String × Builtin)

namespace Registry

/-- The registry without functions. -/
def empty : Registry := ⟨[]⟩

/-- Registers a function under a symbol, in the place of an earlier one of that
symbol, or else last. -/
def register (r : Registry) (symbol : String) (b : Builtin) : Registry :=
  if r.entries.any (·.1 == symbol) then
    ⟨r.entries.map fun e => if e.1 == symbol then (symbol, b) else e⟩
  else ⟨r.entries ++ [(symbol, b)]⟩

/-- The function registered under a symbol. -/
def get? (r : Registry) (symbol : String) : Option Builtin :=
  (r.entries.find? (·.1 == symbol)).map (·.2)

/-- The symbols with their arities, in registration order. -/
def symbols (r : Registry) : List (String × Nat) :=
  r.entries.map fun e => (e.1, e.2.arity)

/-- Calls a function: an unknown symbol fails first, then a wrong number of
arguments. -/
def call (r : Registry) (symbol : String) (args : List Value) : Except Fault Value :=
  match r.get? symbol with
  | none => throw (.unknownFunction symbol)
  | some b =>
    if args.length ≠ b.arity then throw (.arity symbol b.arity args.length)
    else b.run args

end Registry

namespace Builtin

/-- The number at an argument position. -/
def numberArg (args : List Value) (index : Nat) : Except Fault Float :=
  match args[index]? with
  | some (.number x) => pure x
  | some other => throw (.typeMismatch "number" other.kindName)
  | none => throw (.missingInput ("argument " ++ toString index))

/-- The text at an argument position. -/
def textArg (args : List Value) (index : Nat) : Except Fault String :=
  match args[index]? with
  | some (.text s) => pure s
  | some other => throw (.typeMismatch "text" other.kindName)
  | none => throw (.missingInput ("argument " ++ toString index))

/-- The smaller of two numbers, a NaN giving way to the other; of two equal ones, such
as the two zeros, the second. -/
def minimum (a b : Float) : Float :=
  if a.isNaN then b else if b.isNaN then a else if a < b then a else b

/-- The larger of two numbers, a NaN giving way to the other; of two equal ones, such
as the two zeros, the second. -/
def maximum (a b : Float) : Float :=
  if a.isNaN then b else if b.isNaN then a else if b < a then a else b

/-- A position argument of `slice` in a text of `length` characters: NaN is zero, a
fraction is truncated, a negative position counts from the end, and the result is
clamped to the text. The sum and the clamps are taken on integers, where they are exact;
on doubles they give the same position in every text shorter than `2^53` characters. -/
def clampPosition (length : Nat) (x : Float) : Nat :=
  match Number.shape x with
  | .nan => 0
  | .infinite negative => if negative then 0 else length
  | .finite _ _ =>
    match Number.truncInt? x with
    | some n => if n < 0 then (length + n).toNat else min n.toNat length
    | none => 0

/-- The number `π`. -/
def pi : Builtin :=
  ⟨0, fun _ => pure (.number 3.141592653589793)⟩

/-- The magnitude of a number. -/
def abs : Builtin :=
  ⟨1, fun args => return .number (← numberArg args 0).abs⟩

/-- The smaller of two numbers. -/
def min : Builtin :=
  ⟨2, fun args => do
    let a ← numberArg args 0
    let b ← numberArg args 1
    pure (.number (minimum a b))⟩

/-- The larger of two numbers. -/
def max : Builtin :=
  ⟨2, fun args => do
    let a ← numberArg args 0
    let b ← numberArg args 1
    pure (.number (maximum a b))⟩

/-- The character position of the first occurrence of a text in another, `-1` when
there is none. The search runs on the UTF-8 bytes and finds the byte offset of the first
match; the characters that the bytes before it hold are its position. -/
def indexOf : Builtin :=
  ⟨2, fun args => do
    let haystack ← textArg args 0
    let needle ← textArg args 1
    let bytes := Text.utf8 haystack.toList
    pure (.number <| match Text.findFirst? (Text.utf8 needle.toList) bytes with
      | some byte => (Text.charCount (bytes.take byte)).toFloat
      | none => -1.0)⟩

/-- The characters of a text from a start position up to an end position. -/
def slice : Builtin :=
  ⟨3, fun args => do
    let cs := (← textArg args 0).toList
    let start := clampPosition cs.length (← numberArg args 1)
    let stop := clampPosition cs.length (← numberArg args 2)
    pure (.text (if start < stop then String.ofList ((cs.drop start).take (stop - start)) else ""))⟩

/-- The pieces of a text between the occurrences of a separator. -/
def split : Builtin :=
  ⟨2, fun args => do
    let source ← textArg args 0
    let separator ← textArg args 1
    pure (.array ((Text.splitOn separator.toList source.toList).map fun p => .text (String.ofList p)))⟩

/-- The number of characters of a text or items of an array. -/
def length : Builtin :=
  ⟨1, fun args =>
    match args.head? with
    | some (.text s) => pure (.number s.length.toFloat)
    | some (.array items) => pure (.number items.length.toFloat)
    | some other => throw (.typeMismatch "text or array" other.kindName)
    | none => throw (.missingInput "argument 0")⟩

end Builtin

/-- The standard registry. -/
def Registry.standard : Registry :=
  Registry.empty
    |>.register "PI" Builtin.pi
    |>.register "abs" Builtin.abs
    |>.register "min" Builtin.min
    |>.register "max" Builtin.max
    |>.register "indexOf" Builtin.indexOf
    |>.register "slice" Builtin.slice
    |>.register "split" Builtin.split
    |>.register "length" Builtin.length

end Blueprint
