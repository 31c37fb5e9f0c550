import Blueprint.Fault
import Blueprint.Number.FromText
import Blueprint.Number.Word

/-!
# Operators

The unary and binary operators of expressions and what they do to evaluated operands.
Arithmetic and comparison take two numbers and follow the doubles; integer division
truncates the quotient and the remainder keeps the sign of the dividend. Text
comparison orders by code point. The logical operators take two booleans, and the
bitwise ones see their numbers as signed 32-bit words. Concatenation joins the texts
of any two values, and equality compares any two. An operand of the wrong kind is
reported with the operator's symbol and the kind found: the right operand's when the
left one is of the kind the operator needs, the left one's otherwise.
-/

namespace Blueprint

/-- A unary operator. -/
inductive UnaryOp where
  | logicalNot
  | bitNot
  | negate
  | toText
  | toNumber
  | toInteger
  | toBoolean
deriving Repr, DecidableEq, Inhabited

/-- A binary operator. -/
inductive BinaryOp where
  | equal
  | notEqual
  | add
  | subtract
  | multiply
  | divide
  | intDivide
  | modulus
  | power
  | lessThan
  | lessEqual
  | greaterThan
  | greaterEqual
  | concat
  | textLessThan
  | textLessEqual
  | textGreaterThan
  | textGreaterEqual
  | logicalAnd
  | logicalOr
  | bitAnd
  | bitOr
  | bitXor
deriving Repr, DecidableEq, Inhabited

namespace UnaryOp

/-- The symbol of a unary operator in messages. -/
def symbol : UnaryOp → String
  | .logicalNot => "not"
  | .bitNot => "~"
  | .negate => "neg"
  | .toText => "text"
  | .toNumber => "number"
  | .toInteger => "integer"
  | .toBoolean => "boolean"

/-- The failure of applying an operator to a value of the wrong kind. -/
def unsupported (op : UnaryOp) (v : Value) : Fault :=
  .unsupportedOperand op.symbol v.kindName

/-- The number a value converts to: numbers stay, `true` is one and `false` zero, and
text is read as a number. -/
def numberOf (op : UnaryOp) : Value → Except Fault Float
  | .number x => pure x
  | .bool b => pure (if b then 1.0 else 0.0)
  | .text s => pure (Number.ofText s)
  | v => throw (op.unsupported v)

/-- Applies a unary operator to its evaluated operand. -/
def apply (op : UnaryOp) (v : Value) : Except Fault Value :=
  match op, v with
  | .logicalNot, .bool b => pure (.bool !b)
  | .bitNot, .number x => pure (.number (Number.ofWord (~~~(Number.toWord x))))
  | .negate, .number x => pure (.number (-x))
  | .toText, v => pure (.text v.render)
  | .toNumber, v => return .number (← UnaryOp.toNumber.numberOf v)
  | .toInteger, v => return .number (Number.trunc (← UnaryOp.toInteger.numberOf v))
  | .toBoolean, v => pure (.bool v.truthy)
  | op, v => throw (op.unsupported v)

end UnaryOp

namespace BinaryOp

/-- The symbol of a binary operator in messages; the text comparisons share theirs
with the number comparisons. -/
def symbol : BinaryOp → String
  | .equal => "=="
  | .notEqual => "!="
  | .add => "+"
  | .subtract => "-"
  | .multiply => "*"
  | .divide => "/"
  | .intDivide => "//"
  | .modulus => "%"
  | .power => "**"
  | .lessThan | .textLessThan => "<"
  | .lessEqual | .textLessEqual => "<="
  | .greaterThan | .textGreaterThan => ">"
  | .greaterEqual | .textGreaterEqual => ">="
  | .concat => ".."
  | .logicalAnd => "and"
  | .logicalOr => "or"
  | .bitAnd => "&"
  | .bitOr => "|"
  | .bitXor => "^"

/-- The failure of applying an operator to an operand of the wrong kind. -/
def unsupported (op : BinaryOp) (v : Value) : Fault :=
  .unsupportedOperand op.symbol v.kindName

/-- Two number operands. -/
def numbers (op : BinaryOp) : Value → Value → Except Fault (Float × Float)
  | .number l, .number r => pure (l, r)
  | .number _, other => throw (op.unsupported other)
  | other, _ => throw (op.unsupported other)

/-- Two text operands. -/
def texts (op : BinaryOp) : Value → Value → Except Fault (String × String)
  | .text l, .text r => pure (l, r)
  | .text _, other => throw (op.unsupported other)
  | other, _ => throw (op.unsupported other)

/-- Two boolean operands. -/
def booleans (op : BinaryOp) : Value → Value → Except Fault (Bool × Bool)
  | .bool l, .bool r => pure (l, r)
  | .bool _, other => throw (op.unsupported other)
  | other, _ => throw (op.unsupported other)

/-- The arithmetic of an operator on two numbers. -/
def arithmetic : BinaryOp → Float → Float → Float
  | .add, l, r => l + r
  | .subtract, l, r => l - r
  | .multiply, l, r => l * r
  | .divide, l, r => l / r
  | .intDivide, l, r => Number.trunc (l / r)
  | .modulus, l, r => Number.rem l r
  | .power, l, r => Float.pow l r
  | .bitAnd, l, r => Number.ofWord (Number.toWord l &&& Number.toWord r)
  | .bitOr, l, r => Number.ofWord (Number.toWord l ||| Number.toWord r)
  | _, l, r => Number.ofWord (Number.toWord l ^^^ Number.toWord r)

/-- Applies a binary operator to its evaluated operands. -/
def apply (op : BinaryOp) (left right : Value) : Except Fault Value :=
  match op with
  | .equal => pure (.bool (left.beq right))
  | .notEqual => pure (.bool !(left.beq right))
  | .add | .subtract | .multiply | .divide | .intDivide | .modulus | .power
  | .bitAnd | .bitOr | .bitXor => do
    let (l, r) ← op.numbers left right
    pure (.number (op.arithmetic l r))
  | .lessThan => do let (l, r) ← op.numbers left right; pure (.bool (l < r))
  | .lessEqual => do let (l, r) ← op.numbers left right; pure (.bool (l ≤ r))
  | .greaterThan => do let (l, r) ← op.numbers left right; pure (.bool (l > r))
  | .greaterEqual => do let (l, r) ← op.numbers left right; pure (.bool (l ≥ r))
  | .concat => pure (.text (left.render ++ right.render))
  | .textLessThan => do let (l, r) ← op.texts left right; pure (.bool (decide (l < r)))
  | .textLessEqual => do let (l, r) ← op.texts left right; pure (.bool (decide (l ≤ r)))
  | .textGreaterThan => do let (l, r) ← op.texts left right; pure (.bool (decide (l > r)))
  | .textGreaterEqual => do let (l, r) ← op.texts left right; pure (.bool (decide (l ≥ r)))
  | .logicalAnd => do let (l, r) ← op.booleans left right; pure (.bool (l && r))
  | .logicalOr => do let (l, r) ← op.booleans left right; pure (.bool (l || r))

end BinaryOp

end Blueprint
