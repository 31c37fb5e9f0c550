import Blueprint.Expr.Operator

/-!
# Expressions

The expression trees that expression nodes evaluate: constants, named inputs of the
node, operators applied to operands, and calls of builtin functions. An operator may
lack an operand; that is only found out when the expression is evaluated.
-/

namespace Blueprint

/-- An expression tree. -/
inductive Expr where
  | const (value : Value)
  /-- the value of the node's input declared under this symbol -/
  | input (symbol : String)
  | unary (op : UnaryOp) (operand : Option Expr)
  | binary (op : BinaryOp) (left right : Option Expr)
  | call (symbol : String) (args : List Expr)
deriving Repr, Inhabited

end Blueprint
