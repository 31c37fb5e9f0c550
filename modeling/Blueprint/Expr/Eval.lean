import Blueprint.Flow.Context

/-!
# Evaluating expressions

An expression is evaluated against the declared inputs of its node. An input symbol
the node does not declare fails, and so does a declared input that gives no value. An
operator without an operand fails before anything is read; otherwise the operands are
evaluated left to right and the operator applied. A call evaluates its arguments in
order and then calls the builtin function. Reading inputs may log values that
variables offer, and nothing else in the context changes.
-/

namespace Blueprint

namespace Expr

/-- The port declared under a symbol. -/
def lookupInput (inputs : List (String × InputId)) (symbol : String) : Option InputId :=
  (inputs.find? (·.1 == symbol)).map (·.2)

mutual

/-- The value of an expression over the declared inputs of its node. -/
def evaluate (s : Scope) (inputs : List (String × InputId)) : Expr → FlowM Value
  | .const v => pure v
  | .input symbol =>
    match lookupInput inputs symbol with
    | none => throw (.unknownInput symbol)
    | some port => do
      match ← Flow.input s.graph port with
      | some v => pure v
      | none => throw (.missingInput symbol)
  | .unary op operand =>
    match operand with
    | none => throw (.missingOperand "unary")
    | some e => do
      let v ← evaluate s inputs e
      FlowM.lift (op.apply v)
  | .binary op left right =>
    match left, right with
    | some l, some r => do
      let a ← evaluate s inputs l
      let b ← evaluate s inputs r
      FlowM.lift (op.apply a b)
    | _, _ => throw (.missingOperand "binary")
  | .call symbol args => do
    let vs ← evaluateAll s inputs args
    FlowM.lift (s.builtins.call symbol vs)

/-- The values of expressions, evaluated in order. -/
def evaluateAll (s : Scope) (inputs : List (String × InputId)) : List Expr → FlowM (List Value)
  | [] => pure []
  | e :: rest => do
    let v ← evaluate s inputs e
    let vs ← evaluateAll s inputs rest
    pure (v :: vs)

end

end Expr

end Blueprint
