import Blueprint.Value.Render

/-!
# Failures of a run

The causes for which evaluating an expression or running a function stops, each with
its message and its broad category. Messages name the port, symbol, operator or node
concerned, so that a failure can be traced back to the part of the graph that caused
it.
-/

namespace Blueprint

/-- The broad class of a failure. -/
inductive Category where
  /-- a value or binding that should exist does not -/
  | reference
  /-- a graph object or argument of the wrong kind -/
  | type
  /-- the control flow of the graph is broken -/
  | controlFlow
  /-- an expression cannot be evaluated -/
  | evaluation
deriving Repr, DecidableEq, Inhabited

/-- Why a run or an evaluation stopped. -/
inductive Fault where
  /-- an input port is bound to no output and has no default -/
  | unboundInput (port : String)
  /-- a variable with wired readers has no value to send them -/
  | variableEmpty (symbol : String)
  /-- an end node was reached before its return value was given -/
  | missingReturn
  /-- a required input gave no value -/
  | missingInput (name : String)
  /-- an expression names an input its node does not declare -/
  | unknownInput (symbol : String)
  /-- an operator expression lacks an operand; `form` is `unary` or `binary` -/
  | missingOperand (form : String)
  /-- an expression node runs without an expression -/
  | missingExpression
  /-- the flow stack was popped while empty -/
  | emptyStack
  /-- a handle from another graph, or of the wrong kind, was met -/
  | foreignObject (what : String)
  /-- a function was invoked with the wrong number of arguments -/
  | argumentCount (expected actual : Nat)
  /-- an argument is rejected by its parameter's type -/
  | argumentType (index : Nat) (expected : DataType) (found : String)
  /-- a port value is of the wrong kind -/
  | typeMismatch (expected found : String)
  /-- the main flow left the graph without reaching an end node -/
  | flowInterrupted
  /-- a break fired while its loop is not the active sub-flow -/
  | breakOutsideLoop
  /-- a node was entered through a port it does not own -/
  | invalidEnter (node : String)
  /-- a node that never opens a sub-flow was asked to resume one -/
  | notResumable (node : String)
  /-- an expression node declares no inputs -/
  | noExpressionInputs
  /-- an operator was applied to operands it does not support -/
  | unsupportedOperand (operator found : String)
  /-- a call names no registered function -/
  | unknownFunction (symbol : String)
  /-- a function was called with the wrong number of arguments -/
  | arity (symbol : String) (expected actual : Nat)
  /-- a counting loop has a zero step -/
  | zeroStep
deriving Repr, Inhabited

namespace Fault

/-- The category of a failure. -/
def category : Fault → Category
  | .unboundInput _ | .variableEmpty _ | .missingReturn | .missingInput _
  | .unknownInput _ | .missingOperand _ | .missingExpression | .emptyStack => .reference
  | .foreignObject _ | .argumentCount _ _ | .argumentType _ _ _ | .typeMismatch _ _ => .type
  | .flowInterrupted | .breakOutsideLoop | .invalidEnter _ | .notResumable _
  | .noExpressionInputs => .controlFlow
  | .unsupportedOperand _ _ | .unknownFunction _ | .arity _ _ _ | .zeroStep => .evaluation

/-- The message of a failure. -/
def message : Fault → String
  | .unboundInput port =>
    "input port '" ++ port ++ "' is not bound to any output and has no default value"
  | .variableEmpty symbol => "variable '" ++ symbol ++ "' has no value to emit"
  | .missingReturn => "function exited before giving its return value"
  | .missingInput name => "input '" ++ name ++ "' produced no value"
  | .unknownInput symbol => "expression node has no input named '" ++ symbol ++ "'"
  | .missingOperand form => form ++ " expression is missing an operand"
  | .missingExpression => "expression node has no expression"
  | .emptyStack => "flow stack is empty"
  | .foreignObject what => "blueprint contains a " ++ what ++ " not produced by this interpreter"
  | .argumentCount expected actual =>
    "expected " ++ toString expected ++ " arguments, got " ++ toString actual
  | .argumentType index expected found =>
    "argument " ++ toString index ++ " is not a valid " ++ expected.render ++ " (got " ++ found ++ ")"
  | .typeMismatch expected found => "expected a " ++ expected ++ " value, got " ++ found
  | .flowInterrupted => "the main flow of the function was interrupted"
  | .breakOutsideLoop => "break issued outside of its loop"
  | .invalidEnter node => "node '" ++ node ++ "' entered through an invalid port"
  | .notResumable node => "node '" ++ node ++ "' cannot resume a sub-flow"
  | .noExpressionInputs => "expression node has no inputs"
  | .unsupportedOperand operator found =>
    "operator '" ++ operator ++ "' does not support " ++ found ++ " operands"
  | .unknownFunction symbol => "unknown function '" ++ symbol ++ "'"
  | .arity symbol expected actual =>
    "function '" ++ symbol ++ "' expects " ++ toString expected ++ " arguments, got " ++ toString actual
  | .zeroStep => "for loop step must not be zero"

end Fault

end Blueprint
