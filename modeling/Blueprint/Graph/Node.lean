import Blueprint.Graph.Handle
import Blueprint.Expr.Basic

/-!
# Ports and nodes

A node owns four lists of ports: inputs and outputs carry data, enter and exit ports
carry control. An input is bound to at most one output and may have a default value;
an output keeps the inputs it feeds, in the order they were wired. An exit leads to at
most one enter port. A `hole` enter port breaks out of a loop, and a `subline` exit
opens a sub-flow, the body of a loop, that returns to its node when it runs out.

Each kind of node holds the handles of its own ports, and its port lists are read off
them in a fixed order. An expression node declares its inputs one at a time: it keeps the
map from its symbols to their ports and, beside it, the list of its input ports, which every
declaration extends.
-/

namespace Blueprint

/-- Whether an enter port starts the node or breaks out of its loop. -/
inductive EnterKind where
  | enter
  | hole
deriving Repr, DecidableEq

/-- Whether an exit port continues the flow or opens a sub-flow. -/
inductive ExitKind where
  | exit
  | subline
deriving Repr, DecidableEq

/-- An input port: its node, name, default value and the output it is bound to. -/
structure InputPort where
  node : NodeId
  name : String
  default : Option Value := none
  target : Option OutputId := none
deriving Repr

/-- An output port: its node, name and the inputs it feeds, in wiring order. -/
structure OutputPort where
  node : NodeId
  name : String
  targets : List InputId := []
deriving Repr

/-- An enter port: its node, name and kind. -/
structure EnterPort where
  node : NodeId
  name : String
  kind : EnterKind
deriving Repr

/-- An exit port: its node, name, kind and the enter port it leads to. -/
structure ExitPort where
  node : NodeId
  name : String
  kind : ExitKind
  target : Option EnterId := none
deriving Repr

/-- The control ports that every loop has: it is entered or broken out of, and it
leaves into its body or out of the loop. -/
structure LoopPorts where
  enter : EnterId
  breakIn : EnterId
  body : ExitId
  exit : ExitId
deriving Repr

/-- What a node is, with the handles of its ports. -/
inductive NodeKind where
  /-- the start of a function: one output per parameter -/
  | entry (params : List DataType) (args : List OutputId) (exit : ExitId)
  /-- the end of a function, with an input for the return value unless it returns
  nothing -/
  | finish (returnType : Option DataType) (input : Option InputId) (enter : EnterId)
  /-- a variable: stores what its input receives and sends the stored value -/
  | var (symbol : String) (write : InputId) (read : OutputId) (enter : EnterId) (exit : ExitId)
  /-- a branch on a boolean condition -/
  | branch (condition : InputId) (enter : EnterId) (whenTrue whenFalse : ExitId)
  /-- a loop that runs its body while a condition holds -/
  | whileLoop (condition : InputId) (loop : LoopPorts)
  /-- a loop over a range of numbers, from a start, below an end, by a step -/
  | forLoop (start stop step : InputId) (index : OutputId) (loop : LoopPorts)
  /-- a loop over the items of an array -/
  | forOfLoop (array : InputId) (item : OutputId) (loop : LoopPorts)
  /-- the value of an expression over the node's declared inputs: the symbols with their ports,
  in order of declaration, and the node's list of input ports -/
  | expression (expr : Option Expr) (inputs : List (String × InputId)) (ports : List InputId)
      (result : OutputId) (enter : EnterId) (exit : ExitId)
deriving Repr

/-- A node: its handle, its name and what it is. -/
structure Node where
  id : NodeId
  name : String
  kind : NodeKind
deriving Repr

namespace NodeKind

/-- The input ports, in order. -/
def inputs : NodeKind → List InputId
  | .entry .. => []
  | .finish _ input _ => input.toList
  | .var _ write .. => [write]
  | .branch condition .. => [condition]
  | .whileLoop condition _ => [condition]
  | .forLoop start stop step .. => [start, stop, step]
  | .forOfLoop array .. => [array]
  | .expression _ _ ports .. => ports

/-- The output ports, in order. -/
def outputs : NodeKind → List OutputId
  | .entry _ args _ => args
  | .var _ _ read .. => [read]
  | .forLoop _ _ _ index _ => [index]
  | .forOfLoop _ item _ => [item]
  | .expression _ _ _ result .. => [result]
  | _ => []

/-- The enter ports, in order. -/
def enters : NodeKind → List EnterId
  | .entry .. => []
  | .finish _ _ enter => [enter]
  | .var _ _ _ enter _ => [enter]
  | .branch _ enter .. => [enter]
  | .whileLoop _ loop | .forLoop _ _ _ _ loop | .forOfLoop _ _ loop => [loop.enter, loop.breakIn]
  | .expression _ _ _ _ enter _ => [enter]

/-- The exit ports, in order. -/
def exits : NodeKind → List ExitId
  | .entry _ _ exit => [exit]
  | .finish .. => []
  | .var _ _ _ _ exit => [exit]
  | .branch _ _ whenTrue whenFalse => [whenTrue, whenFalse]
  | .whileLoop _ loop | .forLoop _ _ _ _ loop | .forOfLoop _ _ loop => [loop.body, loop.exit]
  | .expression _ _ _ _ _ exit => [exit]

/-- The symbols of the declared inputs of an expression node, in order of declaration. -/
def expressionSymbols? : NodeKind → Option (List String)
  | .expression _ inputs .. => some (inputs.map (·.1))
  | _ => none

end NodeKind

/-- Whether a node ends its function. -/
def Node.isEnd (n : Node) : Bool :=
  match n.kind with
  | .finish .. => true
  | _ => false

end Blueprint
