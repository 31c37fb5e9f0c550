import Blueprint.Flow.State
import Blueprint.Graph.Basic
import Blueprint.Builtin
import Blueprint.OrderedMap

/-!
# The execution context

Nodes keep no state of their own: all that a run changes is in its context. The flow
stack holds the frames of open sub-flows, the port log holds the last value each
output sent, and the symbol table holds the variables. Reading an input asks the node
that owns its output first, which lets a variable offer its current value; only
then are the output's last value and the input's default consulted. Sending a value on
an output logs it and delivers it to the bound inputs in wiring order, where variables
store it.

Operations run in `FlowM`, which keeps the context as it was when a failure arose, so
that a failure can report the state it happened in.
-/

namespace Blueprint

/-- What a run reads but never changes: the graph and the builtin functions. -/
structure Scope where
  graph : Graph
  builtins : Registry

/-- What a run changes. The stack lists its innermost frame first. -/
structure Context where
  stack : List Frame := []
  ports : OrderedMap OutputId Value := .empty
  symbols : OrderedMap String Value := .empty
deriving Inhabited

/-- Computations over a context that may fail; a failure keeps the context it happened
in. -/
abbrev FlowM := ExceptT Fault (StateM Context)

namespace FlowM

/-- A result or failure that does not touch the context. -/
def lift {α : Type} : Except Fault α → FlowM α
  | .ok a => pure a
  | .error e => throw e

end FlowM

/-- A fresh context whose symbol table holds the given locals. -/
def Context.start (locals : OrderedMap String Value) : Context :=
  { symbols := locals }

namespace Node

/-- The value a node offers when one of its outputs is read: a variable offers its
symbol's value on its read port. -/
def offered (n : Node) (symbols : OrderedMap String Value) (port : OutputId) : Option Value :=
  match n.kind with
  | .var symbol _ read _ _ => if port = read then symbols.get? symbol else none
  | _ => none

/-- What a node does with a value delivered to one of its inputs: a variable stores a
value delivered to its write port. -/
def received (n : Node) (port : InputId) (v : Value) (symbols : OrderedMap String Value) :
    OrderedMap String Value :=
  match n.kind with
  | .var symbol write _ _ _ => if port = write then symbols.insert symbol v else symbols
  | _ => symbols

end Node

namespace Context

/-- Logs a value as the last one an output sent. -/
def logPort (ctx : Context) (port : OutputId) (v : Value) : Context :=
  { ctx with ports := ctx.ports.insert port v }

/-- Stores a value in a symbol. -/
def store (ctx : Context) (symbol : String) (v : Value) : Context :=
  { ctx with symbols := ctx.symbols.insert symbol v }

/-- The state on top of the stack, if that frame was opened by the node. -/
def peekState? (ctx : Context) (node : NodeId) : Option FlowState :=
  match ctx.stack with
  | f :: _ => if f.node = node then some f.state else none
  | [] => none

/-- The frames with every state killed. -/
def killFrames (ctx : Context) : Context :=
  { ctx with stack := ctx.stack.map fun f => { f with state := { f.state with alive := false } } }

end Context

namespace Flow

/-- The value of an input: an unbound input gives its default, or fails without one;
a bound input gives what its output's node offers, which is then logged, or else the
output's last value, or else the default. -/
def input (g : Graph) (port : InputId) : FlowM (Option Value) := do
  let p ← FlowM.lift (g.resolveInput port)
  match p.target with
  | none =>
    match p.default with
    | some v => pure (some v)
    | none => throw (.unboundInput p.name)
  | some source =>
    let o ← FlowM.lift (g.resolveOutput source)
    let owner ← FlowM.lift (g.resolveNode o.node)
    let ctx ← get
    match owner.offered ctx.symbols source with
    | some v =>
      set (ctx.logPort source v)
      pure (some v)
    | none => pure ((ctx.ports.get? source).orElse fun _ => p.default)

/-- Delivers a value to inputs one after another. -/
def deliver (g : Graph) (v : Value) : List InputId → FlowM Unit
  | [] => pure ()
  | target :: rest => do
    let p ← FlowM.lift (g.resolveInput target)
    let n ← FlowM.lift (g.resolveNode p.node)
    modify fun ctx => { ctx with symbols := n.received target v ctx.symbols }
    deliver g v rest

/-- Sends a value on an output: logs it, then delivers it to the bound inputs in
wiring order. -/
def output (g : Graph) (port : OutputId) (v : Value) : FlowM Unit := do
  let o ← FlowM.lift (g.resolveOutput port)
  modify fun ctx => ctx.logPort port v
  deliver g v o.targets

/-- Pushes a frame. -/
def push (node : NodeId) (state : FlowState) : FlowM Unit :=
  modify fun ctx => { ctx with stack := ⟨node, state⟩ :: ctx.stack }

/-- Pops the top frame; an empty stack fails. -/
def pop : FlowM Frame := do
  let ctx ← get
  match ctx.stack with
  | f :: rest =>
    set { ctx with stack := rest }
    pure f
  | [] => throw .emptyStack

/-- Sets the break flag of the loop state on top of the stack, if the node opened that
frame; answers whether it did. -/
def markBreak (node : NodeId) : FlowM Bool := do
  let ctx ← get
  match ctx.stack with
  | f :: rest =>
    if f.node = node then
      match f.state.data with
      | .looping _ cursor =>
        set { ctx with stack := { f with state := { f.state with data := .looping true cursor } } :: rest }
        pure true
      | .plain => pure false
    else pure false
  | [] => pure false

end Flow

/-- A frame as a failure reports it, with the name of its node. -/
structure FrameView where
  node : NodeId
  name : String
  state : FlowState
deriving Repr

/-- A failed run: the failure and the context it happened in, with the stack listed
from its outermost frame. -/
structure Failure where
  stack : List FrameView
  ports : OrderedMap OutputId Value
  symbols : OrderedMap String Value
  fault : Fault

/-- The message of a failed run. -/
def Failure.message (f : Failure) : String :=
  "blueprint execution failed: " ++ f.fault.message

/-- The failure of a context; a frame whose node is not in the graph has an empty
name. -/
def Context.failure (ctx : Context) (g : Graph) (fault : Fault) : Failure :=
  { stack := ctx.stack.reverse.map fun f =>
      ⟨f.node, ((g.node? f.node).map (·.name)).getD "", f.state⟩
    ports := ctx.ports
    symbols := ctx.symbols
    fault }

end Blueprint
