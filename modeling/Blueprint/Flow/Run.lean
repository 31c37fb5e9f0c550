import Blueprint.Flow.Node
import Blueprint.Settings.Basic

/-!
# Running a function

A function is a graph, its entry node and the initial values of its local variables.
To call it, the arguments are counted against the entry's parameters, checked against
their types if the settings ask for it, and sent on the entry's outputs in order; then
control follows the entry's exit.

The run is a machine of small steps. Control either arrives at an enter port, or a
node has just handed back a continuation. Arriving at an end node finishes the run with
its return value, whatever the depth of the stack. A sub-flow exit that leads somewhere
pushes the node's state and follows it; one that leads nowhere resumes the node at
once. An exit that leads nowhere, or a hand-back, resumes the nearest live frame of
the stack, and with none left the main flow was interrupted. Breaking out through a
hole with an empty stack fails.

Each step costs one unit of fuel; a run out of fuel says so and is no result.
-/

namespace Blueprint

/-- A function defined by a graph. -/
structure FlowFunction where
  symbol : String
  graph : Graph
  entry : NodeId
  locals : OrderedMap String Value := .empty

/-- The same function with one more local variable; a symbol given again keeps its
place and takes the new value. -/
def FlowFunction.withLocal (f : FlowFunction) (symbol : String) (v : Value) : FlowFunction :=
  { f with locals := f.locals.insert symbol v }

/-- Where control is between two steps. -/
inductive Control where
  /-- control arrives at an enter port -/
  | arrive (port : EnterId)
  /-- a node has handed back a continuation -/
  | handBack (node : Node) (next : Continuation)

/-- What a step leads to. -/
inductive Step where
  | finished (value : Option Value)
  | next (c : Control)

namespace Flow

/-- Pops frames until a live one comes off; the main flow is interrupted when none is
left. -/
def unwind : FlowM Frame := do
  let ctx ← get
  match ctx.stack.dropWhile (fun f => !f.state.alive) with
  | f :: rest =>
    set { ctx with stack := rest }
    pure f
  | [] =>
    set { ctx with stack := [] }
    throw .flowInterrupted

/-- Resumes the node of the nearest live frame. -/
def resumeParent (s : Scope) : FlowM Step := do
  let f ← unwind
  let n ← FlowM.lift (s.graph.resolveNode f.node)
  let c ← n.resume s f.state
  pure (.next (.handBack n c))

/-- Passes control to an enter port; a break through a hole needs a frame to break. -/
def transfer (s : Scope) (target : EnterId) : FlowM Step := do
  let port ← FlowM.lift (s.graph.resolveEnter target)
  if port.kind = .hole ∧ (← get).stack.isEmpty then throw .breakOutsideLoop
  pure (.next (.arrive target))

/-- One step of a run. -/
def step (s : Scope) : Control → FlowM Step
  | .arrive port => do
    let p ← FlowM.lift (s.graph.resolveEnter port)
    let n ← FlowM.lift (s.graph.resolveNode p.node)
    if n.isEnd then
      let v ← n.returnValue s.graph
      modify fun ctx => { ctx.killFrames with stack := [] }
      pure (.finished v)
    else
      let c ← n.execute s port
      pure (.next (.handBack n c))
  | .handBack n (.subline port state) => do
    let x ← FlowM.lift (s.graph.resolveExit port)
    match x.target with
    | some target =>
      push n.id state
      pure (.next (.arrive target))
    | none =>
      let c ← n.resume s state
      pure (.next (.handBack n c))
  | .handBack _ (.exit port) => do
    let x ← FlowM.lift (s.graph.resolveExit port)
    match x.target with
    | some target => transfer s target
    | none => resumeParent s
  | .handBack _ .interrupt => resumeParent s

/-- Runs steps until the run finishes or the fuel is spent; `none` when it is spent. -/
def runFrom (s : Scope) : Nat → Control → FlowM (Option (Option Value))
  | 0, _ => pure none
  | fuel + 1, c => do
    match ← step s c with
    | .finished v => pure (some v)
    | .next c' => runFrom s fuel c'

/-- Checks arguments against parameter types in order; the first rejected one fails
with its position. -/
def checkArguments : Nat → List DataType → List Value → Except Fault Unit
  | index, t :: ts, v :: vs =>
    if t.accepts v then checkArguments (index + 1) ts vs
    else throw (.argumentType index t v.kindName)
  | _, _, _ => pure ()

/-- Sends arguments on the entry's outputs in order. -/
def sendArguments (g : Graph) : List OutputId → List Value → FlowM Unit
  | port :: ports, v :: vs => do
    output g port v
    sendArguments g ports vs
  | _, _ => pure ()

/-- Prepares a call: the entry must be an entry node of the graph, the arguments as many as
its parameters, and, if `validate` is set, of their types; they are sent on the entry's
outputs, and the answer is where control goes first. -/
def prepare (s : Scope) (validate : Bool) (f : FlowFunction) (args : List Value) :
    FlowM EnterId := do
  let n ← FlowM.lift (s.graph.resolveNode f.entry)
  match n.kind with
  | .entry params outs exit =>
    if args.length ≠ outs.length then throw (.argumentCount outs.length args.length)
    if validate then FlowM.lift (checkArguments 0 params args)
    sendArguments s.graph outs args
    let x ← FlowM.lift (s.graph.resolveExit exit)
    match x.target with
    | some first => pure first
    | none => throw .flowInterrupted
  | _ => throw (.foreignObject "entry node")

/-- Calls a function on arguments: prepares the call, then runs from where control goes
first. -/
def invoke (s : Scope) (validate : Bool) (f : FlowFunction) (args : List Value) (fuel : Nat) :
    FlowM (Option (Option Value)) := do
  let first ← prepare s validate f args
  runFrom s fuel (.arrive first)

end Flow

/-- How a call of a function ends. -/
inductive Outcome where
  /-- the run reached an end node, with its return value -/
  | returned (value : Option Value)
  /-- the run failed -/
  | failed (failure : Failure)
  /-- the run did not end within its fuel -/
  | exhausted

/-- An interpreter: settings and the builtin functions expressions may call. -/
structure Interpreter where
  settings : Settings := {}
  builtins : Registry := .standard

namespace Interpreter

/-- The interpreter with default settings and the standard builtins. -/
def standard : Interpreter := {}

/-- Calls a function with a fresh context, within the given number of steps. -/
def executeWithin (i : Interpreter) (fuel : Nat) (f : FlowFunction) (args : List Value) :
    Outcome :=
  let s : Scope := ⟨f.graph, i.builtins⟩
  match (Flow.invoke s i.settings.validateArguments f args fuel).run.run (Context.start f.locals) with
  | (.ok (some v), _) => .returned v
  | (.ok none, _) => .exhausted
  | (.error e, ctx) => .failed (ctx.failure f.graph e)

/-- The number of steps a call may take: more than any call that ends can take in practice,
so that running out of them stands for a call that never ends. -/
def stepBudget : Nat := Nat.pow 2 62

/-- Calls a function with a fresh context. -/
def execute (i : Interpreter) (f : FlowFunction) (args : List Value) : Outcome :=
  i.executeWithin stepBudget f args

end Interpreter

end Blueprint
