import Blueprint.Expr.Eval

/-!
# What nodes do

A node is executed when control enters it and resumed when a sub-flow it opened runs
out of exits. A variable stores what its bound input gives, or keeps its value, and
sends that value on; with nothing to send it fails only if something reads it. A
branch leaves through one of two exits by its condition, where no value counts as
false. An expression node sends the value of its expression.

The loops open their body as a sub-flow with a state that says where they stand. A
while loop re-reads its condition before each run; a counting loop reads start, end
and step once, and adds the step after each run while the current value stays on the
start's side of the end; a loop over an array reads it once and sends its items in
turn. A break, entered through the loop's second enter port, marks the loop's own
frame on top of the stack and hands control back to it; the loop then leaves through
its exit.
-/

namespace Blueprint

namespace Flow

/-- A condition input: no value is false, and anything but a boolean fails. -/
def readCondition (g : Graph) (port : InputId) : FlowM Bool := do
  match ← input g port with
  | none => pure false
  | some (.bool b) => pure b
  | some other => throw (.typeMismatch "boolean" other.kindName)

/-- An input that must give a value; the failure names the port. -/
def readRequired (g : Graph) (port : InputId) : FlowM Value := do
  match ← input g port with
  | some v => pure v
  | none => throw (.missingInput (((g.input? port).map (·.name)).getD ""))

/-- An input that must give a number. -/
def readNumber (g : Graph) (port : InputId) : FlowM Float := do
  match ← readRequired g port with
  | .number x => pure x
  | other => throw (.typeMismatch "number" other.kindName)

/-- Whether a counting loop's current value is still on the start's side of the end:
below it for a positive step, above it otherwise. -/
def inRange (current stop step : Float) : Bool :=
  if step > 0.0 then current < stop else current > stop

/-- A break into a loop: marks the loop's frame on top of the stack and hands control
back to it; it fails when the top frame is not a loop frame of this node. -/
def breakLoop (node : NodeId) : FlowM Continuation := do
  if ← markBreak node then pure .interrupt
  else throw .breakOutsideLoop

/-- Whether a loop goes on with a state given back to it: the state must be a loop
state of this node, and it goes on unless a break was called. -/
def shouldContinue (state : FlowState) (node : NodeId) : Except Fault Bool :=
  if state.node ≠ node then throw (.foreignObject "flow state")
  else
    match state.data with
    | .looping callBreak _ => pure !callBreak
    | .plain => throw (.foreignObject "flow state")

/-- The same state with another cursor. -/
def withCursor (state : FlowState) (cursor : Cursor) : FlowState :=
  match state.data with
  | .looping callBreak _ => { state with data := .looping callBreak cursor }
  | .plain => state

end Flow

namespace Node

open Blueprint.Flow

/-- A variable node: stores what its bound input gives, or else keeps its symbol's
value, and sends the value on its read port. -/
def executeVar (g : Graph) (symbol : String) (write : InputId) (read : OutputId) (exit : ExitId) :
    FlowM Continuation := do
  let w ← FlowM.lift (g.resolveInput write)
  let written ← if w.target.isSome then input g write else pure none
  let emitted ←
    match written with
    | some v => do
      modify fun ctx => ctx.store symbol v
      pure (some v)
    | none => pure ((← get).symbols.get? symbol)
  match emitted with
  | some v => output g read v
  | none =>
    let r ← FlowM.lift (g.resolveOutput read)
    if !r.targets.isEmpty then throw (.variableEmpty symbol)
  pure (.exit exit)

/-- An expression node: sends the value of its expression on its result port. -/
def executeExpression (s : Scope) (expr : Option Expr) (inputs : List (String × InputId))
    (result : OutputId) (exit : ExitId) : FlowM Continuation := do
  if inputs.isEmpty then throw .noExpressionInputs
  match expr with
  | none => throw .missingExpression
  | some e =>
    let v ← e.evaluate s inputs
    output s.graph result v
    pure (.exit exit)

/-- A counting loop entered: reads start, end and step, refuses a zero step, and runs
the body with the start unless it is already out of range. -/
def enterFor (g : Graph) (id : NodeId) (start stop step : InputId) (index : OutputId)
    (loop : LoopPorts) : FlowM Continuation := do
  let first ← readNumber g start
  let last ← readNumber g stop
  let increment ← readNumber g step
  if increment == 0.0 then throw .zeroStep
  if !inRange first last increment then return .exit loop.exit
  output g index (.number first)
  pure (.subline loop.body (.looping id (.counter first last increment)))

/-- A loop over an array entered: reads the array and runs the body with its first item,
unless it is empty. -/
def enterForOf (g : Graph) (id : NodeId) (array : InputId) (item : OutputId) (loop : LoopPorts) :
    FlowM Continuation := do
  match ← readRequired g array with
  | .array items =>
    match items with
    | [] => pure (.exit loop.exit)
    | first :: _ =>
      output g item first
      pure (.subline loop.body (.looping id (.items items 1)))
  | other => throw (.typeMismatch "array" other.kindName)

/-- Executes a node entered through an enter port. Entry and end nodes cannot be
executed, and a loop refuses ports other than its two. -/
def execute (s : Scope) (n : Node) (enter : EnterId) : FlowM Continuation :=
  let g := s.graph
  match n.kind with
  | .var symbol write read _ exit => executeVar g symbol write read exit
  | .branch condition _ whenTrue whenFalse => do
    if ← readCondition g condition then pure (.exit whenTrue) else pure (.exit whenFalse)
  | .whileLoop condition loop =>
    if enter = loop.enter then do
      if ← readCondition g condition then
        pure (.subline loop.body (.looping n.id .condition))
      else pure (.exit loop.exit)
    else if enter = loop.breakIn then breakLoop n.id
    else throw (.invalidEnter "while")
  | .forLoop start stop step index loop =>
    if enter = loop.breakIn then breakLoop n.id
    else if enter ≠ loop.enter then throw (.invalidEnter "for")
    else enterFor g n.id start stop step index loop
  | .forOfLoop array item loop =>
    if enter = loop.breakIn then breakLoop n.id
    else if enter ≠ loop.enter then throw (.invalidEnter "for-of")
    else enterForOf g n.id array item loop
  | .expression expr inputs _ result _ exit => executeExpression s expr inputs result exit
  | .entry .. | .finish .. => throw (.invalidEnter n.name)

/-- Resumes a node with the state it left on the stack. Only loops resume: a while loop
re-reads its condition, a counting loop steps on, and a loop over an array takes its
next item; after a break each leaves through its exit. -/
def resume (s : Scope) (n : Node) (state : FlowState) : FlowM Continuation :=
  let g := s.graph
  match n.kind with
  | .whileLoop condition loop => do
    if ← FlowM.lift (shouldContinue state n.id) then
      if ← readCondition g condition then return .subline loop.body state
    pure (.exit loop.exit)
  | .forLoop _ _ _ index loop => do
    if !(← FlowM.lift (shouldContinue state n.id)) then return .exit loop.exit
    match state.data with
    | .looping _ (.counter current stop step) =>
      let next := current + step
      if inRange next stop step then
        output g index (.number next)
        pure (.subline loop.body (withCursor state (.counter next stop step)))
      else pure (.exit loop.exit)
    | _ => throw (.foreignObject "flow state")
  | .forOfLoop _ item loop => do
    if !(← FlowM.lift (shouldContinue state n.id)) then return .exit loop.exit
    match state.data with
    | .looping _ (.items items next) =>
      match items[next]? with
      | some v =>
        output g item v
        pure (.subline loop.body (withCursor state (.items items (next + 1))))
      | none => pure (.exit loop.exit)
    | _ => throw (.foreignObject "flow state")
  | _ => throw (.notResumable n.name)

/-- What a variable node offers on a read of one of its outputs; other nodes offer
nothing. -/
def onOutput (n : Node) (ctx : Context) (port : OutputId) : Option Value :=
  n.offered ctx.symbols port

/-- What a node does with a value delivered to one of its inputs. -/
def onInput (n : Node) (port : InputId) (v : Value) : FlowM Unit :=
  modify fun ctx => { ctx with symbols := n.received port v ctx.symbols }

/-- The return value at an end node: none without a return type, else the value of its
input, which must give one. -/
def returnValue (g : Graph) (n : Node) : FlowM (Option Value) :=
  match n.kind with
  | .finish _ (some port) _ => do
    match ← input g port with
    | some v => pure (some v)
    | none => throw .missingReturn
  | _ => pure none

end Node

end Blueprint
