import Blueprint.Graph.Handle
import Blueprint.Value.Basic

/-!
# Flow states

A node that opens a sub-flow, the body of a loop, leaves a state on the flow stack and
gets it back when the sub-flow runs out of exits. A loop's state says whether a break
was called and where the loop stands: a while loop only re-reads its condition, a
counting loop keeps its current value, end and step, and a loop over an array keeps
the items and the place of the next one. A state can be killed, so that unwinding
passes over it.
-/

namespace Blueprint

/-- Where a loop stands between two runs of its body. -/
inductive Cursor where
  | condition
  | counter (current stop step : Float)
  | items (items : List Value) (next : Nat)
deriving Repr, Inhabited

/-- What a state holds besides its node. -/
inductive StateData where
  | plain
  | looping (callBreak : Bool) (cursor : Cursor)
deriving Repr, Inhabited

/-- The state a node leaves on the flow stack. -/
structure FlowState where
  node : NodeId
  alive : Bool := true
  data : StateData := .plain
deriving Repr, Inhabited

namespace FlowState

/-- A live state without loop data. -/
def plain (node : NodeId) : FlowState :=
  { node }

/-- A live loop state at a cursor, with no break called. -/
def looping (node : NodeId) (cursor : Cursor) : FlowState :=
  { node, data := .looping false cursor }

end FlowState

/-- A frame of the flow stack: the node that opened the sub-flow and its state. -/
structure Frame where
  node : NodeId
  state : FlowState
deriving Repr, Inhabited

/-- What a node hands back to the run after it has done its work: leave through an
exit, open a sub-flow through an exit with the state to resume, or give control back
to the node that opened the current sub-flow. -/
inductive Continuation where
  | exit (port : ExitId)
  | subline (port : ExitId) (state : FlowState)
  | interrupt
deriving Repr, Inhabited

end Blueprint
