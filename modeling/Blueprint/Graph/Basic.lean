import Blueprint.Graph.Node
import Blueprint.Fault

/-!
# Graphs

A graph stores its nodes and the ports of each role in arrays, in the order they were
made; a handle's serial number is its place in the array of its role, and the graph's
tag is on every handle it issues. A handle with another tag, or past the end, names
nothing in the graph. While a function runs, meeting such a handle is a failure that
names the role of the object.
-/

namespace Blueprint

/-- A graph of nodes and ports. -/
structure Graph where
  /-- the tag on every handle this graph issues -/
  tag : Nat
  name : String
  nodes : Array Node := #[]
  inputs : Array InputPort := #[]
  outputs : Array OutputPort := #[]
  enters : Array EnterPort := #[]
  exits : Array ExitPort := #[]
deriving Repr

namespace Graph

/-- A graph without nodes, with the tag it puts on its handles. -/
def empty (tag : Nat) (name : String) : Graph :=
  { tag, name }

/-- The node of a handle. -/
def node? (g : Graph) (id : NodeId) : Option Node :=
  if id.graph = g.tag then g.nodes[id.index]? else none

/-- The input port of a handle. -/
def input? (g : Graph) (id : InputId) : Option InputPort :=
  if id.graph = g.tag then g.inputs[id.index]? else none

/-- The output port of a handle. -/
def output? (g : Graph) (id : OutputId) : Option OutputPort :=
  if id.graph = g.tag then g.outputs[id.index]? else none

/-- The enter port of a handle. -/
def enter? (g : Graph) (id : EnterId) : Option EnterPort :=
  if id.graph = g.tag then g.enters[id.index]? else none

/-- The exit port of a handle. -/
def exit? (g : Graph) (id : ExitId) : Option ExitPort :=
  if id.graph = g.tag then g.exits[id.index]? else none

/-- The number of nodes. -/
def nodeCount (g : Graph) : Nat :=
  g.nodes.size

/-- The node of a handle, or the failure of a foreign node. -/
def resolveNode (g : Graph) (id : NodeId) : Except Fault Node :=
  match g.node? id with
  | some n => pure n
  | none => throw (.foreignObject "node")

/-- The input port of a handle, or the failure of a foreign port. -/
def resolveInput (g : Graph) (id : InputId) : Except Fault InputPort :=
  match g.input? id with
  | some p => pure p
  | none => throw (.foreignObject "input port")

/-- The output port of a handle, or the failure of a foreign port. -/
def resolveOutput (g : Graph) (id : OutputId) : Except Fault OutputPort :=
  match g.output? id with
  | some p => pure p
  | none => throw (.foreignObject "output port")

/-- The enter port of a handle, or the failure of a foreign port. -/
def resolveEnter (g : Graph) (id : EnterId) : Except Fault EnterPort :=
  match g.enter? id with
  | some p => pure p
  | none => throw (.foreignObject "enter port")

/-- The exit port of a handle, or the failure of a foreign port. -/
def resolveExit (g : Graph) (id : ExitId) : Except Fault ExitPort :=
  match g.exit? id with
  | some p => pure p
  | none => throw (.foreignObject "exit port")

/-- Where an output port sits: its node's serial number and its place among the node's
outputs. -/
def outputPlace? (g : Graph) (id : OutputId) : Option (Nat × Nat) := do
  let port ← g.output? id
  let n ← g.node? port.node
  let i ← n.kind.outputs.idxOf? id
  pure (port.node.index, i)

/-- Where an input port sits: its node's serial number and its place among the node's
inputs. -/
def inputPlace? (g : Graph) (id : InputId) : Option (Nat × Nat) := do
  let port ← g.input? id
  let n ← g.node? port.node
  let i ← n.kind.inputs.idxOf? id
  pure (port.node.index, i)

/-- Where an enter port sits: its node's serial number and its place among the node's
enter ports. -/
def enterPlace? (g : Graph) (id : EnterId) : Option (Nat × Nat) := do
  let port ← g.enter? id
  let n ← g.node? port.node
  let i ← n.kind.enters.idxOf? id
  pure (port.node.index, i)

/-- Where an exit port sits: its node's serial number and its place among the node's
exit ports. -/
def exitPlace? (g : Graph) (id : ExitId) : Option (Nat × Nat) := do
  let port ← g.exit? id
  let n ← g.node? port.node
  let i ← n.kind.exits.idxOf? id
  pure (port.node.index, i)

end Graph

end Blueprint
