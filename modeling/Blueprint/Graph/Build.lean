import Blueprint.Graph.Basic

/-!
# Building graphs

Nodes are added with all their ports; expression nodes gain inputs later, one per
declared symbol. Inputs are bound to outputs, exits are led to enter ports, and inputs
get default values. Binding an input that was bound elsewhere takes it off the old
output's list; binding it again to the same output changes nothing. Each operation
checks its handles in a fixed order and reports the first that names nothing.

The operations that can be refused change the graph in place (`Change`), in the order of
their steps: they look up what they need, may refuse, and write. As values they give the
changed graph or the error.
-/

namespace Blueprint

/-- Why a change to a graph was refused. -/
inductive GraphError where
  | nodeNotFound (node : NodeId)
  | inputNotFound (port : InputId)
  | outputNotFound (port : OutputId)
  | enterNotFound (port : EnterId)
  | exitNotFound (port : ExitId)
  /-- a node has no port of the asked role at the index -/
  | portIndex (node : String) (index : Nat)
  /-- an operation for one kind of node met another -/
  | wrongNodeKind (expected found : String)
  /-- an expression node already declares an input of that symbol -/
  | duplicateInput (symbol : String)
  /-- an exit that is no sub-flow was used as one -/
  | notSubline (name : String)
deriving Repr

namespace GraphError

/-- The text of a handle in messages. -/
def handleText {r : Role} (h : Handle r) : String :=
  toString h.index ++ "@" ++ toString h.graph

/-- The message of a refused change. -/
def message : GraphError → String
  | .nodeNotFound h => "Node not found: " ++ handleText h
  | .inputNotFound h => "Input port not found: " ++ handleText h
  | .outputNotFound h => "Output port not found: " ++ handleText h
  | .enterNotFound h => "Enter port not found: " ++ handleText h
  | .exitNotFound h => "Exit port not found: " ++ handleText h
  | .portIndex node index => "Node '" ++ node ++ "' has no port at index " ++ toString index
  | .wrongNodeKind expected found => "Expected a " ++ expected ++ " node, found '" ++ found ++ "'"
  | .duplicateInput symbol => "Expression input already declared: " ++ symbol
  | .notSubline name => "Exit '" ++ name ++ "' is not a subline"

end GraphError

namespace Graph

/-- Adds an input port to a node. -/
def addInput (g : Graph) (node : NodeId) (name : String) : InputId × Graph :=
  (⟨g.tag, g.inputs.size⟩, { g with inputs := g.inputs.push { node, name } })

/-- Adds an output port to a node. -/
def addOutput (g : Graph) (node : NodeId) (name : String) : OutputId × Graph :=
  (⟨g.tag, g.outputs.size⟩, { g with outputs := g.outputs.push { node, name } })

/-- Adds an enter port to a node. -/
def addEnter (g : Graph) (node : NodeId) (name : String) (kind : EnterKind) : EnterId × Graph :=
  (⟨g.tag, g.enters.size⟩, { g with enters := g.enters.push { node, name, kind } })

/-- Adds an exit port to a node. -/
def addExit (g : Graph) (node : NodeId) (name : String) (kind : ExitKind) : ExitId × Graph :=
  (⟨g.tag, g.exits.size⟩, { g with exits := g.exits.push { node, name, kind } })

/-- The handle the next node will get. -/
def nextNode (g : Graph) : NodeId :=
  ⟨g.tag, g.nodes.size⟩

/-- Adds a node under the next handle. -/
def pushNode (g : Graph) (name : String) (kind : NodeKind) : NodeId × Graph :=
  (g.nextNode, { g with nodes := g.nodes.push ⟨g.nextNode, name, kind⟩ })

/-- Adds one output per parameter, named `arg0`, `arg1` and so on. -/
def addArgs (id : NodeId) : Nat → List DataType → Graph → List OutputId × Graph
  | _, [], g => ([], g)
  | i, _ :: rest, g =>
    let (out, g) := g.addOutput id ("arg" ++ toString i)
    let (outs, g) := addArgs id (i + 1) rest g
    (out :: outs, g)

/-- Adds the entry of a function with the given parameter types. -/
def addEntry (g : Graph) (params : List DataType) : NodeId × Graph :=
  let id := g.nextNode
  let (args, g) := addArgs id 0 params g
  let (exit, g) := g.addExit id "exit" .exit
  g.pushNode "entry" (.entry params args exit)

/-- Adds the end of a function; a `void` or absent return type gives no input. -/
def addEnd (g : Graph) (returnType : Option DataType) : NodeId × Graph :=
  let returnType := returnType.filter (· != .void)
  let id := g.nextNode
  let (input, g) : Option InputId × Graph :=
    match returnType with
    | some _ => let (i, g) := g.addInput id "returnValue"; (some i, g)
    | none => (none, g)
  let (enter, g) := g.addEnter id "enter" .enter
  g.pushNode "end" (.finish returnType input enter)

/-- Adds a variable node on a symbol. -/
def addVar (g : Graph) (symbol : String) : NodeId × Graph :=
  let id := g.nextNode
  let (write, g) := g.addInput id "write"
  let (read, g) := g.addOutput id "read"
  let (enter, g) := g.addEnter id "enter" .enter
  let (exit, g) := g.addExit id "exit" .exit
  g.pushNode "var" (.var symbol write read enter exit)

/-- Adds a branch node. -/
def addIf (g : Graph) : NodeId × Graph :=
  let id := g.nextNode
  let (condition, g) := g.addInput id "condition"
  let (enter, g) := g.addEnter id "enter" .enter
  let (whenTrue, g) := g.addExit id "whenTrue" .exit
  let (whenFalse, g) := g.addExit id "whenFalse" .exit
  g.pushNode "if" (.branch condition enter whenTrue whenFalse)

/-- Adds the control ports of a loop. -/
def addLoopPorts (g : Graph) (id : NodeId) : LoopPorts × Graph :=
  let (enter, g) := g.addEnter id "enter" .enter
  let (breakIn, g) := g.addEnter id "break" .hole
  let (body, g) := g.addExit id "body" .subline
  let (exit, g) := g.addExit id "exit" .exit
  (⟨enter, breakIn, body, exit⟩, g)

/-- Adds a loop that runs while a condition holds. -/
def addWhile (g : Graph) : NodeId × Graph :=
  let id := g.nextNode
  let (condition, g) := g.addInput id "condition"
  let (loop, g) := g.addLoopPorts id
  g.pushNode "while" (.whileLoop condition loop)

/-- Adds a loop over a range of numbers. -/
def addFor (g : Graph) : NodeId × Graph :=
  let id := g.nextNode
  let (start, g) := g.addInput id "start"
  let (stop, g) := g.addInput id "end"
  let (step, g) := g.addInput id "step"
  let (index, g) := g.addOutput id "index"
  let (loop, g) := g.addLoopPorts id
  g.pushNode "for" (.forLoop start stop step index loop)

/-- Adds a loop over the items of an array. -/
def addForOf (g : Graph) : NodeId × Graph :=
  let id := g.nextNode
  let (array, g) := g.addInput id "array"
  let (item, g) := g.addOutput id "item"
  let (loop, g) := g.addLoopPorts id
  g.pushNode "forOf" (.forOfLoop array item loop)

/-- Adds an expression node without inputs or expression. -/
def addExpression (g : Graph) : NodeId × Graph :=
  let id := g.nextNode
  let (result, g) := g.addOutput id "result"
  let (enter, g) := g.addEnter id "enter" .enter
  let (exit, g) := g.addExit id "exit" .exit
  g.pushNode "expression" (.expression none [] [] result enter exit)

/-- Replaces the node of a handle, which must be a node of the graph. -/
def setNode (g : Graph) (id : NodeId) (n : Node) : Graph :=
  { g with nodes := g.nodes.modify id.index fun _ => n }

/-- A change made to a graph in place. It answers a value or is refused with an error, and
either way the graph stays as the change left it: what a change writes before it is refused
stays written. -/
abbrev Change (α : Type) := EStateM GraphError Graph α

namespace Change

/-- What a look-up finds in the graph, refused with the given error when it finds nothing.
The graph is only read. -/
def find {β : Type} (lookup : Graph → Option β) (missing : GraphError) : Change β := do
  match lookup (← get) with
  | some b => pure b
  | none => throw missing

/-- Declares an input of an expression node under a symbol: the node is looked up, must be an
expression node and must not declare the symbol yet; then the graph gains the port, and the
node's symbols and input ports gain it last. -/
def declareInput (id : NodeId) (symbol : String) : Change InputId := do
  let n ← find (·.node? id) (.nodeNotFound id)
  let .expression expr inputs ports result enter exit := n.kind
    | throw (.wrongNodeKind "expression" n.name)
  if inputs.any (·.1 == symbol) then throw (.duplicateInput symbol)
  let port ← modifyGet (·.addInput id symbol)
  modify (·.setNode id
    { n with kind := .expression expr (inputs ++ [(symbol, port)]) (ports ++ [port]) result enter exit })
  pure port

/-- Gives an expression node its expression. -/
def setExpression (id : NodeId) (e : Expr) : Change Unit := do
  let n ← find (·.node? id) (.nodeNotFound id)
  match n.kind with
  | .expression _ inputs ports result enter exit =>
    modify (·.setNode id { n with kind := .expression (some e) inputs ports result enter exit })
  | _ => throw (.wrongNodeKind "expression" n.name)

/-- Binds an input to an output, which is checked first. The input leaves the list of the
output it was bound to before and joins the end of the new one's list, unless it was bound to
that output already. -/
def attach (input : InputId) (output : OutputId) : Change Unit := do
  let _ ← find (·.output? output) (.outputNotFound output)
  let port ← find (·.input? input) (.inputNotFound input)
  if port.target = some output then pure ()
  else
    modify fun g => { g with inputs := g.inputs.modify input.index fun p =>
      { p with target := some output } }
    if let some previous := port.target then
      modify fun g => { g with outputs := g.outputs.modify previous.index fun o =>
        { o with targets := o.targets.filter (· != input) } }
    modify fun g => { g with outputs := g.outputs.modify output.index fun o =>
      { o with targets := o.targets ++ [input] } }

/-- Leads an exit to an enter port, which is checked first. -/
def connect (exit : ExitId) (enter : EnterId) : Change Unit := do
  let _ ← find (·.enter? enter) (.enterNotFound enter)
  let _ ← find (·.exit? exit) (.exitNotFound exit)
  modify fun g => { g with exits := g.exits.modify exit.index fun p => { p with target := some enter } }

/-- Leads a sub-flow exit to an enter port; an exit of another kind is refused. -/
def connectSubline (exit : ExitId) (enter : EnterId) : Change Unit := do
  let port ← find (·.exit? exit) (.exitNotFound exit)
  if port.kind != .subline then throw (.notSubline port.name)
  connect exit enter

/-- Gives an input a default value. -/
def setDefault (input : InputId) (v : Value) : Change Unit := do
  let _ ← find (·.input? input) (.inputNotFound input)
  modify fun g => { g with inputs := g.inputs.modify input.index fun p => { p with default := some v } }

/-- The port at an index among a node's ports of one role. The graph is only read. -/
def nodePort {α : Type} (id : NodeId) (index : Nat) (ports : NodeKind → List α) : Change α := do
  let n ← find (·.node? id) (.nodeNotFound id)
  match (ports n.kind)[index]? with
  | some p => pure p
  | none => throw (.portIndex n.name index)

/-- Binds the input at an index of one node to the output at an index of another; the
output's node is looked up first. -/
def attachNodes (source : NodeId) (outputIndex : Nat) (target : NodeId) (inputIndex : Nat) :
    Change Unit := do
  let output ← nodePort source outputIndex NodeKind.outputs
  let input ← nodePort target inputIndex NodeKind.inputs
  attach input output

/-- Leads the exit at an index of one node to the enter port at an index of another; the
exit's node is looked up first. -/
def connectNodes (source : NodeId) (exitIndex : Nat) (target : NodeId) (enterIndex : Nat) :
    Change Unit := do
  let exit ← nodePort source exitIndex NodeKind.exits
  let enter ← nodePort target enterIndex NodeKind.enters
  connect exit enter

/-- Runs a change on a graph: what it answers with the graph it leaves, or the error that
refused it. -/
def result {α : Type} (c : Change α) (g : Graph) : Except GraphError (α × Graph) :=
  match c.run g with
  | .ok a g' => .ok (a, g')
  | .error e _ => .error e

end Change

/-! The operations on a graph as values: each runs its change and gives the changed graph, or
the error that refused the change. -/

/-- Declares an input of an expression node under a symbol. -/
def addExpressionInput (g : Graph) (id : NodeId) (symbol : String) :
    Except GraphError (InputId × Graph) :=
  (Change.declareInput id symbol).result g

/-- Gives an expression node its expression. -/
def setExpression (g : Graph) (id : NodeId) (e : Expr) : Except GraphError Graph :=
  (·.2) <$> (Change.setExpression id e).result g

/-- Binds an input to an output. -/
def attach (g : Graph) (input : InputId) (output : OutputId) : Except GraphError Graph :=
  (·.2) <$> (Change.attach input output).result g

/-- Leads an exit to an enter port. -/
def connect (g : Graph) (exit : ExitId) (enter : EnterId) : Except GraphError Graph :=
  (·.2) <$> (Change.connect exit enter).result g

/-- Leads a sub-flow exit to an enter port. -/
def connectSubline (g : Graph) (exit : ExitId) (enter : EnterId) : Except GraphError Graph :=
  (·.2) <$> (Change.connectSubline exit enter).result g

/-- Gives an input a default value. -/
def setDefault (g : Graph) (input : InputId) (v : Value) : Except GraphError Graph :=
  (·.2) <$> (Change.setDefault input v).result g

/-- The port at an index among a node's ports of one role. -/
def nodePort {α : Type} (g : Graph) (id : NodeId) (index : Nat) (ports : NodeKind → List α) :
    Except GraphError α :=
  (·.1) <$> (Change.nodePort id index ports).result g

/-- Binds the input at an index of one node to the output at an index of another. -/
def attachNodes (g : Graph) (source : NodeId) (outputIndex : Nat) (target : NodeId)
    (inputIndex : Nat) : Except GraphError Graph :=
  (·.2) <$> (Change.attachNodes source outputIndex target inputIndex).result g

/-- Leads the exit at an index of one node to the enter port at an index of another. -/
def connectNodes (g : Graph) (source : NodeId) (exitIndex : Nat) (target : NodeId)
    (enterIndex : Nat) : Except GraphError Graph :=
  (·.2) <$> (Change.connectNodes source exitIndex target enterIndex).result g

end Graph

end Blueprint
