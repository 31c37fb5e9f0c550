import Blueprint.Graph.Build

/-!
# Changes made in place

The operations that can be refused change the graph in place (`Graph.Change`). Each looks up
what it needs and checks it before it writes anything, so a refused change leaves the graph as
it found it (`KeepsOnError`). That is proved here for each of them from its steps in order: a
change that wrote before one of its checks would fail it.

Each change has one run lemma that states the answer and the graph it leaves as a case split
on the graph's look-ups; the proofs about edits cite these lemmas and never unfold a change.
The operations as values give what their change gives (`map_snd_result_eq_ok`).
-/

namespace Blueprint

namespace Graph

namespace Change

variable {α β : Type} {g g' : Graph}

/-! ## Running a change -/

@[simp] theorem run_throw (e : GraphError) (g : Graph) : (throw e : Change α).run g = .error e g :=
  rfl

@[simp] theorem run_find (lookup : Graph → Option β) (missing : GraphError) (g : Graph) :
    (find lookup missing).run g = match lookup g with
      | some b => .ok b g
      | none => .error missing g := by
  simp only [find, EStateM.run_bind, EStateM.run_get]
  cases lookup g <;> rfl

theorem result_eq_ok {c : Change α} {a : α} : c.result g = .ok (a, g') ↔ c.run g = .ok a g' := by
  unfold result
  split <;> simp_all

theorem result_eq_error {c : Change α} {e : GraphError} :
    c.result g = .error e ↔ ∃ g', c.run g = .error e g' := by
  unfold result
  split <;> simp_all

/-- An operation as a value gives the graph its change leaves, or the error that refused it. -/
theorem map_snd_result (c : Change α) (g : Graph) :
    (·.2) <$> c.result g = match c.run g with
      | .ok _ g' => .ok g'
      | .error e _ => .error e := by
  unfold result
  cases c.run g <;> rfl

theorem map_snd_result_eq_ok {c : Change α} :
    (·.2) <$> c.result g = .ok g' ↔ ∃ a, c.run g = .ok a g' := by
  unfold result
  split <;> simp_all [Functor.map, Except.map]

/-! ## What each change does -/

theorem run_declareInput (id : NodeId) (symbol : String) (g : Graph) :
    (declareInput id symbol).run g = match g.node? id with
      | none => .error (.nodeNotFound id) g
      | some n =>
        match n.kind with
        | .expression expr inputs ports result enter exit =>
          if inputs.any (·.1 == symbol) then .error (.duplicateInput symbol) g
          else
            let (port, g) := g.addInput id symbol
            let kind := NodeKind.expression expr (inputs ++ [(symbol, port)]) (ports ++ [port])
              result enter exit
            .ok port (g.setNode id { n with kind })
        | _ => .error (.wrongNodeKind "expression" n.name) g := by
  simp only [declareInput, EStateM.run_bind, run_find]
  cases g.node? id with
  | none => rfl
  | some n =>
    dsimp only
    cases n.kind with
    | expression expr inputs ports result enter exit =>
      dsimp only
      split <;> rfl
    | _ => rfl

theorem run_setExpression (id : NodeId) (e : Expr) (g : Graph) :
    (setExpression id e).run g = match g.node? id with
      | none => .error (.nodeNotFound id) g
      | some n =>
        match n.kind with
        | .expression _ inputs ports result enter exit =>
          .ok () (g.setNode id { n with kind := .expression (some e) inputs ports result enter exit })
        | _ => .error (.wrongNodeKind "expression" n.name) g := by
  simp only [setExpression, EStateM.run_bind, run_find]
  cases g.node? id with
  | none => rfl
  | some n =>
    dsimp only
    cases n.kind <;> rfl

theorem run_attach (input : InputId) (output : OutputId) (g : Graph) :
    (attach input output).run g = match g.output? output, g.input? input with
      | none, _ => .error (.outputNotFound output) g
      | some _, none => .error (.inputNotFound input) g
      | some _, some port =>
        if port.target = some output then .ok () g
        else
          let g := { g with inputs := g.inputs.modify input.index fun p =>
            { p with target := some output } }
          let g := match port.target with
            | some previous => { g with outputs := g.outputs.modify previous.index fun o =>
                { o with targets := o.targets.filter (· != input) } }
            | none => g
          .ok () { g with outputs := g.outputs.modify output.index fun o =>
            { o with targets := o.targets ++ [input] } } := by
  simp only [attach, EStateM.run_bind, run_find]
  cases g.output? output with
  | none => rfl
  | some q =>
    dsimp only
    cases g.input? input with
    | none => rfl
    | some port =>
      dsimp only
      split
      · rfl
      · cases port.target <;> rfl

theorem run_connect (exit : ExitId) (enter : EnterId) (g : Graph) :
    (connect exit enter).run g = match g.enter? enter, g.exit? exit with
      | none, _ => .error (.enterNotFound enter) g
      | some _, none => .error (.exitNotFound exit) g
      | some _, some _ =>
        .ok () { g with exits := g.exits.modify exit.index fun p => { p with target := some enter } } := by
  simp only [connect, EStateM.run_bind, run_find]
  cases g.enter? enter with
  | none => rfl
  | some q =>
    dsimp only
    cases g.exit? exit <;> rfl

theorem run_connectSubline (exit : ExitId) (enter : EnterId) (g : Graph) :
    (connectSubline exit enter).run g = match g.exit? exit with
      | none => .error (.exitNotFound exit) g
      | some port =>
        if port.kind != .subline then .error (.notSubline port.name) g
        else (connect exit enter).run g := by
  simp only [connectSubline, EStateM.run_bind, run_find]
  cases g.exit? exit with
  | none => rfl
  | some port =>
    dsimp only
    split <;> rfl

theorem run_setDefault (input : InputId) (v : Value) (g : Graph) :
    (setDefault input v).run g = match g.input? input with
      | none => .error (.inputNotFound input) g
      | some _ => .ok () { g with inputs := g.inputs.modify input.index fun p =>
          { p with default := some v } } := by
  simp only [setDefault, EStateM.run_bind, run_find]
  cases g.input? input <;> rfl

/-- Looking up a node's port only reads the graph: the change answers what the value form
answers and leaves the graph as it was. -/
theorem run_nodePort (id : NodeId) (index : Nat) (ports : NodeKind → List α) (g : Graph) :
    (nodePort id index ports).run g = match g.nodePort id index ports with
      | .ok p => .ok p g
      | .error e => .error e g := by
  simp only [Graph.nodePort, result, nodePort, EStateM.run_bind, run_find]
  cases g.node? id with
  | none => rfl
  | some n =>
    dsimp only
    cases (ports n.kind)[index]? <;> rfl

theorem run_attachNodes (source : NodeId) (outputIndex : Nat) (target : NodeId)
    (inputIndex : Nat) (g : Graph) :
    (attachNodes source outputIndex target inputIndex).run g =
      match g.nodePort source outputIndex NodeKind.outputs,
        g.nodePort target inputIndex NodeKind.inputs with
      | .error e, _ => .error e g
      | .ok _, .error e => .error e g
      | .ok output, .ok input => (attach input output).run g := by
  simp only [attachNodes, EStateM.run_bind, run_nodePort]
  cases g.nodePort source outputIndex NodeKind.outputs with
  | error e => rfl
  | ok output =>
    dsimp only
    cases g.nodePort target inputIndex NodeKind.inputs <;> rfl

theorem run_connectNodes (source : NodeId) (exitIndex : Nat) (target : NodeId)
    (enterIndex : Nat) (g : Graph) :
    (connectNodes source exitIndex target enterIndex).run g =
      match g.nodePort source exitIndex NodeKind.exits,
        g.nodePort target enterIndex NodeKind.enters with
      | .error e, _ => .error e g
      | .ok _, .error e => .error e g
      | .ok exit, .ok enter => (connect exit enter).run g := by
  simp only [connectNodes, EStateM.run_bind, run_nodePort]
  cases g.nodePort source exitIndex NodeKind.exits with
  | error e => rfl
  | ok exit =>
    dsimp only
    cases g.nodePort target enterIndex NodeKind.enters <;> rfl

/-! ## Refused changes write nothing -/

/-- A change that leaves the graph as it found it whenever it is refused. -/
def KeepsOnError (c : Change α) : Prop :=
  ∀ {g e g'}, c.run g = .error e g' → g' = g

theorem keepsOnError_declareInput (id : NodeId) (symbol : String) :
    KeepsOnError (declareInput id symbol) := by
  intro g e g' failed
  rw [run_declareInput] at failed
  split at failed
  · cases failed
    rfl
  · split at failed
    · split at failed
      · cases failed
        rfl
      · cases failed
    · cases failed
      rfl

theorem keepsOnError_setExpression (id : NodeId) (e : Expr) : KeepsOnError (setExpression id e) := by
  intro g err g' failed
  rw [run_setExpression] at failed
  split at failed
  · cases failed
    rfl
  · split at failed
    · cases failed
    · cases failed
      rfl

theorem keepsOnError_attach (input : InputId) (output : OutputId) :
    KeepsOnError (attach input output) := by
  intro g e g' failed
  rw [run_attach] at failed
  split at failed
  · cases failed
    rfl
  · cases failed
    rfl
  · split at failed <;> cases failed

theorem keepsOnError_connect (exit : ExitId) (enter : EnterId) : KeepsOnError (connect exit enter) := by
  intro g e g' failed
  rw [run_connect] at failed
  split at failed
  · cases failed
    rfl
  · cases failed
    rfl
  · cases failed

theorem keepsOnError_connectSubline (exit : ExitId) (enter : EnterId) :
    KeepsOnError (connectSubline exit enter) := by
  intro g e g' failed
  rw [run_connectSubline] at failed
  split at failed
  · cases failed
    rfl
  · split at failed
    · cases failed
      rfl
    · exact keepsOnError_connect exit enter failed

theorem keepsOnError_setDefault (input : InputId) (v : Value) :
    KeepsOnError (setDefault input v) := by
  intro g e g' failed
  rw [run_setDefault] at failed
  split at failed
  · cases failed
    rfl
  · cases failed

/-- Binding ports picked by index is refused only by its look-ups, which read, or by the
binding itself. -/
theorem keepsOnError_attachNodes (source : NodeId) (outputIndex : Nat) (target : NodeId)
    (inputIndex : Nat) : KeepsOnError (attachNodes source outputIndex target inputIndex) := by
  intro g e g' failed
  rw [run_attachNodes] at failed
  split at failed
  · cases failed
    rfl
  · cases failed
    rfl
  · exact keepsOnError_attach _ _ failed

theorem keepsOnError_connectNodes (source : NodeId) (exitIndex : Nat) (target : NodeId)
    (enterIndex : Nat) : KeepsOnError (connectNodes source exitIndex target enterIndex) := by
  intro g e g' failed
  rw [run_connectNodes] at failed
  split at failed
  · cases failed
    rfl
  · cases failed
    rfl
  · exact keepsOnError_connect _ _ failed

end Change

/-! ## The operations that combine others, as values -/

/-- Leading a sub-flow exit checks the exit's kind, then leads it as any exit is led. -/
theorem connectSubline_eq (g : Graph) (exit : ExitId) (enter : EnterId) :
    g.connectSubline exit enter = match g.exit? exit with
      | none => throw (.exitNotFound exit)
      | some port =>
        if port.kind != .subline then throw (.notSubline port.name) else g.connect exit enter := by
  rw [connectSubline, Change.map_snd_result, Change.run_connectSubline]
  cases g.exit? exit with
  | none => rfl
  | some port =>
    dsimp only
    by_cases other : (port.kind != .subline) = true
    · rw [if_pos other, if_pos other]
      rfl
    · rw [if_neg other, if_neg other, connect, Change.map_snd_result]

/-- Binding ports picked by index looks up the output, then the input, then binds them. -/
theorem attachNodes_eq (g : Graph) (source : NodeId) (outputIndex : Nat) (target : NodeId)
    (inputIndex : Nat) :
    g.attachNodes source outputIndex target inputIndex = (do
      let output ← g.nodePort source outputIndex NodeKind.outputs
      let input ← g.nodePort target inputIndex NodeKind.inputs
      g.attach input output) := by
  rw [attachNodes, Change.map_snd_result, Change.run_attachNodes]
  cases g.nodePort source outputIndex NodeKind.outputs with
  | error e => rfl
  | ok output =>
    cases g.nodePort target inputIndex NodeKind.inputs with
    | error e => rfl
    | ok input => simp only [attach, Change.map_snd_result, bind, Except.bind]

/-- Leading ports picked by index looks up the exit, then the enter port, then leads one to
the other. -/
theorem connectNodes_eq (g : Graph) (source : NodeId) (exitIndex : Nat) (target : NodeId)
    (enterIndex : Nat) :
    g.connectNodes source exitIndex target enterIndex = (do
      let exit ← g.nodePort source exitIndex NodeKind.exits
      let enter ← g.nodePort target enterIndex NodeKind.enters
      g.connect exit enter) := by
  rw [connectNodes, Change.map_snd_result, Change.run_connectNodes]
  cases g.nodePort source exitIndex NodeKind.exits with
  | error e => rfl
  | ok exit =>
    cases g.nodePort target enterIndex NodeKind.enters with
    | error e => rfl
    | ok enter => simp only [connect, Change.map_snd_result, bind, Except.bind]

end Graph

end Blueprint
