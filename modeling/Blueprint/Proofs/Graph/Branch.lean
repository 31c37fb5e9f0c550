import Blueprint.Proofs.Graph.Construction

/-!
# A branch behind a loop body

A loop whose body exit leads nowhere resumes at once; wired to a branch node that leads nowhere,
it runs that branch as its body instead. This module makes the second graph from the first with
the builder's own edits, `Graph.withBranch`: a branch whose condition input has a Boolean
default, and the body exit led to its enter port. It then says what the result is
(`Graph.BranchBehind`): every node and port of the first graph is there, unchanged except for
where the body exit leads (`Graph.Extends`), and the branch's node and ports are the next
handles of their roles, with nothing bound to its condition and nothing wired to its exits.
-/

namespace Blueprint

namespace Graph

/-- Every node and port of `g` is one of `g'`, unchanged, except for where the exit `body`
leads. -/
structure Extends (g g' : Graph) (body : ExitId) : Prop where
  node : ∀ {h : NodeId} {n : Node}, g.node? h = some n → g'.node? h = some n
  input : ∀ {h : InputId} {p : InputPort}, g.input? h = some p → g'.input? h = some p
  output : ∀ {h : OutputId} {q : OutputPort}, g.output? h = some q → g'.output? h = some q
  enter : ∀ {h : EnterId} {p : EnterPort}, g.enter? h = some p → g'.enter? h = some p
  exit : ∀ {h : ExitId} {x : ExitPort}, g.exit? h = some x → h ≠ body → g'.exit? h = some x

/-- The branch node that adding a branch to `g` makes: the next node, with the next input, the
next enter port and the next two exits. -/
def nextBranch (g : Graph) : Node :=
  ⟨g.nextNode, "if", .branch ⟨g.tag, g.inputs.size⟩ ⟨g.tag, g.enters.size⟩ ⟨g.tag, g.exits.size⟩
    ⟨g.tag, g.exits.size + 1⟩⟩

/-- `g` with a branch node added whose condition input defaults to `b`, and the exit `body` led
to the branch's enter port when it is a sub-flow exit. -/
def withBranch (g : Graph) (body : ExitId) (b : Bool) : Graph :=
  [Edit.addIf, .setDefault ⟨g.tag, g.inputs.size⟩ (.bool b),
    .connectSubline body ⟨g.tag, g.enters.size⟩].foldl (fun g e => e.apply g) g

theorem build_append_branch (tag : Nat) (name : String) (edits : List Edit) (body : ExitId)
    (b : Bool) :
    build tag name (edits ++ [.addIf,
      .setDefault ⟨(build tag name edits).tag, (build tag name edits).inputs.size⟩ (.bool b),
      .connectSubline body ⟨(build tag name edits).tag, (build tag name edits).enters.size⟩]) =
      (build tag name edits).withBranch body b := by
  rw [build, List.foldl_append]
  rfl

/-- What a graph with a branch added behind the exit `body` is to the graph without it. -/
structure BranchBehind (g g' : Graph) (body : ExitId) (b : Bool) : Prop where
  old : g.Extends g' body
  fresh : g.node? g.nextNode = none
  node : g'.node? g.nextNode = some g.nextBranch
  condition : g'.input? ⟨g.tag, g.inputs.size⟩ =
    some { node := g.nextNode, name := "condition", default := some (.bool b) }
  enter : g'.enter? ⟨g.tag, g.enters.size⟩ =
    some { node := g.nextNode, name := "enter", kind := .enter }
  whenTrue : g'.exit? ⟨g.tag, g.exits.size⟩ =
    some { node := g.nextNode, name := "whenTrue", kind := .exit }
  whenFalse : g'.exit? ⟨g.tag, g.exits.size + 1⟩ =
    some { node := g.nextNode, name := "whenFalse", kind := .exit }
  body : ∀ {x : ExitPort}, g.exit? body = some x →
    g'.exit? body = some x ∨ g'.exit? body = some { x with target := some ⟨g.tag, g.enters.size⟩ }

section Branch

variable (g : Graph)

theorem addIf_eq : g.addIf.2 = { g with
    nodes := g.nodes.push g.nextBranch
    inputs := g.inputs.push { node := g.nextNode, name := "condition" }
    enters := g.enters.push { node := g.nextNode, name := "enter", kind := .enter }
    exits := (g.exits.push { node := g.nextNode, name := "whenTrue", kind := .exit }).push
      { node := g.nextNode, name := "whenFalse", kind := .exit } } := by
  simp [addIf, addInput, addEnter, addExit, pushNode, nextBranch, nextNode]

/-- A handle past the end of an array names nothing in it. -/
theorem pick_size {r : Role} {α : Type} (tag : Nat) (xs : Array α) :
    (⟨tag, xs.size⟩ : Handle r).pick tag xs = none := by
  simp [Handle.pick]

/-- Leading an exit to an enter port as a sub-flow either is refused, leaving the graph as it
was, or leads that exit there and changes nothing else. -/
theorem connectSubline_apply (exit : ExitId) (enter : EnterId) :
    (Edit.connectSubline exit enter).apply g = g ∨ ∃ p, g.exit? exit = some p ∧
      p.kind = .subline ∧ (Edit.connectSubline exit enter).apply g =
        { g with exits := g.exits.modify exit.index fun p => { p with target := some enter } } := by
  simp only [Edit.apply, Edit.change, Change.run_connectSubline, Change.run_connect]
  cases g.exit? exit with
  | none => exact .inl rfl
  | some p =>
    by_cases subline : p.kind = .subline
    · have led : (p.kind != .subline) = false := by simp [subline]
      simp only [led, Bool.false_eq_true, if_false]
      cases g.enter? enter with
      | none => exact .inl rfl
      | some q => exact .inr ⟨p, rfl, subline, rfl⟩
    · have refused : (p.kind != .subline) = true := by simp [subline]
      simp only [refused, if_true, true_or]
/-- `g` with the branch added and its condition's default set, before the body exit is led to
it. -/
def branchAdded (g : Graph) (b : Bool) : Graph :=
  (Edit.setDefault ⟨g.tag, g.inputs.size⟩ (.bool b)).apply g.addIf.2

theorem withBranch_eq (body : ExitId) (b : Bool) :
    g.withBranch body b = (Edit.connectSubline body ⟨g.tag, g.enters.size⟩).apply (g.branchAdded b) :=
  rfl

variable (b : Bool)

theorem branchAdded_eq : g.branchAdded b = { g.addIf.2 with
    inputs := g.addIf.2.inputs.modify g.inputs.size fun p => { p with default := some (.bool b) } } := by
  have found : g.addIf.2.input? ⟨g.tag, g.inputs.size⟩ =
      some { node := g.nextNode, name := "condition" } := by
    rw [addIf_eq, input?_eq_pick, Handle.pick_push, if_pos ⟨rfl, rfl⟩]
  simp only [branchAdded, Edit.apply, Edit.change, Change.run_setDefault, found]

theorem node?_branchAdded (h : NodeId) : (g.branchAdded b).node? h =
    if h.graph = g.tag ∧ h.index = g.nodes.size then some g.nextBranch else g.node? h := by
  rw [branchAdded_eq, node?_eq_pick, node?_eq_pick, addIf_eq]
  exact Handle.pick_push

theorem input?_branchAdded (h : InputId) : (g.branchAdded b).input? h =
    if h.graph = g.tag ∧ h.index = g.inputs.size then
      some { node := g.nextNode, name := "condition", default := some (.bool b) }
    else g.input? h := by
  rw [branchAdded_eq, input?_eq_pick, input?_eq_pick, addIf_eq]
  simp only [Handle.pick_modify, Handle.pick_push]
  by_cases here : h.index = g.inputs.size
  · by_cases tagged : h.graph = g.tag
    · simp [here, tagged]
    · simp [here, tagged, Handle.pick]
  · simp [here]

theorem output?_branchAdded (h : OutputId) : (g.branchAdded b).output? h = g.output? h := by
  rw [branchAdded_eq, output?_eq_pick, output?_eq_pick, addIf_eq]

theorem enter?_branchAdded (h : EnterId) : (g.branchAdded b).enter? h =
    if h.graph = g.tag ∧ h.index = g.enters.size then
      some { node := g.nextNode, name := "enter", kind := .enter }
    else g.enter? h := by
  rw [branchAdded_eq, enter?_eq_pick, enter?_eq_pick, addIf_eq]
  exact Handle.pick_push

theorem exit?_branchAdded (h : ExitId) : (g.branchAdded b).exit? h =
    if h.graph = g.tag ∧ h.index = g.exits.size + 1 then
      some { node := g.nextNode, name := "whenFalse", kind := .exit }
    else if h.graph = g.tag ∧ h.index = g.exits.size then
      some { node := g.nextNode, name := "whenTrue", kind := .exit }
    else g.exit? h := by
  rw [branchAdded_eq, exit?_eq_pick, exit?_eq_pick, addIf_eq]
  simp only [Handle.pick_push, Array.size_push]

section Old

variable {r : Role} {α : Type} {h : Handle r} {tag : Nat} {xs : Array α} {a : α}

/-- An old handle is none of the new ones: it names an entry within the old array. -/
theorem not_new_of_pick (found : h.pick tag xs = some a) : ¬ (h.graph = tag ∧ h.index = xs.size) := by
  have inside := (Array.getElem?_eq_some_iff.mp (Handle.pick_eq_some.mp found).2).1
  omega

theorem not_new_succ_of_pick (found : h.pick tag xs = some a) :
    ¬ (h.graph = tag ∧ h.index = xs.size + 1) := by
  have inside := (Array.getElem?_eq_some_iff.mp (Handle.pick_eq_some.mp found).2).1
  omega

end Old

/-- Before its enter port is led to, the branch is there and nothing else has changed. -/
theorem branchAdded_behind (body : ExitId) : g.BranchBehind (g.branchAdded b) body b where
  old := {
    node := fun found => by rw [node?_branchAdded, if_neg (not_new_of_pick found)]; exact found
    input := fun found => by rw [input?_branchAdded, if_neg (not_new_of_pick found)]; exact found
    output := fun found => by rw [output?_branchAdded]; exact found
    enter := fun found => by rw [enter?_branchAdded, if_neg (not_new_of_pick found)]; exact found
    exit := fun found _ => by
      rw [exit?_branchAdded, if_neg (not_new_succ_of_pick found), if_neg (not_new_of_pick found)]
      exact found }
  fresh := pick_size g.tag g.nodes
  node := by rw [node?_branchAdded, if_pos ⟨rfl, rfl⟩]
  condition := by rw [input?_branchAdded, if_pos ⟨rfl, rfl⟩]
  enter := by rw [enter?_branchAdded, if_pos ⟨rfl, rfl⟩]
  whenTrue := by
    rw [exit?_branchAdded, if_neg (fun here => Nat.succ_ne_self _ here.2.symm), if_pos ⟨rfl, rfl⟩]
  whenFalse := by rw [exit?_branchAdded, if_pos ⟨rfl, rfl⟩]
  body := fun found => by
    left
    rw [exit?_branchAdded, if_neg (not_new_succ_of_pick found), if_neg (not_new_of_pick found)]
    exact found

/-- Leading the body exit to the branch's enter port changes where it leads and nothing else;
the branch's own exits are no sub-flow exits, so neither is the one led. -/
theorem BranchBehind.lead {g g' : Graph} {body : ExitId} {b : Bool} (behind : g.BranchBehind g' body b)
    (unled : ∀ {x}, g.exit? body = some x → g'.exit? body = some x) {p : ExitPort}
    (found : g'.exit? body = some p) (subline : p.kind = .subline) :
    g.BranchBehind { g' with exits := (g'.exits.modify body.index
      fun p => { p with target := some ⟨g.tag, g.enters.size⟩ }) } body b := by
  have exits := exit?_modify found fun p => { p with target := some ⟨g.tag, g.enters.size⟩ }
  have branchExit : ∀ {x : ExitId} {q : ExitPort}, g'.exit? x = some q → q.kind = .exit →
      ({ g' with exits := (g'.exits.modify body.index
        fun p => { p with target := some ⟨g.tag, g.enters.size⟩ }) } : Graph).exit? x = some q := by
    intro x q own kind
    rw [exits, if_neg]
    · exact own
    · rintro rfl
      rw [found] at own
      cases own
      rw [subline] at kind
      cases kind
  refine ⟨⟨behind.old.node, behind.old.input, behind.old.output, behind.old.enter,
    fun old other => ?_⟩, behind.fresh, behind.node, behind.condition, behind.enter,
    branchExit behind.whenTrue rfl, branchExit behind.whenFalse rfl, fun old => ?_⟩
  · rw [exits, if_neg other]
    exact behind.old.exit old other
  · right
    rw [exits, if_pos rfl]
    rw [unled old] at found
    cases found
    rfl

theorem withBranch_behind (body : ExitId) : g.BranchBehind (g.withBranch body b) body b := by
  have added := g.branchAdded_behind b body
  rw [withBranch_eq]
  rcases connectSubline_apply (g.branchAdded b) body ⟨g.tag, g.enters.size⟩ with
    refused | ⟨p, found, subline, led⟩
  · rw [refused]
    exact added
  · rw [led]
    refine added.lead (fun old => ?_) found subline
    rcases added.body old with same | moved
    · exact same
    · -- the branch is only added, so the body exit still leads where it led
      rw [exit?_branchAdded, if_neg (not_new_succ_of_pick old), if_neg (not_new_of_pick old)]
      exact old

end Branch

end Graph

end Blueprint
