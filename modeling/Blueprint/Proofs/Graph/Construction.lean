import Blueprint.Proofs.Graph.WellFormed
import Blueprint.Proofs.Graph.Change

/-!
# Building graphs keeps them well formed

A graph is built by a sequence of edits: nodes are added with their ports, expression
nodes declare inputs, inputs are bound, exits are led, defaults are set. Each edit is a call
made in place, which may be refused; a refused call leaves the graph as it was
(`Edit.keepsOnError`). The main statement is that every graph built this way from an empty
one is well formed, whatever the edits and whether they succeed, with handles of any graph as
arguments.

Adding a node is one shape for all eight kinds of node (`Grows`): the graph gains the
node under the next handle and appends its ports, fresh and unwired. The edits that
rewire keep the nodes and the owner of every port (`WellFormed.rewire`), so only the
wiring has to be checked again.
-/

namespace Blueprint

namespace Graph

/-! ## Growing a graph by a node -/

/-- `g'` is `g` with one more node `n` under the next handle, and with the ports that `n`
lists appended to the port arrays: each names `n` and is wired to nothing. -/
structure Grows (g g' : Graph) (n : Node) : Prop where
  tag : g'.tag = g.tag
  nodes : g'.nodes = g.nodes.push n
  id : n.id = g.nextNode
  inputs : ∃ ys, g'.inputs = g.inputs ++ ys ∧
    n.kind.inputs = Handle.range g.tag g.inputs.size ys.size ∧
    ∀ p ∈ ys, p.node = n.id ∧ p.target = none
  outputs : ∃ ys, g'.outputs = g.outputs ++ ys ∧
    n.kind.outputs = Handle.range g.tag g.outputs.size ys.size ∧
    ∀ q ∈ ys, q.node = n.id ∧ q.targets = []
  enters : ∃ ys, g'.enters = g.enters ++ ys ∧
    n.kind.enters = Handle.range g.tag g.enters.size ys.size ∧ ∀ p ∈ ys, p.node = n.id
  exits : ∃ ys, g'.exits = g.exits ++ ys ∧
    n.kind.exits = Handle.range g.tag g.exits.size ys.size ∧
    ∀ p ∈ ys, p.node = n.id ∧ p.target = none
  declared : n.kind.declared = []
  inputsDeclared : n.kind.InputsDeclared

namespace Grows

variable {g g' : Graph} {n : Node} (grows : Grows g g' n)
include grows

theorem node? (m : NodeId) : g'.node? m = if m = n.id then some n else g.node? m := by
  rw [node?_eq_pick, node?_eq_pick, grows.tag, grows.nodes, Handle.pick_push, grows.id]
  simp only [nextNode, Handle.eq_iff]

theorem node?_self : g'.node? n.id = some n := by
  rw [grows.node?, if_pos rfl]

theorem node?_of_old {m : NodeId} {k : Node} (found : g.node? m = some k) :
    g'.node? m = some k := by
  have inside := (Array.getElem?_eq_some_iff.mp (Handle.pick_eq_some.mp found).2).1
  have other : m ≠ n.id := by
    rw [grows.id]
    intro same
    subst same
    exact absurd inside (Nat.lt_irrefl _)
  rw [grows.node?, if_neg other, found]

theorem input?_of_old {i : InputId} {p : InputPort} (found : g.input? i = some p) :
    g'.input? i = some p := by
  obtain ⟨ys, appended, _, _⟩ := grows.inputs
  rw [input?_eq_pick, grows.tag, appended]
  exact Handle.pick_append_left found

theorem output?_of_old {o : OutputId} {q : OutputPort} (found : g.output? o = some q) :
    g'.output? o = some q := by
  obtain ⟨ys, appended, _, _⟩ := grows.outputs
  rw [output?_eq_pick, grows.tag, appended]
  exact Handle.pick_append_left found

theorem enter?_of_old {e : EnterId} {p : EnterPort} (found : g.enter? e = some p) :
    g'.enter? e = some p := by
  obtain ⟨ys, appended, _, _⟩ := grows.enters
  rw [enter?_eq_pick, grows.tag, appended]
  exact Handle.pick_append_left found

theorem input?_cases {i : InputId} {p : InputPort} (found : g'.input? i = some p) :
    g.input? i = some p ∨ p.target = none := by
  obtain ⟨ys, appended, _, fresh⟩ := grows.inputs
  rw [input?_eq_pick, grows.tag, appended] at found
  rcases Handle.pick_append found with old | ⟨_, member⟩
  · exact .inl old
  · exact .inr (fresh p member).2

theorem output?_cases {o : OutputId} {q : OutputPort} (found : g'.output? o = some q) :
    g.output? o = some q ∨ q.targets = [] := by
  obtain ⟨ys, appended, _, fresh⟩ := grows.outputs
  rw [output?_eq_pick, grows.tag, appended] at found
  rcases Handle.pick_append found with old | ⟨_, member⟩
  · exact .inl old
  · exact .inr (fresh q member).2

theorem exit?_cases {x : ExitId} {p : ExitPort} (found : g'.exit? x = some p) :
    g.exit? x = some p ∨ p.target = none := by
  obtain ⟨ys, appended, _, fresh⟩ := grows.exits
  rw [exit?_eq_pick, grows.tag, appended] at found
  rcases Handle.pick_append found with old | ⟨_, member⟩
  · exact .inl old
  · exact .inr (fresh p member).2

/-- The port lists of the new node are runs of fresh handles. -/
theorem ports_eq_range (r : Role) :
    ∃ start count, n.kind.ports r = Handle.range g.tag start count ∧
      ∀ h ∈ n.kind.ports r, g.portNode? r h = none := by
  cases r with
  | node => exact ⟨0, 0, rfl, fun _ member => nomatch member⟩
  | input =>
      obtain ⟨ys, _, listed, _⟩ := grows.inputs
      refine ⟨_, _, listed, fun h member => ?_⟩
      rw [NodeKind.ports, listed] at member
      simp [portNode?, input?_eq_pick, Handle.pick_eq_none_of_mem_range member]
  | output =>
      obtain ⟨ys, _, listed, _⟩ := grows.outputs
      refine ⟨_, _, listed, fun h member => ?_⟩
      rw [NodeKind.ports, listed] at member
      simp [portNode?, output?_eq_pick, Handle.pick_eq_none_of_mem_range member]
  | enter =>
      obtain ⟨ys, _, listed, _⟩ := grows.enters
      refine ⟨_, _, listed, fun h member => ?_⟩
      rw [NodeKind.ports, listed] at member
      simp [portNode?, enter?_eq_pick, Handle.pick_eq_none_of_mem_range member]
  | exit =>
      obtain ⟨ys, _, listed, _⟩ := grows.exits
      refine ⟨_, _, listed, fun h member => ?_⟩
      rw [NodeKind.ports, listed] at member
      simp [portNode?, exit?_eq_pick, Handle.pick_eq_none_of_mem_range member]

theorem ports_nodup (r : Role) : (n.kind.ports r).Nodup := by
  obtain ⟨start, count, listed, _⟩ := grows.ports_eq_range r
  rw [listed]
  exact Handle.range_nodup _ _ _

theorem fresh {r : Role} {h : Handle r} (member : h ∈ n.kind.ports r) : g.portNode? r h = none :=
  (grows.ports_eq_range r).choose_spec.choose_spec.2 h member

/-- A new port names the new node; every other port names what it named before. -/
theorem portNode? (r : Role) (h : Handle r) :
    g'.portNode? r h = if h ∈ n.kind.ports r then some n.id else g.portNode? r h := by
  cases r with
  | node => rfl
  | input =>
      obtain ⟨ys, appended, listed, fresh⟩ := grows.inputs
      simp only [Graph.portNode?, input?_eq_pick, grows.tag, appended, NodeKind.ports, listed]
      exact Handle.map_pick_append fun p mem => (fresh p mem).1
  | output =>
      obtain ⟨ys, appended, listed, fresh⟩ := grows.outputs
      simp only [Graph.portNode?, output?_eq_pick, grows.tag, appended, NodeKind.ports, listed]
      exact Handle.map_pick_append fun q mem => (fresh q mem).1
  | enter =>
      obtain ⟨ys, appended, listed, fresh⟩ := grows.enters
      simp only [Graph.portNode?, enter?_eq_pick, grows.tag, appended, NodeKind.ports, listed]
      exact Handle.map_pick_append fresh
  | exit =>
      obtain ⟨ys, appended, listed, fresh⟩ := grows.exits
      simp only [Graph.portNode?, exit?_eq_pick, grows.tag, appended, NodeKind.ports, listed]
      exact Handle.map_pick_append fun p mem => (fresh p mem).1

end Grows

/-- Adding a node with its own fresh ports keeps a graph well formed. -/
theorem WellFormed.grow {g g' : Graph} {n : Node} (wf : g.WellFormed) (grows : Grows g g' n) :
    g'.WellFormed where
  node_id {m k} found := by
    rw [grows.node?] at found
    split at found
    · next same =>
        cases found
        exact same.symm
    · exact wf.node_id found
  owner {r h m} named := by
    rw [grows.portNode?] at named
    split at named
    · next member =>
        cases named
        exact ⟨n, grows.node?_self, List.count_eq_one_of_mem (grows.ports_nodup r) member⟩
    · obtain ⟨k, found, once⟩ := wf.owner named
      exact ⟨k, grows.node?_of_old found, once⟩
  listed {m k} found r h member := by
    rw [grows.node?] at found
    split at found
    · next same =>
        cases found
        rw [grows.portNode?, if_pos member, same]
    · have named := wf.listed found member
      have old : h ∉ n.kind.ports r := fun fresh => by
        rw [grows.fresh fresh] at named
        cases named
      rw [grows.portNode?, if_neg old, named]
  input_target {i p o} found bound := by
    rcases grows.input?_cases found with old | unbound
    · obtain ⟨q, output, member⟩ := wf.input_target old bound
      exact ⟨q, grows.output?_of_old output, member⟩
    · rw [unbound] at bound
      cases bound
  targets_nodup {o q} found := by
    rcases grows.output?_cases found with old | empty
    · exact wf.targets_nodup old
    · rw [empty]
      exact List.nodup_nil
  target_bound {o q i} found member := by
    rcases grows.output?_cases found with old | empty
    · obtain ⟨p, input, bound⟩ := wf.target_bound old member
      exact ⟨p, grows.input?_of_old input, bound⟩
    · rw [empty] at member
      cases member
  exit_target {x p e} found bound := by
    rcases grows.exit?_cases found with old | unbound
    · obtain ⟨q, enter⟩ := wf.exit_target old bound
      exact ⟨q, grows.enter?_of_old enter⟩
    · rw [unbound] at bound
      cases bound
  symbols {m k} found := by
    rw [grows.node?] at found
    split at found
    · cases found
      rw [grows.declared]
      exact ⟨List.nodup_nil, fun member => nomatch member⟩
    · obtain ⟨distinct, named⟩ := wf.symbols found
      refine ⟨distinct, fun member => ?_⟩
      obtain ⟨p, input, name⟩ := named member
      exact ⟨p, grows.input?_of_old input, name⟩
  inputs_declared {m k} found := by
    rw [grows.node?] at found
    split at found
    · cases found
      exact grows.inputsDeclared
    · exact wf.inputs_declared found

/-! ## The eight kinds of node -/

theorem addArgs_cons (id : NodeId) (index : Nat) (param : DataType) (rest : List DataType)
    (g : Graph) :
    addArgs id index (param :: rest) g =
      (⟨g.tag, g.outputs.size⟩ ::
          (addArgs id (index + 1) rest (g.addOutput id ("arg" ++ toString index)).2).1,
        (addArgs id (index + 1) rest (g.addOutput id ("arg" ++ toString index)).2).2) :=
  rfl

/-- Adding the outputs of an entry's parameters appends one fresh output per parameter. -/
theorem addArgs_spec (id : NodeId) (index : Nat) (params : List DataType) (g : Graph) :
    ∃ ys, (addArgs id index params g).2 = { g with outputs := g.outputs ++ ys } ∧
      (addArgs id index params g).1 = Handle.range g.tag g.outputs.size ys.size ∧
      ∀ q ∈ ys, q.node = id ∧ q.targets = [] := by
  induction params generalizing index g with
  | nil => exact ⟨#[], by simp [addArgs], by simp [addArgs, Handle.range], by simp⟩
  | cons param rest ih =>
      obtain ⟨ys, grown, outs, fresh⟩ :=
        ih (index + 1) (g.addOutput id ("arg" ++ toString index)).2
      refine ⟨#[{ node := id, name := "arg" ++ toString index }] ++ ys, ?_, ?_, ?_⟩
      · rw [addArgs_cons, grown]
        simp only [addOutput, ← Array.append_assoc]
        rfl
      · rw [addArgs_cons, outs]
        simp only [addOutput, Array.size_push, Array.size_append, List.size_toArray,
          List.length_singleton, Nat.add_comm 1 ys.size, Handle.range_succ]
      · intro q member
        rcases Array.mem_append.mp member with first | later
        · rw [Array.mem_singleton] at first
          rw [first]
          exact ⟨rfl, rfl⟩
        · exact fresh q later

-- In the growth facts below the anonymous constructor fixes which ports each node adds; the
-- remaining goals only compute the new handles and read the new ports' fields.

theorem addEntry_grows (g : Graph) (params : List DataType) :
    ∃ n, Grows g (g.addEntry params).2 n := by
  obtain ⟨ys, grown, outs, fresh⟩ := addArgs_spec g.nextNode 0 params g
  dsimp only [addEntry]
  rw [show addArgs g.nextNode 0 params g = (Handle.range g.tag g.outputs.size ys.size,
      { g with outputs := g.outputs ++ ys }) from Prod.ext outs grown]
  refine ⟨_, rfl, rfl, rfl, ⟨#[], rfl, rfl, ?_⟩, ⟨ys, rfl, rfl, fresh⟩, ⟨#[], rfl, rfl, ?_⟩,
    ⟨#[_], rfl, ?_, ?_⟩, rfl, trivial⟩ <;>
    simp [NodeKind.exits, Handle.range, addExit, nextNode]

theorem addEnd_grows (g : Graph) (returnType : Option DataType) :
    ∃ n, Grows g (g.addEnd returnType).2 n := by
  dsimp only [addEnd]
  cases returnType.filter (· != DataType.void) with
  | some _ =>
      refine ⟨_, rfl, rfl, rfl, ⟨#[_], rfl, ?_, ?_⟩, ⟨#[], rfl, rfl, ?_⟩, ⟨#[_], rfl, ?_, ?_⟩,
        ⟨#[], rfl, rfl, ?_⟩, rfl, trivial⟩ <;>
        simp [NodeKind.inputs, NodeKind.enters, Handle.range, addInput, addEnter, nextNode]
  | none =>
      refine ⟨_, rfl, rfl, rfl, ⟨#[], rfl, rfl, ?_⟩, ⟨#[], rfl, rfl, ?_⟩, ⟨#[_], rfl, ?_, ?_⟩,
        ⟨#[], rfl, rfl, ?_⟩, rfl, trivial⟩ <;>
        simp [NodeKind.enters, Handle.range, addEnter, nextNode]

theorem addVar_grows (g : Graph) (symbol : String) : ∃ n, Grows g (g.addVar symbol).2 n := by
  refine ⟨_, rfl, rfl, rfl, ⟨#[_], rfl, ?_, ?_⟩, ⟨#[_], rfl, ?_, ?_⟩, ⟨#[_], rfl, ?_, ?_⟩,
    ⟨#[_], rfl, ?_, ?_⟩, rfl, trivial⟩ <;>
    simp [NodeKind.inputs, NodeKind.outputs, NodeKind.enters, NodeKind.exits, Handle.range,
      nextNode]

theorem addIf_grows (g : Graph) : ∃ n, Grows g g.addIf.2 n := by
  refine ⟨_, rfl, rfl, rfl, ⟨#[_], rfl, ?_, ?_⟩, ⟨#[], rfl, rfl, ?_⟩, ⟨#[_], rfl, ?_, ?_⟩,
    ⟨#[_, _], rfl, ?_, ?_⟩, rfl, trivial⟩ <;>
    simp [NodeKind.inputs, NodeKind.enters, NodeKind.exits, Handle.range, List.range_succ,
      nextNode]

theorem addWhile_grows (g : Graph) : ∃ n, Grows g g.addWhile.2 n := by
  refine ⟨_, rfl, rfl, rfl, ⟨#[_], rfl, ?_, ?_⟩, ⟨#[], rfl, rfl, ?_⟩, ⟨#[_, _], rfl, ?_, ?_⟩,
    ⟨#[_, _], rfl, ?_, ?_⟩, rfl, trivial⟩ <;>
    simp [NodeKind.inputs, NodeKind.enters, NodeKind.exits, Handle.range, List.range_succ,
      nextNode]

theorem addFor_grows (g : Graph) : ∃ n, Grows g g.addFor.2 n := by
  refine ⟨_, rfl, rfl, rfl, ⟨#[_, _, _], rfl, ?_, ?_⟩, ⟨#[_], rfl, ?_, ?_⟩,
    ⟨#[_, _], rfl, ?_, ?_⟩, ⟨#[_, _], rfl, ?_, ?_⟩, rfl, trivial⟩ <;>
    simp [NodeKind.inputs, NodeKind.outputs, NodeKind.enters, NodeKind.exits, Handle.range,
      List.range_succ, nextNode]

theorem addForOf_grows (g : Graph) : ∃ n, Grows g g.addForOf.2 n := by
  refine ⟨_, rfl, rfl, rfl, ⟨#[_], rfl, ?_, ?_⟩, ⟨#[_], rfl, ?_, ?_⟩, ⟨#[_, _], rfl, ?_, ?_⟩,
    ⟨#[_, _], rfl, ?_, ?_⟩, rfl, trivial⟩ <;>
    simp [NodeKind.inputs, NodeKind.outputs, NodeKind.enters, NodeKind.exits, Handle.range,
      List.range_succ, nextNode]

theorem addExpression_grows (g : Graph) : ∃ n, Grows g g.addExpression.2 n := by
  refine ⟨_, rfl, rfl, rfl, ⟨#[], rfl, rfl, ?_⟩, ⟨#[_], rfl, ?_, ?_⟩, ⟨#[_], rfl, ?_, ?_⟩,
    ⟨#[_], rfl, ?_, ?_⟩, rfl, rfl⟩ <;>
    simp [NodeKind.outputs, NodeKind.enters, NodeKind.exits, Handle.range, nextNode]

/-! ## Edits that rewire -/

/-- An edit that keeps the nodes, and the owner and the name of every port, keeps a graph
well formed once its wiring agrees again. -/
theorem WellFormed.rewire {g g' : Graph} (wf : g.WellFormed) (tag : g'.tag = g.tag)
    (nodes : g'.nodes = g.nodes) (owners : ∀ r h, g'.portNode? r h = g.portNode? r h)
    (names : ∀ {i p}, g.input? i = some p → ∃ p', g'.input? i = some p' ∧ p'.name = p.name)
    (input_target : ∀ {i : InputId} {p : InputPort} {o : OutputId}, g'.input? i = some p →
      p.target = some o → ∃ q, g'.output? o = some q ∧ i ∈ q.targets)
    (targets_nodup : ∀ {o : OutputId} {q : OutputPort}, g'.output? o = some q → q.targets.Nodup)
    (target_bound : ∀ {o : OutputId} {q : OutputPort} {i : InputId}, g'.output? o = some q →
      i ∈ q.targets → ∃ p, g'.input? i = some p ∧ p.target = some o)
    (exit_target : ∀ {x : ExitId} {p : ExitPort} {e : EnterId}, g'.exit? x = some p →
      p.target = some e → ∃ q, g'.enter? e = some q) :
    g'.WellFormed := by
  have sameNodes : ∀ m, g'.node? m = g.node? m := fun m => by
    rw [node?_eq_pick, node?_eq_pick, tag, nodes]
  refine ⟨?_, ?_, ?_, input_target, targets_nodup, target_bound, exit_target, ?_, ?_⟩
  · intro m n found
    rw [sameNodes] at found
    exact wf.node_id found
  · intro r h m named
    rw [owners] at named
    obtain ⟨n, found, once⟩ := wf.owner named
    exact ⟨n, by rw [sameNodes, found], once⟩
  · intro m n found r h member
    rw [sameNodes] at found
    rw [owners]
    exact wf.listed found member
  · intro m n found
    rw [sameNodes] at found
    obtain ⟨distinct, named⟩ := wf.symbols found
    refine ⟨distinct, fun member => ?_⟩
    obtain ⟨p, input, name⟩ := named member
    obtain ⟨p', input', same⟩ := names input
    exact ⟨p', input', same.trans name⟩
  · intro m n found
    rw [sameNodes] at found
    exact wf.inputs_declared found

theorem input?_modify {g : Graph} {k : InputId} {p : InputPort} (found : g.input? k = some p)
    (f : InputPort → InputPort) (i : InputId) :
    ({ g with inputs := g.inputs.modify k.index f } : Graph).input? i =
      if i = k then some (f p) else g.input? i :=
  Handle.pick_modify_at found f

theorem output?_modify {g : Graph} {k : OutputId} {q : OutputPort} (found : g.output? k = some q)
    (f : OutputPort → OutputPort) (o : OutputId) :
    ({ g with outputs := g.outputs.modify k.index f } : Graph).output? o =
      if o = k then some (f q) else g.output? o :=
  Handle.pick_modify_at found f

theorem exit?_modify {g : Graph} {k : ExitId} {p : ExitPort} (found : g.exit? k = some p)
    (f : ExitPort → ExitPort) (x : ExitId) :
    ({ g with exits := g.exits.modify k.index f } : Graph).exit? x =
      if x = k then some (f p) else g.exit? x :=
  Handle.pick_modify_at found f

/-- Rewriting an input without moving it to another node keeps every port's owner. -/
theorem portNode?_modify_input {g : Graph} {k : InputId} {p : InputPort}
    (found : g.input? k = some p) {f : InputPort → InputPort} (keep : (f p).node = p.node)
    (r : Role) (h : Handle r) :
    ({ g with inputs := g.inputs.modify k.index f } : Graph).portNode? r h = g.portNode? r h := by
  cases r with
  | input =>
      simp only [portNode?, input?_modify found]
      split
      · next same => rw [same, found, Option.map_some, Option.map_some, keep]
      · rfl
  | _ => rfl

theorem portNode?_modify_exit {g : Graph} {k : ExitId} {p : ExitPort} (found : g.exit? k = some p)
    {f : ExitPort → ExitPort} (keep : (f p).node = p.node) (r : Role) (h : Handle r) :
    ({ g with exits := g.exits.modify k.index f } : Graph).portNode? r h = g.portNode? r h := by
  cases r with
  | exit =>
      simp only [portNode?, exit?_modify found]
      split
      · next same => rw [same, found, Option.map_some, Option.map_some, keep]
      · rfl
  | _ => rfl

theorem setDefault_wellFormed {g g' : Graph} {input : InputId} {v : Value} (wf : g.WellFormed)
    (done : g.setDefault input v = .ok g') : g'.WellFormed := by
  obtain ⟨_, done⟩ := Change.map_snd_result_eq_ok.mp done
  rw [Change.run_setDefault] at done
  split at done
  · cases done
  · next p found =>
      cases done
      have inputs := input?_modify found fun p => { p with default := some v }
      refine wf.rewire rfl rfl (portNode?_modify_input found rfl) ?_ ?_ wf.targets_nodup ?_
        wf.exit_target
      · intro i p' old
        rw [inputs]
        split
        · next same =>
            subst same
            rw [found] at old
            cases old
            exact ⟨_, rfl, rfl⟩
        · exact ⟨p', old, rfl⟩
      · intro i p' o bound target
        rw [inputs] at bound
        split at bound
        · next same =>
            cases bound
            subst same
            exact wf.input_target found target
        · exact wf.input_target bound target
      · intro o q i output member
        obtain ⟨p', old, target⟩ := wf.target_bound output member
        rw [inputs]
        split
        · next same =>
            subst same
            rw [found] at old
            cases old
            exact ⟨_, rfl, target⟩
        · exact ⟨p', old, target⟩

theorem connect_wellFormed {g g' : Graph} {exit : ExitId} {enter : EnterId} (wf : g.WellFormed)
    (done : g.connect exit enter = .ok g') : g'.WellFormed := by
  obtain ⟨_, done⟩ := Change.map_snd_result_eq_ok.mp done
  rw [Change.run_connect] at done
  split at done
  · cases done
  · cases done
  · next q p entered found =>
      cases done
      have exits := exit?_modify found fun p => { p with target := some enter }
      refine wf.rewire rfl rfl (portNode?_modify_exit found rfl) (fun old => ⟨_, old, rfl⟩)
        wf.input_target wf.targets_nodup wf.target_bound ?_
      intro x p' e led target
      rw [exits] at led
      split at led
      · cases led
        cases target
        exact ⟨q, entered⟩
      · exact wf.exit_target led target

theorem connectSubline_wellFormed {g g' : Graph} {exit : ExitId} {enter : EnterId}
    (wf : g.WellFormed) (done : g.connectSubline exit enter = .ok g') : g'.WellFormed := by
  rw [connectSubline_eq] at done
  split at done
  · cases done
  · split at done
    · cases done
    · exact connect_wellFormed wf done

/-- An input bound elsewhere, or nowhere, is not in an output's list. -/
theorem WellFormed.not_mem_targets {g : Graph} (wf : g.WellFormed) {i : InputId} {p : InputPort}
    {o : OutputId} {q : OutputPort} (found : g.input? i = some p) (output : g.output? o = some q)
    (elsewhere : p.target ≠ some o) : i ∉ q.targets := fun member => by
  obtain ⟨p', again, bound⟩ := wf.target_bound output member
  rw [found] at again
  cases again
  exact elsewhere bound

theorem filter_bne_of_not_mem {i : InputId} {targets : List InputId} (absent : i ∉ targets) :
    targets.filter (· != i) = targets :=
  List.filter_eq_self.mpr fun _ member => bne_iff_ne.mpr fun same => absent (same ▸ member)

/-- What binding an input to an output does: nothing when the input is bound to the output
already; otherwise the input now names the output, and it leaves every output's list and joins
the end of the new output's. -/
theorem attach_cases {g g' : Graph} {input : InputId} {output : OutputId} (wf : g.WellFormed)
    (done : g.attach input output = .ok g') :
    g' = g ∧ (∃ p, g.input? input = some p ∧ p.target = some output) ∨
    ∃ p q, g.input? input = some p ∧ g.output? output = some q ∧
      p.target ≠ some output ∧ g'.tag = g.tag ∧ g'.nodes = g.nodes ∧ g'.enters = g.enters ∧
      g'.exits = g.exits ∧
      (∀ i, g'.input? i = if i = input then some { p with target := some output } else g.input? i) ∧
      ∀ o, g'.output? o = (g.output? o).map fun q =>
        { q with
          targets := q.targets.filter (· != input) ++ if o = output then [input] else [] } := by
  obtain ⟨_, done⟩ := Change.map_snd_result_eq_ok.mp done
  rw [Change.run_attach] at done
  split at done
  · cases done
  · cases done
  · next q p outputFound inputFound =>
      split at done
      · next bound =>
          cases done
          exact .inl ⟨rfl, p, inputFound, bound⟩
      · next elsewhere =>
          have alone : input ∉ q.targets := wf.not_mem_targets inputFound outputFound elsewhere
          have inputs := input?_modify inputFound fun p => { p with target := some output }
          split at done
          · next previous unbound =>
              -- the input leaves the list of the output it was bound to before
              obtain ⟨old, oldFound, _⟩ := wf.input_target inputFound unbound
              have other : previous ≠ output := fun same => elsewhere (same ▸ unbound)
              have filtered := fun o : OutputId => Handle.pick_modify_at (h := o) oldFound fun o =>
                { o with targets := o.targets.filter (· != input) }
              have stillFound : output.pick g.tag (g.outputs.modify previous.index fun o =>
                  { o with targets := o.targets.filter (· != input) }) = some q := by
                rw [filtered, if_neg (Ne.symm other)]
                exact outputFound
              cases done
              refine .inr ⟨p, q, inputFound, outputFound, elsewhere, rfl, rfl, rfl, rfl, inputs, ?_⟩
              intro o
              simp only [output?_eq_pick]
              rw [Handle.pick_modify_at stillFound, filtered, ← output?_eq_pick]
              by_cases new : o = output
              · subst new
                simp [outputFound, filter_bne_of_not_mem alone]
              · by_cases old : o = previous
                · subst old
                  simp [new, oldFound]
                · simp only [if_neg new, if_neg old, List.append_nil]
                  cases lookup : g.output? o with
                  | none => rfl
                  | some q' =>
                      have absent := wf.not_mem_targets inputFound lookup
                        (fun bound => old (Option.some.inj (unbound.symm.trans bound)).symm)
                      simp [filter_bne_of_not_mem absent]
          · next unbound =>
              cases done
              refine .inr ⟨p, q, inputFound, outputFound, elsewhere, rfl, rfl, rfl, rfl, inputs, ?_⟩
              intro o
              simp only [output?_eq_pick]
              rw [Handle.pick_modify_at outputFound, ← output?_eq_pick]
              by_cases new : o = output
              · subst new
                simp [outputFound, filter_bne_of_not_mem alone]
              · simp only [if_neg new, List.append_nil]
                cases lookup : g.output? o with
                | none => rfl
                | some q' =>
                    have absent := wf.not_mem_targets inputFound lookup (by simp [unbound])
                    simp [filter_bne_of_not_mem absent]

theorem attach_wellFormed {g g' : Graph} {input : InputId} {output : OutputId} (wf : g.WellFormed)
    (done : g.attach input output = .ok g') : g'.WellFormed := by
  rcases attach_cases wf done with ⟨same, -⟩ | ⟨p, q, inputFound, outputFound, elsewhere, tag, nodes,
    enters, exits, inputs, outputs⟩
  · rw [same]
    exact wf
  have sameEnters : ∀ e, g'.enter? e = g.enter? e := fun e => by
    rw [enter?_eq_pick, enter?_eq_pick, tag, enters]
  have sameExits : ∀ x, g'.exit? x = g.exit? x := fun x => by
    rw [exit?_eq_pick, exit?_eq_pick, tag, exits]
  refine wf.rewire tag nodes ?_ ?_ ?_ ?_ ?_ ?_
  · intro r h
    cases r with
    | node => rfl
    | input =>
        simp only [portNode?, inputs]
        split
        · next same => rw [same, inputFound, Option.map_some, Option.map_some]
        · rfl
    | output =>
        simp only [portNode?, outputs, Option.map_map]
        rfl
    | enter => simp only [portNode?, sameEnters]
    | exit => simp only [portNode?, sameExits]
  · intro i p' found
    rw [inputs]
    split
    · next same =>
        rw [same, inputFound] at found
        cases found
        exact ⟨_, rfl, rfl⟩
    · exact ⟨p', found, rfl⟩
  · intro i p' o found bound
    rw [inputs] at found
    split at found
    · next same =>
        cases found
        cases bound
        rw [outputs, outputFound]
        exact ⟨_, rfl, by simp [same]⟩
    · next other =>
        obtain ⟨q', old, member⟩ := wf.input_target found bound
        rw [outputs, old]
        refine ⟨_, rfl, List.mem_append_left _ ?_⟩
        exact List.mem_filter.mpr ⟨member, bne_iff_ne.mpr other⟩
  · intro o q' found
    rw [outputs] at found
    obtain ⟨old, oldFound, rfl⟩ := Option.map_eq_some_iff.mp found
    have filtered := (wf.targets_nodup oldFound).filter (· != input)
    split
    · refine filtered.append (List.nodup_singleton input) ?_
      intro i member single
      rw [List.mem_singleton] at single
      subst single
      simp at member
    · rw [List.append_nil]
      exact filtered
  · intro o q' i found member
    rw [outputs] at found
    obtain ⟨old, oldFound, rfl⟩ := Option.map_eq_some_iff.mp found
    rcases List.mem_append.mp member with kept | joined
    · obtain ⟨member, other⟩ := List.mem_filter.mp kept
      obtain ⟨p', old, bound⟩ := wf.target_bound oldFound member
      rw [inputs, if_neg (bne_iff_ne.mp other)]
      exact ⟨p', old, bound⟩
    · split at joined
      · next new =>
          rw [List.mem_singleton] at joined
          rw [inputs, if_pos joined, new]
          exact ⟨_, rfl, rfl⟩
      · cases joined
  · intro x p' e found bound
    rw [sameExits] at found
    rw [sameEnters]
    exact wf.exit_target found bound

/-! ## Edits of expression nodes -/

theorem node?_setNode {g : Graph} {m : NodeId} {n : Node} (found : g.node? m = some n) (n' : Node)
    (k : NodeId) : (g.setNode m n').node? k = if k = m then some n' else g.node? k :=
  Handle.pick_modify_at found _

/-- Replacing a node by one under the same handle, with the same ports and declarations,
keeps a graph well formed. -/
theorem WellFormed.setNode {g : Graph} {m : NodeId} {n n' : Node} (wf : g.WellFormed)
    (found : g.node? m = some n) (sameId : n'.id = n.id)
    (samePorts : ∀ r, n'.kind.ports r = n.kind.ports r)
    (sameDeclared : n'.kind.declared = n.kind.declared)
    (inputsDeclared : n.kind.InputsDeclared → n'.kind.InputsDeclared) :
    (g.setNode m n').WellFormed where
  node_id {k c} lookup := by
    rw [node?_setNode found] at lookup
    split at lookup
    · next same =>
        cases lookup
        rw [sameId, wf.node_id found, same]
    · exact wf.node_id lookup
  owner {r h k} named := by
    obtain ⟨c, lookup, once⟩ := wf.owner (g := g) named
    rw [node?_setNode found]
    split
    · next same =>
        rw [same, found] at lookup
        cases lookup
        exact ⟨n', rfl, by rw [samePorts]; exact once⟩
    · exact ⟨c, lookup, once⟩
  listed {k c} lookup r h member := by
    rw [node?_setNode found] at lookup
    split at lookup
    · next same =>
        cases lookup
        rw [samePorts] at member
        rw [same]
        exact wf.listed found member
    · exact wf.listed lookup member
  input_target := wf.input_target
  targets_nodup := wf.targets_nodup
  target_bound := wf.target_bound
  exit_target := wf.exit_target
  symbols {k c} lookup := by
    rw [node?_setNode found] at lookup
    split at lookup
    · cases lookup
      rw [sameDeclared]
      exact wf.symbols found
    · exact wf.symbols lookup
  inputs_declared {k c} lookup := by
    rw [node?_setNode found] at lookup
    split at lookup
    · cases lookup
      exact inputsDeclared (wf.inputs_declared found)
    · exact wf.inputs_declared lookup

theorem setExpression_wellFormed {g g' : Graph} {m : NodeId} {e : Expr} (wf : g.WellFormed)
    (done : g.setExpression m e = .ok g') : g'.WellFormed := by
  obtain ⟨_, done⟩ := Change.map_snd_result_eq_ok.mp done
  rw [Change.run_setExpression] at done
  split at done
  · cases done
  · next n found =>
      split at done
      · next expr inputs ports result enter exit kind =>
          cases done
          refine wf.setNode found rfl ?_ ?_ ?_
          · intro r
            cases r <;> simp [NodeKind.ports, NodeKind.inputs, NodeKind.outputs, NodeKind.enters,
              NodeKind.exits, kind]
          · simp [NodeKind.declared, kind]
          · simp [NodeKind.InputsDeclared, kind]
      · cases done

/-- `g'` is `g` where the expression node `n` under `m` has become `n'` by declaring one more
input, `port`, fresh and named by `symbol`; nothing else changes. -/
structure Declares (g g' : Graph) (m : NodeId) (n n' : Node) (symbol : String) (port : InputId) :
    Prop where
  found : g.node? m = some n
  fresh : g.input? port = none
  unused : symbol ∉ n.kind.declared.map (·.1)
  id : n'.id = n.id
  inputs : n'.kind.inputs = n.kind.inputs ++ [port]
  others : n'.kind.outputs = n.kind.outputs ∧ n'.kind.enters = n.kind.enters ∧
    n'.kind.exits = n.kind.exits
  declared : n'.kind.declared = n.kind.declared ++ [(symbol, port)]
  inputsDeclared : n.kind.InputsDeclared → n'.kind.InputsDeclared
  node? : ∀ k, g'.node? k = if k = m then some n' else g.node? k
  input? : ∀ i, g'.input? i = if i = port then some { node := m, name := symbol } else g.input? i
  output? : ∀ o, g'.output? o = g.output? o
  enter? : ∀ e, g'.enter? e = g.enter? e
  exit? : ∀ x, g'.exit? x = g.exit? x

theorem addExpressionInput_declares {g g' : Graph} {m : NodeId} {symbol : String} {port : InputId}
    (done : g.addExpressionInput m symbol = .ok (port, g')) :
    ∃ n n', Declares g g' m n n' symbol port := by
  have done := Change.result_eq_ok.mp done
  rw [Change.run_declareInput] at done
  split at done
  · cases done
  · next n found =>
      split at done
      · next expr inputs ports result enter exit kind =>
          split at done
          · cases done
          · next used =>
              cases done
              refine ⟨n, { n with kind := (.expression expr
                  (inputs ++ [(symbol, ⟨g.tag, g.inputs.size⟩)]) (ports ++ [⟨g.tag, g.inputs.size⟩])
                  result enter exit) },
                found, ?_, ?_, rfl, ?_, ?_, ?_, ?_, node?_setNode (g := { g with
                inputs := g.inputs.push { node := m, name := symbol } }) found _, ?_,
                fun _ => rfl, fun _ => rfl, fun _ => rfl⟩
              · simp [input?]
              · intro present
                rw [kind] at present
                simp only [NodeKind.declared, List.mem_map] at present
                obtain ⟨entry, member, named⟩ := present
                exact used (List.any_eq_true.mpr ⟨entry, member, by simp [named]⟩)
              · simp [kind, NodeKind.inputs]
              · simp [kind, NodeKind.outputs, NodeKind.enters, NodeKind.exits]
              · simp [kind, NodeKind.declared]
              · intro listed
                rw [kind] at listed
                simp only [NodeKind.InputsDeclared] at listed ⊢
                rw [listed, List.map_append]
                rfl
              · intro i
                show i.pick g.tag (g.inputs.push _) = _
                rw [Handle.pick_push]
                simp only [Handle.eq_iff]
                rfl
      · cases done

/-- Declaring an input on an expression node keeps a graph well formed: the new port is
fresh, names the node, is named by its symbol, and joins the end of the node's inputs. -/
theorem WellFormed.declare {g g' : Graph} {m : NodeId} {n n' : Node} {symbol : String}
    {port : InputId} (wf : g.WellFormed) (d : Declares g g' m n n' symbol port) :
    g'.WellFormed := by
  have old : ∀ {i p}, g.input? i = some p → i ≠ port := fun lookup same => by
    rw [same, d.fresh] at lookup
    cases lookup
  have unlisted : port ∉ n.kind.inputs := fun member => by
    obtain ⟨p, lookup, _⟩ := wf.input_of_mem d.found member
    exact old lookup rfl
  -- a port of another role keeps its owner
  have sameOwner : ∀ {r : Role} (h : Handle r), r ≠ .input →
      g'.portNode? r h = g.portNode? r h := by
    intro r h other
    cases r <;> simp_all [portNode?, d.output?, d.enter?, d.exit?]
  have samePorts : ∀ {r : Role}, r ≠ .input → n'.kind.ports r = n.kind.ports r := by
    intro r other
    cases r <;> simp_all [NodeKind.ports, d.others]
  refine ⟨?_, ?_, ?_, ?_, ?_, ?_, ?_, ?_, ?_⟩
  · intro k c lookup
    rw [d.node?] at lookup
    split at lookup
    · next same =>
        cases lookup
        rw [d.id, wf.node_id d.found, same]
    · exact wf.node_id lookup
  · intro r h k named
    by_cases role : r = .input
    · subst role
      simp only [portNode?, d.input?] at named
      split at named
      · next same =>
          cases named
          refine ⟨n', by rw [d.node?, if_pos rfl], ?_⟩
          rw [NodeKind.ports, d.inputs, List.count_append, List.count_eq_zero_of_not_mem
            (same ▸ unlisted), same]
          simp
      · next other =>
          obtain ⟨c, lookup, once⟩ := wf.owner (r := .input) (h := h) named
          rw [d.node?]
          split
          · next same =>
              subst same
              rw [d.found] at lookup
              cases lookup
              have absent : List.count h [port] = 0 :=
                List.count_eq_zero_of_not_mem (by simpa using other)
              refine ⟨n', rfl, ?_⟩
              rw [NodeKind.ports, d.inputs, List.count_append, absent, Nat.add_zero]
              exact once
          · exact ⟨c, lookup, once⟩
    · rw [sameOwner h role] at named
      obtain ⟨c, lookup, once⟩ := wf.owner named
      rw [d.node?]
      split
      · next same =>
          subst same
          rw [d.found] at lookup
          cases lookup
          exact ⟨n', rfl, by rw [samePorts role]; exact once⟩
      · exact ⟨c, lookup, once⟩
  · intro k c lookup r h member
    rw [d.node?] at lookup
    split at lookup
    · next same =>
        cases lookup
        subst same
        by_cases role : r = .input
        · subst role
          rw [NodeKind.ports, d.inputs, List.mem_append, List.mem_singleton] at member
          simp only [portNode?, d.input?]
          rcases member with listed | added
          · have named := wf.listed d.found (r := .input) listed
            simp only [portNode?, Option.map_eq_some_iff] at named
            obtain ⟨p, lookup, owned⟩ := named
            rw [if_neg (old lookup), lookup, Option.map_some, owned]
          · rw [if_pos added, Option.map_some]
        · rw [samePorts role] at member
          rw [sameOwner h role]
          exact wf.listed d.found member
    · by_cases role : r = .input
      · subst role
        have named := wf.listed lookup (r := .input) member
        simp only [portNode?, Option.map_eq_some_iff] at named
        obtain ⟨p, found, owned⟩ := named
        simp only [portNode?, d.input?, if_neg (old found), found, Option.map_some, owned]
      · rw [sameOwner h role]
        exact wf.listed lookup member
  · intro i p o lookup bound
    rw [d.input?] at lookup
    split at lookup
    · cases lookup
      cases bound
    · obtain ⟨q, output, member⟩ := wf.input_target lookup bound
      exact ⟨q, by rw [d.output?]; exact output, member⟩
  · intro o q lookup
    rw [d.output?] at lookup
    exact wf.targets_nodup lookup
  · intro o q i lookup member
    rw [d.output?] at lookup
    obtain ⟨p, input, bound⟩ := wf.target_bound lookup member
    exact ⟨p, by rw [d.input?, if_neg (old input)]; exact input, bound⟩
  · intro x p e lookup bound
    rw [d.exit?] at lookup
    obtain ⟨q, enter⟩ := wf.exit_target lookup bound
    exact ⟨q, by rw [d.enter?]; exact enter⟩
  · intro k c lookup
    rw [d.node?] at lookup
    split at lookup
    · next same =>
        cases lookup
        subst same
        obtain ⟨distinct, named⟩ := wf.symbols d.found
        rw [d.declared]
        refine ⟨?_, ?_⟩
        · rw [List.map_append, List.nodup_append]
          refine ⟨distinct, List.nodup_singleton _, ?_⟩
          intro s member t single same
          simp only [List.map_cons, List.map_nil, List.mem_singleton] at single
          subst single same
          exact d.unused member
        · intro s i member
          rcases List.mem_append.mp member with older | added
          · obtain ⟨p, input, name⟩ := named older
            exact ⟨p, by rw [d.input?, if_neg (old input)]; exact input, name⟩
          · simp only [List.mem_singleton, Prod.mk.injEq] at added
            obtain ⟨rfl, rfl⟩ := added
            exact ⟨_, by rw [d.input?, if_pos rfl], rfl⟩
    · obtain ⟨distinct, named⟩ := wf.symbols lookup
      refine ⟨distinct, fun member => ?_⟩
      obtain ⟨p, input, name⟩ := named member
      exact ⟨p, by rw [d.input?, if_neg (old input)]; exact input, name⟩
  · intro k c lookup
    rw [d.node?] at lookup
    split at lookup
    · cases lookup
      exact d.inputsDeclared (wf.inputs_declared d.found)
    · exact wf.inputs_declared lookup

theorem attachNodes_wellFormed {g g' : Graph} {source target : NodeId}
    {outputIndex inputIndex : Nat} (wf : g.WellFormed)
    (done : g.attachNodes source outputIndex target inputIndex = .ok g') :
    g'.WellFormed := by
  rw [attachNodes_eq] at done
  cases outputFound : g.nodePort source outputIndex NodeKind.outputs with
  | error e =>
      rw [outputFound] at done
      cases done
  | ok output =>
      cases inputFound : g.nodePort target inputIndex NodeKind.inputs with
      | error e =>
          rw [outputFound, inputFound] at done
          cases done
      | ok input =>
          rw [outputFound, inputFound] at done
          exact attach_wellFormed wf done

theorem connectNodes_wellFormed {g g' : Graph} {source target : NodeId} {exitIndex enterIndex : Nat}
    (wf : g.WellFormed) (done : g.connectNodes source exitIndex target enterIndex = .ok g') :
    g'.WellFormed := by
  rw [connectNodes_eq] at done
  cases exitFound : g.nodePort source exitIndex NodeKind.exits with
  | error e =>
      rw [exitFound] at done
      cases done
  | ok exit =>
      cases enterFound : g.nodePort target enterIndex NodeKind.enters with
      | error e =>
          rw [exitFound, enterFound] at done
          cases done
      | ok enter =>
          rw [exitFound, enterFound] at done
          exact connect_wellFormed wf done

/-! ## Sequences of edits -/

/-- One call of an operation that builds a graph, with its arguments. -/
inductive Edit where
  | addEntry (params : List DataType)
  | addEnd (returnType : Option DataType)
  | addVar (symbol : String)
  | addIf
  | addWhile
  | addFor
  | addForOf
  | addExpression
  | addExpressionInput (node : NodeId) (symbol : String)
  | setExpression (node : NodeId) (expr : Expr)
  | attach (input : InputId) (output : OutputId)
  | attachNodes (source : NodeId) (outputIndex : Nat) (target : NodeId) (inputIndex : Nat)
  | connect (exit : ExitId) (enter : EnterId)
  | connectSubline (exit : ExitId) (enter : EnterId)
  | connectNodes (source : NodeId) (exitIndex : Nat) (target : NodeId) (enterIndex : Nat)
  | setDefault (input : InputId) (value : Value)

namespace Edit

/-- The graph an edit makes of a graph, or why the edit is refused. -/
def run : Edit → Graph → Except GraphError Graph
  | .addEntry params, g => pure (g.addEntry params).2
  | .addEnd returnType, g => pure (g.addEnd returnType).2
  | .addVar symbol, g => pure (g.addVar symbol).2
  | .addIf, g => pure g.addIf.2
  | .addWhile, g => pure g.addWhile.2
  | .addFor, g => pure g.addFor.2
  | .addForOf, g => pure g.addForOf.2
  | .addExpression, g => pure g.addExpression.2
  | .addExpressionInput node symbol, g => (·.2) <$> g.addExpressionInput node symbol
  | .setExpression node expr, g => g.setExpression node expr
  | .attach input output, g => g.attach input output
  | .attachNodes source outputIndex target inputIndex, g =>
    g.attachNodes source outputIndex target inputIndex
  | .connect exit enter, g => g.connect exit enter
  | .connectSubline exit enter, g => g.connectSubline exit enter
  | .connectNodes source exitIndex target enterIndex, g =>
    g.connectNodes source exitIndex target enterIndex
  | .setDefault input value, g => g.setDefault input value

/-- The call of an edit, made in place on a graph. -/
def change : Edit → Change Unit
  | .addEntry params => modify fun g => (g.addEntry params).2
  | .addEnd returnType => modify fun g => (g.addEnd returnType).2
  | .addVar symbol => modify fun g => (g.addVar symbol).2
  | .addIf => modify fun g => g.addIf.2
  | .addWhile => modify fun g => g.addWhile.2
  | .addFor => modify fun g => g.addFor.2
  | .addForOf => modify fun g => g.addForOf.2
  | .addExpression => modify fun g => g.addExpression.2
  | .addExpressionInput node symbol => Change.declareInput node symbol >>= fun _ => pure ()
  | .setExpression node expr => Change.setExpression node expr
  | .attach input output => Change.attach input output
  | .attachNodes source outputIndex target inputIndex =>
    Change.attachNodes source outputIndex target inputIndex
  | .connect exit enter => Change.connect exit enter
  | .connectSubline exit enter => Change.connectSubline exit enter
  | .connectNodes source exitIndex target enterIndex =>
    Change.connectNodes source exitIndex target enterIndex
  | .setDefault input value => Change.setDefault input value

/-- The graph after an edit: the graph its call leaves in place, whether the call succeeds or
is refused. -/
def apply (e : Edit) (g : Graph) : Graph :=
  match e.change.run g with
  | .ok _ g' => g'
  | .error _ g' => g'

/-- A refused call leaves the graph as it was, whatever the edit: the calls that add nodes are
never refused, and the others check before they write. -/
theorem keepsOnError (e : Edit) : Change.KeepsOnError e.change := by
  intro g err g' failed
  cases e with
  | addExpressionInput node symbol =>
      simp only [change, EStateM.run_bind] at failed
      split at failed
      · cases failed
      · next declared =>
          cases failed
          exact Change.keepsOnError_declareInput node symbol declared
  | setExpression node expr => exact Change.keepsOnError_setExpression node expr failed
  | attach input output => exact Change.keepsOnError_attach input output failed
  | attachNodes source outputIndex target inputIndex =>
      exact Change.keepsOnError_attachNodes source outputIndex target inputIndex failed
  | connect exit enter => exact Change.keepsOnError_connect exit enter failed
  | connectSubline exit enter => exact Change.keepsOnError_connectSubline exit enter failed
  | connectNodes source exitIndex target enterIndex =>
      exact Change.keepsOnError_connectNodes source exitIndex target enterIndex failed
  | setDefault input value => exact Change.keepsOnError_setDefault input value failed
  | _ => cases failed

/-- An edit as a value gives the graph its call leaves, or the error that refused it. -/
theorem run_eq (e : Edit) (g : Graph) : e.run g = (·.2) <$> e.change.result g := by
  cases e with
  | addExpressionInput node symbol =>
      show (·.2) <$> (Change.declareInput node symbol).result g = _
      simp only [Change.map_snd_result, change, EStateM.run_bind]
      cases (Change.declareInput node symbol).run g <;> rfl
  | _ => rfl

/-- The graph after an edit is the graph its value gives, or the graph it was made on when it
is refused. -/
theorem apply_eq (e : Edit) (g : Graph) :
    e.apply g = match e.run g with
      | .ok g' => g'
      | .error _ => g := by
  rw [run_eq, Change.map_snd_result, apply]
  cases ran : e.change.run g with
  | ok _ g' => rfl
  | error err g' => exact e.keepsOnError ran

theorem run_wellFormed {g g' : Graph} (wf : g.WellFormed) (e : Edit) (done : e.run g = .ok g') :
    g'.WellFormed := by
  cases e with
  | addEntry params =>
      cases done
      exact wf.grow (addEntry_grows g params).choose_spec
  | addEnd returnType =>
      cases done
      exact wf.grow (addEnd_grows g returnType).choose_spec
  | addVar symbol =>
      cases done
      exact wf.grow (addVar_grows g symbol).choose_spec
  | addIf =>
      cases done
      exact wf.grow (addIf_grows g).choose_spec
  | addWhile =>
      cases done
      exact wf.grow (addWhile_grows g).choose_spec
  | addFor =>
      cases done
      exact wf.grow (addFor_grows g).choose_spec
  | addForOf =>
      cases done
      exact wf.grow (addForOf_grows g).choose_spec
  | addExpression =>
      cases done
      exact wf.grow (addExpression_grows g).choose_spec
  | addExpressionInput node symbol =>
      cases declared : g.addExpressionInput node symbol with
      | error err =>
          simp only [run, declared] at done
          cases done
      | ok result =>
          simp only [run, declared] at done
          cases done
          obtain ⟨n, n', d⟩ := addExpressionInput_declares declared
          exact wf.declare d
  | setExpression node expr => exact setExpression_wellFormed wf done
  | attach input output => exact attach_wellFormed wf done
  | attachNodes source outputIndex target inputIndex => exact attachNodes_wellFormed wf done
  | connect exit enter => exact connect_wellFormed wf done
  | connectSubline exit enter => exact connectSubline_wellFormed wf done
  | connectNodes source exitIndex target enterIndex => exact connectNodes_wellFormed wf done
  | setDefault input value => exact setDefault_wellFormed wf done

theorem apply_wellFormed {g : Graph} (wf : g.WellFormed) (e : Edit) : (e.apply g).WellFormed := by
  rw [apply_eq]
  split
  · next g' done => exact run_wellFormed wf e done
  · exact wf

end Edit

/-- The graph that a sequence of edits builds from an empty graph. -/
def build (tag : Nat) (name : String) (edits : List Edit) : Graph :=
  edits.foldl (fun g e => e.apply g) (Graph.empty tag name)

theorem foldl_apply_wellFormed {g : Graph} (wf : g.WellFormed) (edits : List Edit) :
    (edits.foldl (fun g e => e.apply g) g).WellFormed := by
  induction edits generalizing g with
  | nil => exact wf
  | cons e rest ih => exact ih (Edit.apply_wellFormed wf e)

theorem build_wellFormed (tag : Nat) (name : String) (edits : List Edit) :
    (build tag name edits).WellFormed :=
  foldl_apply_wellFormed (empty_wellFormed tag name) edits

/-- Every graph built from an empty graph by a sequence of edits, refused ones included and
with handles of any graph as arguments, keeps the two records of its wiring in step. -/
theorem build_wiring_consistent (tag : Nat) (name : String) (edits : List Edit) :
    let g := build tag name edits
    -- an input names an output exactly when the output lists it, and no list repeats an input
    (∀ {i p o q}, g.input? i = some p → g.output? o = some q →
      (p.target = some o ↔ i ∈ q.targets)) ∧
    (∀ {o q}, g.output? o = some q → q.targets.Nodup) ∧
    -- every handle stored in a port names a port of the graph of the right role
    (∀ {i p o}, g.input? i = some p → p.target = some o → ∃ q, g.output? o = some q) ∧
    (∀ {o q i}, g.output? o = some q → i ∈ q.targets → ∃ p, g.input? i = some p) ∧
    (∀ {x p e}, g.exit? x = some p → p.target = some e → ∃ q, g.enter? e = some q) ∧
    -- the node a port names lists it exactly once, and no two nodes list one port
    (∀ {r} {h : Handle r} {m}, g.portNode? r h = some m →
      ∃ n, g.node? m = some n ∧ (n.kind.ports r).count h = 1) ∧
    (∀ {r} {h : Handle r} {m m' n n'}, g.node? m = some n → g.node? m' = some n' →
      h ∈ n.kind.ports r → h ∈ n'.kind.ports r → m = m') ∧
    -- an expression node's input ports are the ports of its symbols in order, each named by
    -- its symbol
    (∀ {m n e inputs ports result enter exit}, g.node? m = some n →
      n.kind = .expression e inputs ports result enter exit →
      ports = inputs.map (·.2) ∧
        ∀ {s i}, (s, i) ∈ inputs → ∃ p, g.input? i = some p ∧ p.name = s) ∧
    -- a call that is refused leaves the graph it was made on as it was, for every graph
    (∀ (e : Edit) {g₀ g₁ : Graph} {err : GraphError}, e.change.run g₀ = .error err g₁ →
      g₁ = g₀) := by
  intro g
  have wf : g.WellFormed := build_wellFormed tag name edits
  refine ⟨wf.target_eq_some_iff, wf.targets_nodup, ?_, ?_, wf.exit_target, wf.owner,
    wf.listed_unique, ?_, fun e => e.keepsOnError⟩
  · intro i p o input bound
    obtain ⟨q, output, _⟩ := wf.input_target input bound
    exact ⟨q, output⟩
  · intro o q i output member
    obtain ⟨p, input, _⟩ := wf.target_bound output member
    exact ⟨p, input⟩
  · intro m n e inputs ports result enter exit found kind
    have declared : n.kind.declared = inputs := by rw [kind]; rfl
    have listed : n.kind.InputsDeclared := wf.inputs_declared found
    rw [kind] at listed
    refine ⟨listed, fun member => ?_⟩
    rw [← declared] at member
    exact (wf.symbols found).2 member

end Graph

end Blueprint
