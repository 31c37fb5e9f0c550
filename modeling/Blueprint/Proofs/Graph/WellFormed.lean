import Mathlib.Data.List.Nodup
import Blueprint.Graph.Build

/-!
# Well-formed graphs

A graph records its wiring twice: an input names the output it is bound to while the
output lists the inputs it feeds, and a port names its node while the node lists its
ports. An expression node records its inputs twice too, in its map of symbols and in its
list of input ports. A graph is well formed when the two records agree and every handle stored in it
names an object of the graph of the right role. It is what lets a run resolve every
handle it meets.

Every look-up goes through `Handle.pick`, one function for the arrays of all roles, so
that what appending to an array or rewriting one of its entries does to look-ups is
stated once, here, for all of them.
-/

namespace Blueprint

namespace Handle

variable {r : Role} {α β : Type}

/-- The entry of an array that a handle names: the handle must carry the array's tag and
point inside it. -/
def pick (h : Handle r) (tag : Nat) (entries : Array α) : Option α :=
  if h.graph = tag then entries[h.index]? else none

/-- The handles of one role that the graph of a tag issues for a run of consecutive
places. -/
def range (tag start count : Nat) : List (Handle r) :=
  (List.range count).map fun offset => ⟨tag, start + offset⟩

variable {h : Handle r} {tag : Nat} {xs ys : Array α} {a : α}

theorem mem_range {start count : Nat} :
    h ∈ (range tag start count : List (Handle r)) ↔
      h.graph = tag ∧ start ≤ h.index ∧ h.index < start + count := by
  constructor
  · intro member
    obtain ⟨offset, below, rfl⟩ := List.mem_map.mp member
    simp only [List.mem_range] at below
    exact ⟨rfl, Nat.le_add_right start offset, Nat.add_lt_add_left below start⟩
  · rintro ⟨tagged, lower, upper⟩
    refine List.mem_map.mpr ⟨h.index - start, List.mem_range.mpr (by omega), ?_⟩
    cases h
    simp only at tagged lower ⊢
    rw [tagged, Nat.add_sub_cancel' lower]

theorem range_succ (tag start count : Nat) :
    (range tag start (count + 1) : List (Handle r)) =
      ⟨tag, start⟩ :: range tag (start + 1) count := by
  simp only [range, List.range_succ_eq_map, List.map_cons, List.map_map, Nat.add_zero]
  congr 1
  apply List.map_congr_left
  intro offset _
  simp only [Function.comp, Nat.add_assoc, Nat.add_comm 1 offset]

theorem range_nodup (tag start count : Nat) : (range tag start count : List (Handle r)).Nodup := by
  refine (List.nodup_range).map ?_
  intro first second same
  simp only [Handle.mk.injEq] at same
  omega

theorem pick_eq_some {h : Handle r} :
    h.pick tag xs = some a ↔ h.graph = tag ∧ xs[h.index]? = some a := by
  unfold pick
  split <;> simp_all

theorem pick_append_left (found : h.pick tag xs = some a) : h.pick tag (xs ++ ys) = some a := by
  obtain ⟨tagged, entry⟩ := pick_eq_some.mp found
  have inside : h.index < xs.size := (Array.getElem?_eq_some_iff.mp entry).1
  exact pick_eq_some.mpr ⟨tagged, by rw [Array.getElem?_append_left inside, entry]⟩

/-- A handle that names an entry of an appended array names an old entry, or it is one of
the new handles and names a new entry. -/
theorem pick_append (found : h.pick tag (xs ++ ys) = some a) :
    h.pick tag xs = some a ∨ (h ∈ range tag xs.size ys.size ∧ a ∈ ys) := by
  obtain ⟨tagged, entry⟩ := pick_eq_some.mp found
  rw [Array.getElem?_append] at entry
  split at entry
  · exact .inl (pick_eq_some.mpr ⟨tagged, entry⟩)
  · have inside := (Array.getElem?_eq_some_iff.mp entry).1
    refine .inr ⟨mem_range.mpr ⟨tagged, by omega, by omega⟩, ?_⟩
    exact Array.mem_of_getElem? entry

/-- Look-up in an appended array: the new handles name the new entries, and every other
handle names what it named before. -/
theorem pick_append_eq :
    h.pick tag (xs ++ ys) =
      if h ∈ range tag xs.size ys.size then ys[h.index - xs.size]? else h.pick tag xs := by
  unfold pick
  by_cases tagged : h.graph = tag
  · by_cases inside : h.index < xs.size
    · have outside : h ∉ (range tag xs.size ys.size : List (Handle r)) := fun member =>
        absurd (mem_range.mp member).2.1 (by omega)
      simp [tagged, inside, outside, Array.getElem?_append_left inside]
    · by_cases member : h ∈ (range tag xs.size ys.size : List (Handle r))
      · simp [tagged, member, Array.getElem?_append_right (Nat.le_of_not_lt inside)]
      · have beyond : xs.size + ys.size ≤ h.index := by
          by_contra below
          exact member (mem_range.mpr ⟨tagged, by omega, by omega⟩)
        rw [Array.getElem?_eq_none (show (xs ++ ys).size ≤ h.index by simp; omega)]
        simp [tagged, member, Array.getElem?_eq_none (show xs.size ≤ h.index by omega)]
  · have outside : h ∉ (range tag xs.size ys.size : List (Handle r)) := fun member =>
      tagged (mem_range.mp member).1
    simp [tagged, outside]

theorem pick_eq_none_of_mem_range {count : Nat} (member : h ∈ range tag xs.size count) :
    h.pick tag xs = none := by
  obtain ⟨_, beyond, _⟩ := mem_range.mp member
  simp [pick, Array.getElem?_eq_none beyond]

theorem exists_pick_of_mem_range (xs : Array α) (member : h ∈ range tag xs.size ys.size) :
    ∃ a ∈ ys, h.pick tag (xs ++ ys) = some a := by
  obtain ⟨tagged, lower, upper⟩ := mem_range.mp member
  have inside : h.index - xs.size < ys.size := by omega
  refine ⟨ys[h.index - xs.size], Array.getElem_mem inside, pick_eq_some.mpr ⟨tagged, ?_⟩⟩
  rw [Array.getElem?_append_right lower]
  exact Array.getElem?_eq_getElem inside

/-- When every appended entry maps to `b`, the appended handles are exactly those that now
map to `b`; the others map as before. -/
theorem map_pick_append {f : α → β} {b : β} (fresh : ∀ a ∈ ys, f a = b) :
    (h.pick tag (xs ++ ys)).map f =
      if h ∈ range tag xs.size ys.size then some b else (h.pick tag xs).map f := by
  split
  · next member =>
      obtain ⟨a, mem, found⟩ := exists_pick_of_mem_range xs member
      rw [found, Option.map_some, fresh a mem]
  · next outside => rw [pick_append_eq, if_neg outside]

theorem pick_push :
    h.pick tag (xs.push a) =
      if h.graph = tag ∧ h.index = xs.size then some a else h.pick tag xs := by
  unfold pick
  by_cases tagged : h.graph = tag <;> simp [tagged, Array.getElem?_push]

theorem pick_modify (k : Nat) (f : α → α) :
    h.pick tag (xs.modify k f) = if h.index = k then (h.pick tag xs).map f else h.pick tag xs := by
  unfold pick
  by_cases tagged : h.graph = tag
  · by_cases here : h.index = k
    · simp [tagged, here, Array.getElem?_modify]
    · simp [tagged, here, Ne.symm here, Array.getElem?_modify]
  · simp [tagged]

theorem pick_tag (found : h.pick tag xs = some a) : h.graph = tag :=
  (pick_eq_some.mp found).1

theorem eq_iff {k : Handle r} : h = k ↔ h.graph = k.graph ∧ h.index = k.index := by
  cases h
  cases k
  simp

/-- Rewriting the entry a handle names changes what that handle names and nothing else. -/
theorem pick_modify_at {k : Handle r} (found : k.pick tag xs = some a) (f : α → α) :
    h.pick tag (xs.modify k.index f) = if h = k then some (f a) else h.pick tag xs := by
  rw [pick_modify]
  by_cases same : h = k
  · subst same
    simp [found]
  · by_cases here : h.index = k.index
    · have foreign : h.graph ≠ tag := fun tagged =>
        same (eq_iff.mpr ⟨by rw [tagged, pick_tag found], here⟩)
      simp [same, here, pick, foreign]
    · simp [same, here]

end Handle

namespace NodeKind

/-- The ports of a node of one role, in order. -/
def ports : (r : Role) → NodeKind → List (Handle r)
  | .node, _ => []
  | .input, kind => kind.inputs
  | .output, kind => kind.outputs
  | .enter, kind => kind.enters
  | .exit, kind => kind.exits

/-- The inputs an expression node declares, with their symbols; other nodes declare
none. -/
def declared : NodeKind → List (String × InputId)
  | .expression _ inputs .. => inputs
  | _ => []

/-- An expression node lists as its input ports the ports of its symbols, in the order they
were declared; the ports of other nodes are fixed by their kind. -/
def InputsDeclared : NodeKind → Prop
  | .expression _ inputs ports .. => ports = inputs.map (·.2)
  | _ => True

end NodeKind

namespace Graph

/-- The node that the port of a handle names as its own. -/
def portNode? (g : Graph) : (r : Role) → Handle r → Option NodeId
  | .node, _ => none
  | .input, h => (g.input? h).map (·.node)
  | .output, h => (g.output? h).map (·.node)
  | .enter, h => (g.enter? h).map (·.node)
  | .exit, h => (g.exit? h).map (·.node)

theorem node?_eq_pick (g : Graph) (h : NodeId) : g.node? h = h.pick g.tag g.nodes := rfl
theorem input?_eq_pick (g : Graph) (h : InputId) : g.input? h = h.pick g.tag g.inputs := rfl
theorem output?_eq_pick (g : Graph) (h : OutputId) : g.output? h = h.pick g.tag g.outputs := rfl
theorem enter?_eq_pick (g : Graph) (h : EnterId) : g.enter? h = h.pick g.tag g.enters := rfl
theorem exit?_eq_pick (g : Graph) (h : ExitId) : g.exit? h = h.pick g.tag g.exits := rfl

/-- A graph whose two records of its wiring agree and whose stored handles all name
objects of the graph. -/
structure WellFormed (g : Graph) : Prop where
  /-- every node is stored under its own handle -/
  node_id : ∀ {m : NodeId} {n : Node}, g.node? m = some n → n.id = m
  /-- the node a port names lists the port exactly once among its ports of that role -/
  owner : ∀ {r : Role} {h : Handle r} {m : NodeId}, g.portNode? r h = some m →
    ∃ n, g.node? m = some n ∧ (n.kind.ports r).count h = 1
  /-- every port a node lists is a port of the graph that names the node -/
  listed : ∀ {m : NodeId} {n : Node}, g.node? m = some n →
    ∀ {r : Role} {h : Handle r}, h ∈ n.kind.ports r → g.portNode? r h = some m
  /-- a bound input is in the list of its output -/
  input_target : ∀ {i : InputId} {p : InputPort} {o : OutputId}, g.input? i = some p →
    p.target = some o → ∃ q, g.output? o = some q ∧ i ∈ q.targets
  /-- an output lists each input it feeds once -/
  targets_nodup : ∀ {o : OutputId} {q : OutputPort}, g.output? o = some q → q.targets.Nodup
  /-- every input an output feeds is bound to it -/
  target_bound : ∀ {o : OutputId} {q : OutputPort} {i : InputId}, g.output? o = some q →
    i ∈ q.targets → ∃ p, g.input? i = some p ∧ p.target = some o
  /-- an exit leads to an enter port of the graph -/
  exit_target : ∀ {x : ExitId} {p : ExitPort} {e : EnterId}, g.exit? x = some p →
    p.target = some e → ∃ q, g.enter? e = some q
  /-- an expression node declares each symbol once, on an input named by it -/
  symbols : ∀ {m : NodeId} {n : Node}, g.node? m = some n →
    (n.kind.declared.map (·.1)).Nodup ∧
      ∀ {s : String} {i : InputId}, (s, i) ∈ n.kind.declared → ∃ p, g.input? i = some p ∧ p.name = s
  /-- an expression node's input ports are the ports of its symbols, in order -/
  inputs_declared : ∀ {m : NodeId} {n : Node}, g.node? m = some n → n.kind.InputsDeclared

theorem empty_wellFormed (tag : Nat) (name : String) : (Graph.empty tag name).WellFormed where
  node_id found := by simp [node?, Graph.empty] at found
  owner {r} _ _ found := by
    cases r <;> simp [portNode?, input?, output?, enter?, exit?, Graph.empty] at found
  listed found := by simp [node?, Graph.empty] at found
  input_target found := by simp [input?, Graph.empty] at found
  targets_nodup found := by simp [output?, Graph.empty] at found
  target_bound found := by simp [output?, Graph.empty] at found
  exit_target found := by simp [exit?, Graph.empty] at found
  symbols found := by simp [node?, Graph.empty] at found
  inputs_declared found := by simp [node?, Graph.empty] at found

namespace WellFormed

variable {g : Graph} (wf : g.WellFormed)
include wf

/-- A port a node lists is listed by no other node. -/
theorem listed_unique {r : Role} {h : Handle r} {m m' : NodeId} {n n' : Node}
    (found : g.node? m = some n) (found' : g.node? m' = some n')
    (member : h ∈ n.kind.ports r) (member' : h ∈ n'.kind.ports r) : m = m' := by
  have named := wf.listed found member
  rw [wf.listed found' member'] at named
  exact (Option.some.inj named).symm

/-- A node lists each of its ports once. -/
theorem ports_nodup {m : NodeId} {n : Node} (found : g.node? m = some n) (r : Role) :
    (n.kind.ports r).Nodup := by
  rw [List.nodup_iff_count_le_one]
  intro h
  by_cases member : h ∈ n.kind.ports r
  · obtain ⟨n', found', once⟩ := wf.owner (wf.listed found member)
    rw [found] at found'
    cases found'
    exact Nat.le_of_eq once
  · rw [List.count_eq_zero_of_not_mem member]
    exact Nat.zero_le 1

/-- A port is a member of the port list of the node it names. -/
theorem mem_owner {r : Role} {h : Handle r} {m : NodeId} (named : g.portNode? r h = some m) :
    ∃ n, g.node? m = some n ∧ h ∈ n.kind.ports r := by
  obtain ⟨n, found, once⟩ := wf.owner named
  exact ⟨n, found, List.count_pos_iff.mp (by omega)⟩

theorem input_of_mem {m : NodeId} {n : Node} {i : InputId} (found : g.node? m = some n)
    (member : i ∈ n.kind.inputs) : ∃ p, g.input? i = some p ∧ p.node = m := by
  have named := wf.listed found (r := .input) member
  simp only [portNode?, Option.map_eq_some_iff] at named
  exact named

theorem output_of_mem {m : NodeId} {n : Node} {o : OutputId} (found : g.node? m = some n)
    (member : o ∈ n.kind.outputs) : ∃ q, g.output? o = some q ∧ q.node = m := by
  have named := wf.listed found (r := .output) member
  simp only [portNode?, Option.map_eq_some_iff] at named
  exact named

theorem enter_of_mem {m : NodeId} {n : Node} {e : EnterId} (found : g.node? m = some n)
    (member : e ∈ n.kind.enters) : ∃ p, g.enter? e = some p ∧ p.node = m := by
  have named := wf.listed found (r := .enter) member
  simp only [portNode?, Option.map_eq_some_iff] at named
  exact named

theorem exit_of_mem {m : NodeId} {n : Node} {x : ExitId} (found : g.node? m = some n)
    (member : x ∈ n.kind.exits) : ∃ p, g.exit? x = some p ∧ p.node = m := by
  have named := wf.listed found (r := .exit) member
  simp only [portNode?, Option.map_eq_some_iff] at named
  exact named

theorem node_of_input {i : InputId} {p : InputPort} (found : g.input? i = some p) :
    ∃ n, g.node? p.node = some n := by
  obtain ⟨n, owner, _⟩ := wf.owner (r := .input) (h := i) (m := p.node) (by simp [portNode?, found])
  exact ⟨n, owner⟩

theorem node_of_output {o : OutputId} {q : OutputPort} (found : g.output? o = some q) :
    ∃ n, g.node? q.node = some n := by
  obtain ⟨n, owner, _⟩ :=
    wf.owner (r := .output) (h := o) (m := q.node) (by simp [portNode?, found])
  exact ⟨n, owner⟩

/-- An enter port belongs to the enter ports of its node. -/
theorem node_of_enter {e : EnterId} {p : EnterPort} (found : g.enter? e = some p) :
    ∃ n, g.node? p.node = some n ∧ e ∈ n.kind.enters :=
  wf.mem_owner (r := .enter) (by simp [portNode?, found])

/-- An input names an output exactly when the output lists it. -/
theorem target_eq_some_iff {i : InputId} {p : InputPort} {o : OutputId} {q : OutputPort}
    (input : g.input? i = some p) (output : g.output? o = some q) :
    p.target = some o ↔ i ∈ q.targets := by
  constructor
  · intro bound
    obtain ⟨q', output', member⟩ := wf.input_target input bound
    rw [output] at output'
    cases output'
    exact member
  · intro member
    obtain ⟨p', input', bound⟩ := wf.target_bound output member
    rw [input] at input'
    cases input'
    exact bound

/-- An input named by an expression node's declaration is one of its inputs. -/
theorem input_of_declared {m : NodeId} {n : Node} {s : String} {i : InputId}
    (found : g.node? m = some n) (member : (s, i) ∈ n.kind.declared) :
    ∃ p, g.input? i = some p := by
  obtain ⟨p, port, _⟩ := (wf.symbols found).2 member
  exact ⟨p, port⟩

end WellFormed

end Graph

end Blueprint
