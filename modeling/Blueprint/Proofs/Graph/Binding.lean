import Blueprint.Proofs.Graph.Construction

/-!
# The order in which an output feeds its inputs

An output keeps the inputs it feeds in a list, and sending a value delivers it along that list.
The list is written by the attach calls of the graph's history: binding an input to an output
takes it off every list and appends it to the new output's, and binding it again to the output
it is bound to changes nothing.

Here a history of bindings specifies that list. `Edit.established` is the binding an edit
establishes: the input and output of an attach that succeeds on an input not bound to that
output already. `Graph.fanOut` reads an output's inputs off a history: the inputs whose latest
binding is to the output, in the order of those latest bindings. Main statement: in every graph
built by a sequence of edits, every output lists exactly the `fanOut` of the bindings its edits
established (`build_targets_eq_fanOut`).
-/

namespace Blueprint

namespace Graph

/-! ## Histories of bindings -/

/-- The latest binding of each input in a history, in the order of those bindings. -/
def latest : List (InputId × OutputId) → List (InputId × OutputId)
  | [] => []
  | b :: rest => if rest.any (·.1 == b.1) then latest rest else b :: latest rest

/-- The inputs an output feeds by a history of bindings: those whose latest binding is to the
output, in the order of those bindings. -/
def fanOut (history : List (InputId × OutputId)) (o : OutputId) : List InputId :=
  (latest history).filterMap fun b => if b.2 = o then some b.1 else none

theorem mem_of_mem_latest {history : List (InputId × OutputId)} {b : InputId × OutputId}
    (member : b ∈ latest history) : b ∈ history := by
  induction history with
  | nil => cases member
  | cons a rest ih =>
      unfold latest at member
      split at member
      · exact List.mem_cons_of_mem a (ih member)
      · rcases List.mem_cons.mp member with rfl | later
        · exact List.mem_cons_self
        · exact List.mem_cons_of_mem a (ih later)

/-- A new binding replaces the input's earlier one and comes last. -/
theorem latest_append_singleton (history : List (InputId × OutputId)) (b : InputId × OutputId) :
    latest (history ++ [b]) = (latest history).filter (·.1 != b.1) ++ [b] := by
  induction history with
  | nil => simp [latest]
  | cons a rest ih =>
      simp only [List.cons_append, latest, List.any_append, List.any_cons, List.any_nil,
        Bool.or_false, ih]
      by_cases again : rest.any (·.1 == a.1) = true
      · simp [again]
      · by_cases same : b.1 = a.1
        · simp [again, same]
        · simp [again, same, Ne.symm same]

/-- An output's inputs after one more binding: the bound input leaves every list and joins the
end of its new output's. -/
theorem fanOut_append_singleton (history : List (InputId × OutputId)) (i : InputId)
    (o o' : OutputId) :
    fanOut (history ++ [(i, o)]) o' =
      (fanOut history o').filter (· != i) ++ if o' = o then [i] else [] := by
  unfold fanOut
  rw [latest_append_singleton, List.filterMap_append, List.filterMap_filter, List.filter_filterMap]
  congr 1
  · congr 1
    funext b
    by_cases onto : b.2 = o' <;> by_cases same : b.1 = i <;> simp [onto, same, Option.filter]
  · by_cases onto : o' = o
    · simp [onto]
    · simp [onto, Ne.symm onto]

/-- An output that no binding of a history names feeds no input by it. -/
theorem fanOut_eq_nil {history : List (InputId × OutputId)} {o : OutputId}
    (unnamed : ∀ b ∈ history, b.2 ≠ o) : fanOut history o = [] := by
  unfold fanOut
  rw [List.filterMap_eq_nil_iff]
  intro b member
  simp [unnamed b (mem_of_mem_latest member)]

end Graph

/-! ## The bindings edits establish -/

namespace Graph.Edit

/-- The input and output that an edit binds, looked up as the edit looks them up. -/
def binding? (g : Graph) : Edit → Option (InputId × OutputId)
  | .attach input output => some (input, output)
  | .attachNodes source outputIndex target inputIndex =>
    match g.nodePort source outputIndex NodeKind.outputs,
      g.nodePort target inputIndex NodeKind.inputs with
    | .ok output, .ok input => some (input, output)
    | _, _ => none
  | _ => none

/-- The binding an edit establishes: that of an attach which is carried out on an input not
bound to its output already. -/
def established (e : Edit) (g : Graph) : List (InputId × OutputId) :=
  match e.binding? g with
  | some b => if (e.run g).isOk ∧ (g.input? b.1).bind (·.target) ≠ some b.2 then [b] else []
  | none => []

end Graph.Edit

namespace Graph

/-- The bindings that a sequence of edits establishes from a graph, in order. -/
def history (g : Graph) : List Edit → List (InputId × OutputId)
  | [] => []
  | e :: rest => e.established g ++ history (e.apply g) rest

/-- The bindings established while a graph is built. -/
def buildHistory (tag : Nat) (name : String) (edits : List Edit) : List (InputId × OutputId) :=
  history (Graph.empty tag name) edits

/-- The outputs of a graph feed their inputs as a history of bindings says, and every output
the history names is an output of the graph. -/
structure FollowsHistory (g : Graph) (history : List (InputId × OutputId)) : Prop where
  targets : ∀ {o q}, g.output? o = some q → q.targets = fanOut history o
  named : ∀ b ∈ history, (g.output? b.2).isSome

theorem followsHistory_empty (tag : Nat) (name : String) :
    (Graph.empty tag name).FollowsHistory [] where
  targets found := by simp [output?, Graph.empty] at found
  named _ member := by cases member

/-- Leading an exit somewhere leaves the outputs as they were. -/
theorem connect_tag_outputs {g g' : Graph} {exit : ExitId} {enter : EnterId}
    (done : g.connect exit enter = .ok g') : g'.tag = g.tag ∧ g'.outputs = g.outputs := by
  obtain ⟨_, done⟩ := Change.map_snd_result_eq_ok.mp done
  rw [Change.run_connect] at done
  split at done
  · cases done
  · cases done
  · cases done
    exact ⟨rfl, rfl⟩

namespace FollowsHistory

variable {g g' : Graph} {history : List (InputId × OutputId)}

/-- An edit that leaves every output as it was keeps the history's account. -/
theorem of_output? (follows : g.FollowsHistory history) (same : ∀ o, g'.output? o = g.output? o) :
    g'.FollowsHistory history where
  targets found := follows.targets (by rw [← same]; exact found)
  named b member := by rw [same]; exact follows.named b member

theorem of_outputs (follows : g.FollowsHistory history) (tag : g'.tag = g.tag)
    (outputs : g'.outputs = g.outputs) : g'.FollowsHistory history :=
  follows.of_output? fun o => by rw [output?_eq_pick, output?_eq_pick, tag, outputs]

/-- A new node's outputs feed nothing, and no binding names them. -/
theorem grow {n : Node} (follows : g.FollowsHistory history) (grows : Grows g g' n) :
    g'.FollowsHistory history where
  targets {o q} found := by
    cases old : g.output? o with
    | some q₀ =>
        rw [grows.output?_of_old old] at found
        cases found
        exact follows.targets old
    | none =>
        rcases grows.output?_cases found with stale | fresh
        · rw [old] at stale
          cases stale
        · rw [fresh, fanOut_eq_nil]
          intro b member named
          have present := follows.named b member
          rw [named, old] at present
          cases present
  named b member := by
    obtain ⟨q, found⟩ := Option.isSome_iff_exists.mp (follows.named b member)
    rw [grows.output?_of_old found]
    rfl

/-- An attach that succeeds is the history's next binding, unless the input was bound to the
output already. -/
theorem attach (wf : g.WellFormed) (follows : g.FollowsHistory history) {i : InputId}
    {o : OutputId} (done : g.attach i o = .ok g') :
    g'.FollowsHistory
      (history ++ if (g.input? i).bind (·.target) ≠ some o then [(i, o)] else []) := by
  rcases attach_cases wf done with ⟨same, p, inputFound, bound⟩ | ⟨p, q, inputFound, outputFound,
    elsewhere, _, _, _, _, _, outputs⟩
  · rw [same, inputFound]
    simp only [Option.bind_some, bound, ne_eq, not_true_eq_false, if_false, List.append_nil]
    exact follows
  · rw [inputFound]
    simp only [Option.bind_some, ne_eq, elsewhere, not_false_eq_true, if_true]
    constructor
    · intro o' q' found
      rw [outputs] at found
      obtain ⟨q₀, old, rfl⟩ := Option.map_eq_some_iff.mp found
      rw [follows.targets old, fanOut_append_singleton]
    · intro b member
      rw [outputs]
      rcases List.mem_append.mp member with old | new
      · simpa using follows.named b old
      · rw [List.mem_singleton.mp new]
        simp [outputFound]

/-- An edit that binds nothing establishes nothing; it keeps the history's account when every
graph it makes does. -/
theorem of_unbinding (follows : g.FollowsHistory history) {e : Edit} (unbinding : e.binding? g = none)
    (kept : ∀ {g'}, e.run g = .ok g' → g'.FollowsHistory history) :
    (e.apply g).FollowsHistory (history ++ e.established g) := by
  simp only [Edit.established, unbinding, List.append_nil, Edit.apply_eq]
  split
  · next g' ran => exact kept ran
  · exact follows

/-- An edit that binds an input to an output establishes the binding exactly when it binds an
input to an output it was not bound to. -/
theorem of_attach (wf : g.WellFormed) (follows : g.FollowsHistory history) {e : Edit}
    {i : InputId} {o : OutputId} (binding : e.binding? g = some (i, o))
    (attaching : e.run g = g.attach i o) :
    (e.apply g).FollowsHistory (history ++ e.established g) := by
  simp only [Edit.established, binding, Edit.apply_eq, attaching]
  cases done : g.attach i o with
  | error err =>
      simp only [Except.isOk, Except.toBool, Bool.false_eq_true, false_and, if_false,
        List.append_nil]
      exact follows
  | ok g' =>
      simp only [Except.isOk, Except.toBool, true_and]
      exact attach wf follows done

/-- Every edit keeps the history's account, with the binding it establishes appended. -/
theorem edit (wf : g.WellFormed) (follows : g.FollowsHistory history) (e : Edit) :
    (e.apply g).FollowsHistory (history ++ e.established g) := by
  cases e with
  | addEntry params =>
      refine follows.of_unbinding rfl fun ran => ?_
      cases ran
      exact follows.grow (addEntry_grows g params).choose_spec
  | addEnd returnType =>
      refine follows.of_unbinding rfl fun ran => ?_
      cases ran
      exact follows.grow (addEnd_grows g returnType).choose_spec
  | addVar symbol =>
      refine follows.of_unbinding rfl fun ran => ?_
      cases ran
      exact follows.grow (addVar_grows g symbol).choose_spec
  | addIf =>
      refine follows.of_unbinding rfl fun ran => ?_
      cases ran
      exact follows.grow (addIf_grows g).choose_spec
  | addWhile =>
      refine follows.of_unbinding rfl fun ran => ?_
      cases ran
      exact follows.grow (addWhile_grows g).choose_spec
  | addFor =>
      refine follows.of_unbinding rfl fun ran => ?_
      cases ran
      exact follows.grow (addFor_grows g).choose_spec
  | addForOf =>
      refine follows.of_unbinding rfl fun ran => ?_
      cases ran
      exact follows.grow (addForOf_grows g).choose_spec
  | addExpression =>
      refine follows.of_unbinding rfl fun ran => ?_
      cases ran
      exact follows.grow (addExpression_grows g).choose_spec
  | addExpressionInput node symbol =>
      refine follows.of_unbinding rfl fun ran => ?_
      cases declared : g.addExpressionInput node symbol with
      | error err =>
          simp only [Edit.run, declared] at ran
          cases ran
      | ok result =>
          simp only [Edit.run, declared] at ran
          cases ran
          obtain ⟨_, _, d⟩ := addExpressionInput_declares declared
          exact follows.of_output? d.output?
  | setExpression node expr =>
      refine follows.of_unbinding rfl fun ran => ?_
      obtain ⟨_, ran⟩ := Change.map_snd_result_eq_ok.mp ran
      rw [Change.run_setExpression] at ran
      split at ran
      · cases ran
      · split at ran
        · cases ran
          exact follows.of_outputs rfl rfl
        · cases ran
  | attach input output => exact follows.of_attach wf rfl rfl
  | attachNodes source outputIndex target inputIndex =>
      cases outputFound : g.nodePort source outputIndex NodeKind.outputs with
      | error err =>
          refine follows.of_unbinding (by simp only [Edit.binding?, outputFound]) fun ran => ?_
          simp only [Edit.run, attachNodes_eq, outputFound] at ran
          cases ran
      | ok output =>
          cases inputFound : g.nodePort target inputIndex NodeKind.inputs with
          | error err =>
              refine follows.of_unbinding (by simp only [Edit.binding?, outputFound, inputFound])
                fun ran => ?_
              simp only [Edit.run, attachNodes_eq, outputFound, inputFound] at ran
              cases ran
          | ok input =>
              refine follows.of_attach (i := input) (o := output) wf
                (by simp only [Edit.binding?, outputFound, inputFound]) ?_
              simp only [Edit.run, attachNodes_eq, outputFound, inputFound]
              rfl
  | connect exit enter =>
      refine follows.of_unbinding rfl fun ran => ?_
      exact follows.of_outputs (connect_tag_outputs ran).1 (connect_tag_outputs ran).2
  | connectSubline exit enter =>
      refine follows.of_unbinding rfl fun ran => ?_
      simp only [Edit.run, connectSubline_eq] at ran
      split at ran
      · cases ran
      · split at ran
        · cases ran
        · exact follows.of_outputs (connect_tag_outputs ran).1 (connect_tag_outputs ran).2
  | connectNodes source exitIndex target enterIndex =>
      refine follows.of_unbinding rfl fun ran => ?_
      simp only [Edit.run, connectNodes_eq] at ran
      cases exitFound : g.nodePort source exitIndex NodeKind.exits with
      | error err =>
          rw [exitFound] at ran
          cases ran
      | ok exit =>
          cases enterFound : g.nodePort target enterIndex NodeKind.enters with
          | error err =>
              rw [exitFound, enterFound] at ran
              cases ran
          | ok enter =>
              rw [exitFound, enterFound] at ran
              exact follows.of_outputs (connect_tag_outputs ran).1 (connect_tag_outputs ran).2
  | setDefault input value =>
      refine follows.of_unbinding rfl fun ran => ?_
      obtain ⟨_, ran⟩ := Change.map_snd_result_eq_ok.mp ran
      rw [Change.run_setDefault] at ran
      split at ran
      · cases ran
      · cases ran
        exact follows.of_outputs rfl rfl

/-- A sequence of edits keeps the history's account, with the bindings it establishes
appended. -/
theorem foldl_apply (wf : g.WellFormed) (follows : g.FollowsHistory history) (edits : List Edit) :
    (edits.foldl (fun g e => e.apply g) g).FollowsHistory (history ++ Graph.history g edits) := by
  induction edits generalizing g history with
  | nil => simpa [Graph.history] using follows
  | cons e rest ih =>
      have next := ih (Edit.apply_wellFormed wf e) (follows.edit wf e)
      simpa [Graph.history, List.append_assoc] using next

end FollowsHistory

/-- In every graph built by a sequence of edits, refused ones included, every output feeds
exactly the inputs whose latest established binding is to it, in the order of those bindings:
a fresh binding comes last, a rebinding to the same output keeps its place, and a binding away
and back comes last again. -/
theorem build_targets_eq_fanOut (tag : Nat) (name : String) (edits : List Edit) {o : OutputId}
    {q : OutputPort} (found : (build tag name edits).output? o = some q) :
    q.targets = fanOut (buildHistory tag name edits) o :=
  ((followsHistory_empty tag name).foldl_apply (empty_wellFormed tag name) edits).targets found

end Graph

end Blueprint
