import Blueprint.Proofs.Flow.Defensive
import Blueprint.Proofs.Graph.WellFormed

/-!
# Clean computations

A computation of a run is *clean* from a context when it either fails with a fault that is
not defensive, or returns a value that satisfies a given postcondition together with the
context it leaves. Clean is a weakest precondition for `FlowM`: it distributes over `>>=`
(`clean_bind`), so the proof about a node's code follows the code line by line, and a
function's lemma is cited by its callers without unfolding it.

A computation is *calm* when it is clean from every context with the postcondition that the
stack is unchanged. Reading and sending values is calm on a well-formed graph, as is
evaluating an expression whose declared ports exist, with a tame registry.
-/

namespace Blueprint

namespace FlowM

variable {α β : Type} {ctx : Context}

/-- Run from `ctx`, the computation fails with a fault that is not defensive, or it returns
a value that, with the context it leaves, satisfies `post`. -/
def Clean (m : FlowM α) (ctx : Context) (post : α → Context → Prop) : Prop :=
  match m.run.run ctx with
  | (.ok a, after) => post a after
  | (.error e, _) => e.isDefensive = false

theorem run_bind (x : FlowM α) (f : α → FlowM β) (ctx : Context) :
    (x >>= f).run.run ctx =
      match x.run.run ctx with
      | (.ok a, c) => (f a).run.run c
      | (.error e, c) => (.error e, c) := by
  simp only [ExceptT.run_bind, StateT.run_bind]
  rcases x.run.run ctx with ⟨_ | a, c⟩ <;> rfl

section Runs

variable {ctx : Context}

@[simp] theorem run_pure (a : α) : (pure a : FlowM α).run.run ctx = (.ok a, ctx) := rfl

@[simp] theorem run_throw (e : Fault) : (throw e : FlowM α).run.run ctx = (.error e, ctx) := rfl

@[simp] theorem run_get : (get : FlowM Context).run.run ctx = (.ok ctx, ctx) := rfl

@[simp] theorem run_set (c : Context) : (set c : FlowM PUnit).run.run ctx = (.ok (), c) := rfl

@[simp] theorem run_modify (f : Context → Context) :
    (modify f : FlowM PUnit).run.run ctx = (.ok (), f ctx) := rfl

@[simp] theorem run_lift_ok (a : α) : (lift (.ok a) : FlowM α).run.run ctx = (.ok a, ctx) := rfl

@[simp] theorem run_lift_error (e : Fault) :
    (lift (.error e) : FlowM α).run.run ctx = (.error e, ctx) := rfl

end Runs

section Rules

variable {post : α → Context → Prop}

@[simp] theorem clean_pure (a : α) : Clean (pure a) ctx post ↔ post a ctx := Iff.rfl

@[simp] theorem clean_throw (e : Fault) :
    Clean (throw e : FlowM α) ctx post ↔ e.isDefensive = false := Iff.rfl

@[simp] theorem clean_get {post : Context → Context → Prop} :
    Clean get ctx post ↔ post ctx ctx := Iff.rfl

@[simp] theorem clean_set (c : Context) {post : PUnit → Context → Prop} :
    Clean (set c) ctx post ↔ post () c := Iff.rfl

@[simp] theorem clean_modify (f : Context → Context) {post : PUnit → Context → Prop} :
    Clean (modify f) ctx post ↔ post () (f ctx) := Iff.rfl

@[simp] theorem clean_bind (x : FlowM α) (f : α → FlowM β) {post : β → Context → Prop} :
    Clean (x >>= f) ctx post ↔ Clean x ctx fun a c => Clean (f a) c post := by
  unfold Clean
  rw [run_bind]
  rcases x.run.run ctx with ⟨_ | a, c⟩ <;> rfl

@[simp] theorem clean_lift_ok (a : α) : Clean (lift (.ok a)) ctx post ↔ post a ctx := Iff.rfl

@[simp] theorem clean_lift_error (e : Fault) :
    Clean (lift (.error e) : FlowM α) ctx post ↔ e.isDefensive = false := Iff.rfl

theorem clean_of_run_ok {m : FlowM α} {a : α} {after : Context}
    (ran : m.run.run ctx = (.ok a, after)) : Clean m ctx post ↔ post a after := by
  unfold Clean
  rw [ran]

theorem clean_of_run_error {m : FlowM α} {e : Fault} {after : Context}
    (ran : m.run.run ctx = (.error e, after)) : Clean m ctx post ↔ e.isDefensive = false := by
  unfold Clean
  rw [ran]

theorem Clean.mono {m : FlowM α} {post' : α → Context → Prop} (clean : Clean m ctx post)
    (weaker : ∀ a c, post a c → post' a c) : Clean m ctx post' := by
  unfold Clean at clean ⊢
  revert clean
  rcases m.run.run ctx with ⟨_ | a, c⟩
  · exact id
  · exact weaker a c

theorem Clean.of_ok {m : FlowM α} {a : α} {after : Context} (clean : Clean m ctx post)
    (ran : m.run.run ctx = (.ok a, after)) : post a after :=
  (clean_of_run_ok ran).mp clean

theorem Clean.of_error {m : FlowM α} {e : Fault} {after : Context} (clean : Clean m ctx post)
    (ran : m.run.run ctx = (.error e, after)) : e.isDefensive = false :=
  (clean_of_run_error ran).mp clean

end Rules

/-- A computation that never fails defensively and leaves the stack as it found it. -/
def Calm (m : FlowM α) : Prop :=
  ∀ ctx, m.Clean ctx fun _ after => after.stack = ctx.stack

theorem calm_pure (a : α) : Calm (pure a) := fun _ => rfl

theorem calm_throw {e : Fault} (mild : e.isDefensive = false) : Calm (throw e : FlowM α) :=
  fun _ => mild

theorem calm_lift {x : Except Fault α} (mild : Mild x) : Calm (lift x) := by
  intro ctx
  cases x with
  | ok a => rfl
  | error e => exact mild

/-- After a calm computation, a clean continuation from a context with the same stack. -/
theorem Calm.clean_bind {x : FlowM α} {f : α → FlowM β} {post : β → Context → Prop}
    (calm : Calm x) (rest : ∀ a c, c.stack = ctx.stack → Clean (f a) c post) :
    Clean (x >>= f) ctx post := by
  rw [FlowM.clean_bind]
  exact (calm ctx).mono rest

/-- A calm computation run from a context on `stack` is clean for a postcondition that holds
of every result and context left on `stack`. -/
theorem Calm.clean {x : FlowM α} {post : α → Context → Prop} {stack : List Frame}
    (calm : Calm x) (base : ctx.stack = stack) (rest : ∀ a c, c.stack = stack → post a c) :
    Clean x ctx post :=
  (calm ctx).mono fun a c same => rest a c (same.trans base)

theorem Calm.bind {x : FlowM α} {f : α → FlowM β} (calm : Calm x) (rest : ∀ a, Calm (f a)) :
    Calm (x >>= f) := by
  intro ctx
  apply calm.clean_bind
  intro a c same
  apply (rest a c).mono
  intro _ after kept
  rw [kept, same]

end FlowM

open FlowM

/-! ## Resolving handles

A handle that resolves is read without effect; one that does not fails defensively, so a
clean look-up is one that finds its object. -/

namespace Graph

variable {α : Type} {g : Graph} {ctx : Context}

theorem resolveNode_eq_ok {id : NodeId} {n : Node} (found : g.node? id = some n) :
    g.resolveNode id = .ok n := by
  rw [resolveNode, found]
  rfl

theorem resolveInput_eq_ok {id : InputId} {p : InputPort} (found : g.input? id = some p) :
    g.resolveInput id = .ok p := by
  rw [resolveInput, found]
  rfl

theorem resolveOutput_eq_ok {id : OutputId} {o : OutputPort} (found : g.output? id = some o) :
    g.resolveOutput id = .ok o := by
  rw [resolveOutput, found]
  rfl

theorem resolveEnter_eq_ok {id : EnterId} {p : EnterPort} (found : g.enter? id = some p) :
    g.resolveEnter id = .ok p := by
  rw [resolveEnter, found]
  rfl

theorem resolveExit_eq_ok {id : ExitId} {x : ExitPort} (found : g.exit? id = some x) :
    g.resolveExit id = .ok x := by
  rw [resolveExit, found]
  rfl

@[simp] theorem clean_resolveNode {id : NodeId} {post : Node → Context → Prop} :
    Clean (lift (g.resolveNode id)) ctx post ↔ ∃ n, g.node? id = some n ∧ post n ctx := by
  unfold resolveNode
  cases g.node? id with
  | none => exact iff_of_false Bool.noConfusion (by simp)
  | some n => exact (clean_lift_ok n).trans (by simp)

@[simp] theorem clean_resolveInput {id : InputId} {post : InputPort → Context → Prop} :
    Clean (lift (g.resolveInput id)) ctx post ↔ ∃ p, g.input? id = some p ∧ post p ctx := by
  unfold resolveInput
  cases g.input? id with
  | none => exact iff_of_false Bool.noConfusion (by simp)
  | some p => exact (clean_lift_ok p).trans (by simp)

@[simp] theorem clean_resolveOutput {id : OutputId} {post : OutputPort → Context → Prop} :
    Clean (lift (g.resolveOutput id)) ctx post ↔ ∃ o, g.output? id = some o ∧ post o ctx := by
  unfold resolveOutput
  cases g.output? id with
  | none => exact iff_of_false Bool.noConfusion (by simp)
  | some o => exact (clean_lift_ok o).trans (by simp)

@[simp] theorem clean_resolveEnter {id : EnterId} {post : EnterPort → Context → Prop} :
    Clean (lift (g.resolveEnter id)) ctx post ↔ ∃ p, g.enter? id = some p ∧ post p ctx := by
  unfold resolveEnter
  cases g.enter? id with
  | none => exact iff_of_false Bool.noConfusion (by simp)
  | some p => exact (clean_lift_ok p).trans (by simp)

@[simp] theorem clean_resolveExit {id : ExitId} {post : ExitPort → Context → Prop} :
    Clean (lift (g.resolveExit id)) ctx post ↔ ∃ x, g.exit? id = some x ∧ post x ctx := by
  unfold resolveExit
  cases g.exit? id with
  | none => exact iff_of_false Bool.noConfusion (by simp)
  | some x => exact (clean_lift_ok x).trans (by simp)

end Graph

/-! ## Reading and sending values -/

namespace Flow

variable {g : Graph}

section Reads

variable (wf : g.WellFormed)
include wf

/-- Reading an input of the graph is calm: its output and the output's node exist. -/
theorem input_calm {port : InputId} {p : InputPort} (found : g.input? port = some p) :
    Calm (input g port) := by
  intro ctx
  simp only [input, FlowM.clean_bind, Graph.clean_resolveInput]
  refine ⟨p, found, ?_⟩
  cases bound : p.target with
  | none =>
      cases p.default with
      | some v => rfl
      | none => rfl
  | some source =>
      obtain ⟨o, output, _⟩ := wf.input_target found bound
      obtain ⟨n, node⟩ := wf.node_of_output output
      simp only [FlowM.clean_bind, Graph.clean_resolveOutput, Graph.clean_resolveNode,
        FlowM.clean_get]
      refine ⟨o, output, n, node, ?_⟩
      cases n.offered ctx.symbols source with
      | some v => rfl
      | none => rfl

/-- Delivering a value to inputs of the graph is calm. -/
theorem deliver_calm (v : Value) :
    ∀ {targets : List InputId}, (∀ i ∈ targets, ∃ p, g.input? i = some p) →
      Calm (deliver g v targets)
  | [], _ => calm_pure ()
  | target :: rest, exist => by
      intro ctx
      obtain ⟨p, found⟩ := exist target List.mem_cons_self
      obtain ⟨n, node⟩ := wf.node_of_input found
      simp only [deliver, FlowM.clean_bind, Graph.clean_resolveInput, Graph.clean_resolveNode,
        FlowM.clean_modify]
      refine ⟨p, found, n, node, ?_⟩
      exact deliver_calm v (fun i member => exist i (List.mem_cons_of_mem _ member)) _

/-- Sending a value on an output of the graph is calm: it reaches inputs of the graph. -/
theorem output_calm {port : OutputId} {o : OutputPort} (found : g.output? port = some o)
    (v : Value) : Calm (output g port v) := by
  intro ctx
  simp only [output, FlowM.clean_bind, Graph.clean_resolveOutput, FlowM.clean_modify]
  refine ⟨o, found, ?_⟩
  have targets : ∀ i ∈ o.targets, ∃ p, g.input? i = some p := fun i member =>
    (wf.target_bound found member).imp fun _ => And.left
  exact deliver_calm wf v targets _

theorem readCondition_calm {port : InputId} {p : InputPort} (found : g.input? port = some p) :
    Calm (readCondition g port) := by
  refine (input_calm wf found).bind fun v => ?_
  rcases v with _ | (_ | _ | _ | _ | _)
  · exact calm_pure false
  · exact calm_pure _
  all_goals exact calm_throw rfl

theorem readRequired_calm {port : InputId} {p : InputPort} (found : g.input? port = some p) :
    Calm (readRequired g port) := by
  refine (input_calm wf found).bind fun v => ?_
  cases v with
  | some v => exact calm_pure v
  | none => exact calm_throw rfl

theorem readNumber_calm {port : InputId} {p : InputPort} (found : g.input? port = some p) :
    Calm (readNumber g port) := by
  refine (readRequired_calm wf found).bind fun v => ?_
  cases v with
  | number x => exact calm_pure x
  | bool _ | text _ | array _ | entity _ => exact calm_throw rfl

end Reads

end Flow

/-! ## Expressions -/

namespace Expr

variable {s : Scope} {inputs : List (String × InputId)}

/-- A symbol is looked up among the declared inputs. -/
theorem lookupInput_mem {symbol : String} {port : InputId}
    (found : lookupInput inputs symbol = some port) : ∃ name, (name, port) ∈ inputs := by
  obtain ⟨entry, first, rfl⟩ := Option.map_eq_some_iff.mp found
  exact ⟨entry.1, List.mem_of_find?_eq_some first⟩

mutual

/-- Evaluating an expression is calm when the declared inputs are ports of a well-formed
graph and the registry is tame: it reads inputs, applies operators and calls builtins. -/
theorem evaluate_calm (wf : s.graph.WellFormed) (tame : s.builtins.Tame)
    (declared : ∀ entry ∈ inputs, ∃ p, s.graph.input? entry.2 = some p) :
    ∀ e : Expr, Calm (e.evaluate s inputs)
  | .const v => calm_pure v
  | .input symbol => by
      simp only [evaluate]
      cases found : lookupInput inputs symbol with
      | none => exact calm_throw rfl
      | some port =>
          obtain ⟨name, member⟩ := lookupInput_mem found
          obtain ⟨p, resolved⟩ := declared _ member
          refine (Flow.input_calm wf resolved).bind fun v => ?_
          cases v with
          | some v => exact calm_pure v
          | none => exact calm_throw rfl
  | .unary _ none => by
      simp only [evaluate]
      exact calm_throw rfl
  | .unary op (some e) => by
      simp only [evaluate]
      exact (evaluate_calm wf tame declared e).bind fun v => calm_lift (op.apply_mild v)
  | .binary op (some l) (some r) => by
      simp only [evaluate]
      exact (evaluate_calm wf tame declared l).bind fun a =>
        (evaluate_calm wf tame declared r).bind fun b => calm_lift (op.apply_mild a b)
  | .binary _ none _ | .binary _ (some _) none => by
      simp only [evaluate]
      exact calm_throw rfl
  | .call symbol args => by
      simp only [evaluate]
      exact (evaluateAll_calm wf tame declared args).bind fun vs =>
        calm_lift (tame.call_mild symbol vs)

theorem evaluateAll_calm (wf : s.graph.WellFormed) (tame : s.builtins.Tame)
    (declared : ∀ entry ∈ inputs, ∃ p, s.graph.input? entry.2 = some p) :
    ∀ es : List Expr, Calm (evaluateAll s inputs es)
  | [] => calm_pure []
  | e :: rest => by
      simp only [evaluateAll]
      exact (evaluate_calm wf tame declared e).bind fun v =>
        (evaluateAll_calm wf tame declared rest).bind fun vs => calm_pure (v :: vs)

end

end Expr

end Blueprint
