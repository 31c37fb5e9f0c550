import Blueprint.Proofs.Flow.Effects

/-!
# Failures

A run catches no failure: `FlowM` stops at the first `throw` and keeps the context as it was
then, and `Interpreter.executeWithin` reports that context as it is. So a failed call reports
the first failure raised, either by the call's preparation or by one step from a state the call
reached by steps that succeeded (`Interpreter.executeWithin_eq_failed`).

The preparation checks the entry, the number of arguments and, when asked to, their types, in
this order and before it sends any argument; a call that fails one of these checks reports the
fresh context it started from. The type check reports the first argument that its parameter
rejects (`checkArguments_of_firstRejected`). Otherwise the preparation can fail only on a
foreign port or an unwired entry exit (`prepare_spec_unvalidated`), so without validation no
argument is ever rejected.
-/

namespace Blueprint

open FlowM

namespace Graph

variable {g : Graph} {e : Fault}

/-! A handle that names nothing of the graph fails as a foreign object, named by its role. -/

theorem resolveNode_eq_error {h : NodeId} (refused : g.resolveNode h = .error e) :
    e = .foreignObject "node" := by
  unfold resolveNode at refused
  split at refused <;> cases refused
  rfl

theorem resolveInput_eq_error {h : InputId} (refused : g.resolveInput h = .error e) :
    e = .foreignObject "input port" := by
  unfold resolveInput at refused
  split at refused <;> cases refused
  rfl

theorem resolveOutput_eq_error {h : OutputId} (refused : g.resolveOutput h = .error e) :
    e = .foreignObject "output port" := by
  unfold resolveOutput at refused
  split at refused <;> cases refused
  rfl

theorem resolveExit_eq_error {h : ExitId} (refused : g.resolveExit h = .error e) :
    e = .foreignObject "exit port" := by
  unfold resolveExit at refused
  split at refused <;> cases refused
  rfl

end Graph

namespace Flow

/-- The first argument that its parameter rejects: the one at `j`, every earlier argument being
accepted by its parameter. -/
def FirstRejected (params : List DataType) (args : List Value) (j : Nat) (t : DataType)
    (v : Value) : Prop :=
  params[j]? = some t ∧ args[j]? = some v ∧ t.accepts v = false ∧
    ∀ k < j, ∀ t' v', params[k]? = some t' → args[k]? = some v' → t'.accepts v' = true

theorem FirstRejected.tail {t₀ t : DataType} {v₀ v : Value} {ts : List DataType}
    {vs : List Value} {j : Nat} (first : FirstRejected (t₀ :: ts) (v₀ :: vs) (j + 1) t v) :
    t₀.accepts v₀ = true ∧ FirstRejected ts vs j t v := by
  obtain ⟨param, arg, rejected, earlier⟩ := first
  refine ⟨earlier 0 (Nat.succ_pos j) t₀ v₀ rfl rfl, param, arg, rejected, ?_⟩
  intro k below t' v' param' arg'
  exact earlier (k + 1) (Nat.succ_lt_succ below) t' v' param' arg'

/-- The type check fails at the first argument that its parameter rejects, counting from the
index it starts at. -/
theorem checkArguments_of_firstRejected :
    ∀ (index : Nat) {params : List DataType} {args : List Value} {j : Nat} {t : DataType}
      {v : Value}, FirstRejected params args j t v →
      checkArguments index params args = .error (.argumentType (index + j) t v.kindName)
  | index, t₀ :: ts, v₀ :: vs, 0, t, v, ⟨param, arg, rejected, _⟩ => by
      cases param
      cases arg
      simp [checkArguments, rejected]
      rfl
  | index, t₀ :: ts, v₀ :: vs, j + 1, t, v, first => by
      obtain ⟨accepted, rest⟩ := first.tail
      rw [checkArguments, if_pos accepted, checkArguments_of_firstRejected (index + 1) rest,
        Nat.add_right_comm, Nat.add_assoc]
  | _, [], _, _, _, _, ⟨param, _⟩ => by cases param
  | _, _ :: _, [], _, _, _, ⟨_, arg, _⟩ => by cases arg

/-! ## Preparing a call -/

section Prepare

variable {s : Scope} {validate : Bool} {f : FlowFunction} {args : List Value} {ctx : Context}

/-- An entry that is no node of the graph is refused before anything else. -/
theorem prepare_run_of_missing (missing : s.graph.node? f.entry = none) :
    (prepare s validate f args).run.run ctx = (.error (.foreignObject "node"), ctx) := by
  have refused : s.graph.resolveNode f.entry = .error (.foreignObject "node") := by
    rw [Graph.resolveNode, missing]
    rfl
  simp only [prepare, run_bind, refused, run_lift_error]

/-- An entry that is a node of another kind is refused before anything else. -/
theorem prepare_run_of_not_entry {n : Node} (found : s.graph.node? f.entry = some n)
    (notEntry : ∀ params outs exit, n.kind ≠ .entry params outs exit) :
    (prepare s validate f args).run.run ctx = (.error (.foreignObject "entry node"), ctx) := by
  simp only [prepare, run_bind, Graph.resolveNode_eq_ok found, run_lift_ok]
  rfl

section Entry

variable {n : Node} {params : List DataType} {outs : List OutputId} {exit : ExitId}
  (found : s.graph.node? f.entry = some n) (kind : n.kind = .entry params outs exit)
include found kind

/-- A call on a wrong number of arguments is refused before any is sent. -/
theorem prepare_run_of_miscount (count : args.length ≠ outs.length) :
    (prepare s validate f args).run.run ctx =
      (.error (.argumentCount outs.length args.length), ctx) := by
  simp only [prepare, run_bind, Graph.resolveNode_eq_ok found, run_lift_ok, kind]
  rw [if_pos count]
  rfl

/-- When arguments are validated, the first argument that its parameter rejects is reported
before any argument is sent. -/
theorem prepare_run_of_rejected (count : args.length = outs.length) {j : Nat} {t : DataType}
    {v : Value} (first : FirstRejected params args j t v) :
    (prepare s true f args).run.run ctx =
      (.error (.argumentType j t v.kindName), ctx) := by
  simp only [prepare, run_bind, Graph.resolveNode_eq_ok found, run_lift_ok, kind]
  rw [if_neg (fun miscount => miscount count), if_pos (by trivial), run_bind,
    checkArguments_of_firstRejected 0 first, run_lift_error, Nat.zero_add]

end Entry

/-- Past its checks, the preparation fails only on a foreign port or object, while sending the
arguments, or because the entry's exit leads nowhere. -/
def Unchecked (e : Fault) : Prop :=
  (∃ what, e = .foreignObject what) ∨ e = .flowInterrupted

theorem deliver_spec_foreign {g : Graph} (v : Value) :
    ∀ (targets : List InputId) (ctx : Context),
      Spec (deliver g v targets) ctx (fun _ _ => True) (fun e _ => ∃ what, e = .foreignObject what)
  | [], _ => trivial
  | target :: rest, ctx => by
      simp only [deliver, spec_bind]
      cases resolved : g.resolveInput target with
      | error e =>
          simp only [spec_lift_error]
          exact ⟨_, Graph.resolveInput_eq_error resolved⟩
      | ok p =>
          simp only [spec_lift_ok]
          cases node : g.resolveNode p.node with
          | error e =>
              simp only [spec_lift_error]
              exact ⟨_, Graph.resolveNode_eq_error node⟩
          | ok n =>
              simp only [spec_lift_ok, spec_modify]
              exact deliver_spec_foreign v rest _

theorem sendArguments_spec_foreign {g : Graph} :
    ∀ (outs : List OutputId) (vs : List Value) (ctx : Context),
      Spec (sendArguments g outs vs) ctx (fun _ _ => True)
        (fun e _ => ∃ what, e = .foreignObject what)
  | port :: ports, v :: vs, ctx => by
      simp only [sendArguments, output, spec_bind]
      cases resolved : g.resolveOutput port with
      | error e =>
          simp only [spec_lift_error]
          exact ⟨_, Graph.resolveOutput_eq_error resolved⟩
      | ok o =>
          simp only [spec_lift_ok, spec_modify]
          exact ((deliver_spec_foreign v o.targets _).mono
            (fun _ c _ => sendArguments_spec_foreign ports vs c) (fun _ _ foreign => foreign))
  | [], _, _ => trivial
  | _ :: _, [], _ => trivial

/-- Without validation, the preparation fails only on the entry, the count of arguments, a
foreign port or object, or an entry exit that leads nowhere: never on an argument's type. -/
theorem prepare_spec_unvalidated (ctx : Context) :
    Spec (prepare s false f args) ctx (fun _ _ => True)
      (fun e _ => (∃ expected actual, e = .argumentCount expected actual) ∨ Unchecked e) := by
  simp only [prepare, spec_bind]
  cases resolved : s.graph.resolveNode f.entry with
  | error e =>
      simp only [spec_lift_error]
      exact .inr (.inl ⟨_, Graph.resolveNode_eq_error resolved⟩)
  | ok n =>
      simp only [spec_lift_ok]
      split
      · split
        · simp only [spec_bind, spec_throw]
          exact .inl ⟨_, _, rfl⟩
        · simp only [Bool.false_eq_true, if_false, spec_bind]
          refine (sendArguments_spec_foreign _ args ctx).mono (fun _ c _ => ?_)
            (fun _ _ foreign => .inr (.inl foreign))
          cases exitFound : s.graph.resolveExit _ with
          | error e =>
              simp only [spec_lift_error]
              exact .inr (.inl ⟨_, Graph.resolveExit_eq_error exitFound⟩)
          | ok x =>
              simp only [spec_lift_ok]
              split
              · trivial
              · exact .inr (.inr rfl)
      · exact .inr (.inl ⟨_, rfl⟩)

end Prepare

end Flow

namespace Interpreter

variable {i : Interpreter} {f : FlowFunction} {args : List Value}

/-- A call whose preparation fails reports the failure with the context it left. -/
theorem executeWithin_of_unprepared (fuel : Nat) {e : Fault} {ctx : Context}
    (failed : (Flow.prepare ⟨f.graph, i.builtins⟩ i.settings.validateArguments f args).run.run
      (Context.start f.locals) = (.error e, ctx)) :
    i.executeWithin fuel f args = .failed (ctx.failure f.graph e) := by
  unfold executeWithin
  dsimp only
  rw [Flow.invoke_run_of_unprepared fuel failed]

/-- The context a call starts from, as a failure reports it. -/
theorem failure_start (g : Graph) (locals : OrderedMap String Value) (e : Fault) :
    (Context.start locals).failure g e = ⟨[], .empty, locals, e⟩ := rfl

/-- A failed call reports the first failure raised, with the context it was raised in, as it
was then: a failure of the call's preparation, or of one step from a state that the call reached
by steps that succeeded. An entry that is not an entry node of the graph, a number of arguments
other than the entry's outputs and, only when arguments are validated, an argument that its
parameter rejects are caught before any argument is sent: the failure then reports an empty
stack, an empty port log and the function's locals, and the rejected argument it names is the
first one. -/
theorem execute_failure_first_raised :
    (∀ {failure : Failure}, i.execute f args = .failed failure →
      (∃ e ctx, (Flow.prepare ⟨f.graph, i.builtins⟩ i.settings.validateArguments f args).run.run
          (Context.start f.locals) = (.error e, ctx) ∧ failure = ctx.failure f.graph e) ∨
      ∃ c ctx e ctx', i.Reachable f args c ctx ∧
        (Flow.step ⟨f.graph, i.builtins⟩ c).run.run ctx = (.error e, ctx') ∧
        failure = ctx'.failure f.graph e) ∧
    (f.graph.node? f.entry = none →
      i.execute f args = .failed ⟨[], .empty, f.locals, .foreignObject "node"⟩) ∧
    (∀ {n : Node}, f.graph.node? f.entry = some n →
      ((∀ params outs exit, n.kind ≠ .entry params outs exit) →
        i.execute f args = .failed ⟨[], .empty, f.locals, .foreignObject "entry node"⟩) ∧
      ∀ {params : List DataType} {outs : List OutputId} {exit : ExitId},
        n.kind = .entry params outs exit →
        (args.length ≠ outs.length →
          i.execute f args = .failed ⟨[], .empty, f.locals, .argumentCount outs.length args.length⟩) ∧
        (args.length = outs.length → i.settings.validateArguments = true →
          ∀ {j : Nat} {t : DataType} {v : Value}, Flow.FirstRejected params args j t v →
            i.execute f args = .failed ⟨[], .empty, f.locals, .argumentType j t v.kindName⟩)) ∧
    (i.settings.validateArguments = false → ∀ {e : Fault} {ctx : Context},
      (Flow.prepare ⟨f.graph, i.builtins⟩ false f args).run.run (Context.start f.locals) =
        (.error e, ctx) → ∀ index t found, e ≠ .argumentType index t found) := by
  refine ⟨executeWithin_eq_failed, fun missing => ?_, fun found => ⟨fun notEntry => ?_,
    fun kind => ⟨fun count => ?_, fun count validated => ?_⟩⟩, fun _ e ctx failed => ?_⟩
  · exact executeWithin_of_unprepared stepBudget (Flow.prepare_run_of_missing missing)
  · exact executeWithin_of_unprepared stepBudget (Flow.prepare_run_of_not_entry found notEntry)
  · exact executeWithin_of_unprepared stepBudget (Flow.prepare_run_of_miscount found kind count)
  · intro j t v first
    have rejected : (Flow.prepare ⟨f.graph, i.builtins⟩ true f args).run.run (Context.start f.locals) =
        (.error (.argumentType j t v.kindName), Context.start f.locals) :=
      Flow.prepare_run_of_rejected found kind count first
    rw [← validated] at rejected
    exact executeWithin_of_unprepared stepBudget rejected
  · -- without validation, the preparation fails on the count or past its checks
    have spec := (spec_of_run_error failed).mp (Flow.prepare_spec_unvalidated _)
    rintro index t found rfl
    rcases spec with ⟨_, _, miscounted⟩ | ⟨_, foreign⟩ | interrupted
    · cases miscounted
    · cases foreign
    · cases interrupted

/-- With validation, a call fails on its first argument that its parameter rejects, before any
is sent: on the first argument when that one is rejected, and on the second when only the first
is accepted. -/
theorem validated_call_reports_first_rejected_argument :
    let f : FlowFunction :=
      { symbol := "main", entry := ⟨0, 0⟩,
        graph := Graph.build 0 "main" [.addEntry [.number, .boolean]] }
    let i : Interpreter := { settings := { validateArguments := true } }
    i.execute f [.text "a", .text "b"] =
        .failed ⟨[], .empty, f.locals, .argumentType 0 .number "text"⟩ ∧
      i.execute f [.number 1.0, .text "b"] =
        .failed ⟨[], .empty, f.locals, .argumentType 1 .boolean "text"⟩ := by
  intro f i
  constructor
  · exact ((execute_failure_first_raised.2.2.1 rfl).2 rfl).2 rfl rfl (j := 0) (t := .number)
      (v := .text "a") ⟨rfl, rfl, rfl, fun k below => absurd below (Nat.not_lt_zero k)⟩
  · refine ((execute_failure_first_raised.2.2.1 rfl).2 rfl).2 rfl rfl (j := 1) (t := .boolean)
      (v := .text "b") ⟨rfl, rfl, rfl, ?_⟩
    -- the number before it is accepted
    intro k below t' v' param arg
    obtain rfl : k = 0 := by omega
    cases param
    cases arg
    rfl

end Interpreter

end Blueprint
