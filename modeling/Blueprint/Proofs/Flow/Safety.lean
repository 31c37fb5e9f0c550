import Blueprint.Proofs.Flow.Frames
import Blueprint.Proofs.Graph.Construction

/-!
# Runs never fail defensively

A run on a well-formed graph, from an entry node and with a tame registry, keeps
`Control.Sound` from step to step, so it never fails with one of the four defensive faults:
every handle it resolves names an object of the graph, every node it enters owns the port,
every node it resumes is a loop resuming its own frame, and unwinding always finds a live
frame or reports an interrupted main flow. The states a call passes through are given by
`Interpreter.Reachable`; `Proofs.Flow.Depth` reads off the invariant at them what the frames on
the stack are at the start of each node step.
-/

namespace Blueprint

open FlowM

namespace Flow

variable {g : Graph} {ctx : Context}

/-- An end node's return value is read calmly. -/
theorem returnValue_calm (wf : g.WellFormed) {m : NodeId} {n : Node}
    (found : g.node? m = some n) : Calm (n.returnValue g) := by
  unfold Node.returnValue
  split
  · next returnType port enter kind =>
      obtain ⟨_, portFound, _⟩ :=
        wf.input_of_mem found (i := port) (by simp [kind, NodeKind.inputs])
      refine (input_calm wf portFound).bind fun v => ?_
      cases v with
      | some v => exact calm_pure _
      | none => exact calm_throw rfl
  · exact calm_pure none

/-- Resuming a loop from its open frame, over the unbroken stack below it, hands back a
sound control. -/
theorem resume_sound {s : Scope} (wf : s.graph.WellFormed) {n : Node}
    (found : s.graph.node? n.id = some n) {state : FlowState} {broken : Bool}
    (opened : Frame.Open s.graph broken ⟨n.id, state⟩) (unbroken : s.graph.Unbroken ctx.stack) :
    Clean (n.resume s state) ctx fun c after => (Control.handBack n c).Sound s.graph after :=
  (resume_clean wf found opened).mono fun _ _ held => ⟨found, Node.handsBack_own unbroken held⟩

/-- Unwinding pops the top frame when it is alive. -/
theorem unwind_run_cons {top : Frame} {rest : List Frame} (stack : ctx.stack = top :: rest)
    (alive : top.state.alive = true) :
    unwind.run.run ctx = (.ok top, { ctx with stack := rest }) := by
  have kept : ctx.stack.dropWhile (fun f => !f.state.alive) = top :: rest := by
    rw [stack, List.dropWhile_cons_of_neg (by simp [alive])]
  simp only [unwind, run_bind, run_get, kept, run_set, run_pure]

/-- With no frame left, the main flow was interrupted. -/
theorem unwind_run_nil (stack : ctx.stack = []) :
    unwind.run.run ctx = (.error .flowInterrupted, { ctx with stack := [] }) := by
  simp only [unwind, run_bind, run_get, stack, List.dropWhile_nil, run_set, run_throw]

theorem resumeParent_clean {s : Scope} (wf : s.graph.WellFormed) {top : Frame}
    {rest : List Frame} {broken : Bool} (stack : ctx.stack = top :: rest)
    (opened : top.Open s.graph broken) (unbroken : s.graph.Unbroken rest) :
    Clean (resumeParent s) ctx fun r after => ∀ c, r = .next c → c.Sound s.graph after := by
  unfold resumeParent
  simp only [clean_bind]
  rw [clean_of_run_ok (unwind_run_cons stack opened.alive), Graph.clean_resolveNode]
  obtain ⟨n, cursor, node, state, fits⟩ := opened
  have owned := wf.node_id node
  have found : s.graph.node? n.id = some n := by rw [owned]; exact node
  refine ⟨n, node, ?_⟩
  have reopened : Frame.Open s.graph broken ⟨n.id, top.state⟩ := by
    refine ⟨n, cursor, found, ?_, fits⟩
    rw [state, owned]
  refine (resume_sound wf found reopened unbroken).mono fun c after sound => ?_
  rintro _ ⟨⟩
  exact sound

theorem resumeParent_clean_nil {s : Scope} {post : Step → Context → Prop}
    (stack : ctx.stack = []) : Clean (resumeParent s) ctx post := by
  unfold resumeParent
  simp only [clean_bind]
  rw [clean_of_run_error (unwind_run_nil stack)]
  rfl

/-- Passing control to an enter port of the graph arrives there, or fails with a break out
of an empty stack. -/
theorem transfer_clean {s : Scope} {target : EnterId} {q : EnterPort}
    (enter : s.graph.enter? target = some q) (unbroken : s.graph.Unbroken ctx.stack) :
    Clean (transfer s target) ctx fun r after => ∀ c, r = .next c → c.Sound s.graph after := by
  unfold transfer
  simp only [clean_bind, Graph.clean_resolveEnter, clean_get]
  refine ⟨q, enter, ?_⟩
  split
  · rfl
  · rintro _ ⟨⟩
    exact ⟨⟨q, enter⟩, unbroken⟩


/-- One step from a sound state never fails defensively and leads to a sound state. -/
theorem step_clean {s : Scope} (wf : s.graph.WellFormed) (tame : s.builtins.Tame)
    {c : Control} (sound : c.Sound s.graph ctx) :
    Clean (step s c) ctx fun r after => ∀ c', r = .next c' → c'.Sound s.graph after := by
  cases c with
  | arrive port =>
      obtain ⟨⟨p, enter⟩, unbroken⟩ := sound
      obtain ⟨n, node, member⟩ := wf.node_of_enter enter
      have found : s.graph.node? n.id = some n := by rw [wf.node_id node]; exact node
      simp only [step, clean_bind, Graph.clean_resolveEnter, Graph.clean_resolveNode]
      refine ⟨p, enter, n, node, ?_⟩
      split
      · refine (returnValue_calm wf node).clean_bind fun v c same => ?_
        simp only [clean_bind, clean_modify, clean_pure]
        rintro _ ⟨⟩
      · next notEnd =>
          rw [clean_bind]
          refine (execute_clean wf tame found member (by simpa using notEnd) unbroken).mono
            fun next after handsBack => ?_
          rintro _ ⟨⟩
          exact ⟨found, handsBack⟩
  | handBack n next =>
      obtain ⟨found, handsBack⟩ := sound
      cases next with
      | subline port state =>
          obtain ⟨⟨member, opened⟩, unbroken⟩ | ⟨never, _⟩ := handsBack
          · obtain ⟨x, exitFound, _⟩ := wf.exit_of_mem found member
            simp only [step, clean_bind, Graph.clean_resolveExit]
            refine ⟨x, exitFound, ?_⟩
            cases target : x.target with
            | some target =>
                obtain ⟨q, enter⟩ := wf.exit_target exitFound target
                simp only [push, clean_bind, clean_modify, clean_pure]
                rintro _ ⟨⟩
                exact ⟨⟨q, enter⟩, List.forall_mem_cons.mpr ⟨opened, unbroken⟩⟩
            | none =>
                simp only [clean_bind]
                refine (resume_sound wf found opened unbroken).mono fun c after sound => ?_
                rintro _ ⟨⟩
                exact sound
          · cases never
      | exit port =>
          obtain ⟨member, unbroken⟩ | ⟨never, _⟩ := handsBack
          · obtain ⟨x, exitFound, _⟩ := wf.exit_of_mem found member
            simp only [step, clean_bind, Graph.clean_resolveExit]
            refine ⟨x, exitFound, ?_⟩
            cases target : x.target with
            | some target =>
                obtain ⟨q, enter⟩ := wf.exit_target exitFound target
                exact transfer_clean enter unbroken
            | none =>
                cases stack : ctx.stack with
                | nil => exact resumeParent_clean_nil stack
                | cons top rest =>
                    have frames := unbroken
                    rw [stack] at frames
                    exact resumeParent_clean wf stack (frames top List.mem_cons_self)
                      fun f member => frames f (List.mem_cons_of_mem top member)
          · cases never
      | interrupt =>
          obtain ⟨⟨⟩, _⟩ | ⟨_, top, rest, stack, opened, unbroken⟩ := handsBack
          exact resumeParent_clean wf stack opened unbroken

/-- A run from a sound state never fails defensively. -/
theorem runFrom_clean {s : Scope} (wf : s.graph.WellFormed) (tame : s.builtins.Tame) :
    ∀ (fuel : Nat) {c : Control} {ctx : Context}, c.Sound s.graph ctx →
      Clean (runFrom s fuel c) ctx fun _ _ => True
  | 0, _, _, _ => trivial
  | fuel + 1, _, _, sound => by
      simp only [runFrom, clean_bind]
      refine (step_clean wf tame sound).mono fun r after next => ?_
      cases r with
      | finished v => trivial
      | next c' => exact runFrom_clean wf tame fuel (next c' rfl)


theorem checkArguments_mild :
    ∀ (index : Nat) (params : List DataType) (args : List Value),
      Mild (checkArguments index params args)
  | index, t :: ts, v :: vs => by
      unfold checkArguments
      split
      · exact checkArguments_mild (index + 1) ts vs
      · rfl
  | _, [], _ => trivial
  | _, _ :: _, [] => trivial

theorem sendArguments_calm (wf : g.WellFormed) :
    ∀ {ports : List OutputId} (vs : List Value), (∀ p ∈ ports, ∃ o, g.output? p = some o) →
      Calm (sendArguments g ports vs)
  | port :: ports, v :: vs, exist => by
      obtain ⟨o, found⟩ := exist port List.mem_cons_self
      rw [sendArguments]
      exact (output_calm wf found v).bind fun _ =>
        sendArguments_calm wf vs fun p member => exist p (List.mem_cons_of_mem _ member)
  | [], _, _ => calm_pure ()
  | _ :: _, [], _ => calm_pure ()

/-- Past its checks, preparing a call sends the arguments and arrives at the enter port
that the entry's exit leads to, over the stack it found. -/
theorem prepare_send_clean {s : Scope} (wf : s.graph.WellFormed) {outs : List OutputId}
    {exit : ExitId} {x : ExitPort} (outputs : ∀ p ∈ outs, ∃ o, s.graph.output? p = some o)
    (exitFound : s.graph.exit? exit = some x) (args : List Value) {before : Context}
    (same : ctx.stack = before.stack) (unbroken : s.graph.Unbroken before.stack) :
    Clean (do
      sendArguments s.graph outs args
      let x ← lift (s.graph.resolveExit exit)
      match x.target with
      | some first => pure first
      | none => throw Fault.flowInterrupted) ctx
      fun first after => (Control.arrive first).Sound s.graph after := by
  simp only [clean_bind]
  refine (sendArguments_calm wf args outputs).clean same fun _ c same' => ?_
  rw [Graph.clean_resolveExit]
  refine ⟨x, exitFound, ?_⟩
  cases target : x.target with
  | some first =>
      obtain ⟨q, enter⟩ := wf.exit_target exitFound target
      exact ⟨⟨q, enter⟩, by rw [same']; exact unbroken⟩
  | none => rfl

/-- Preparing a call at an entry node of a well-formed graph never fails defensively, and
sends control first to an enter port of the graph, over the stack it found. -/
theorem prepare_clean {s : Scope} (wf : s.graph.WellFormed) {f : FlowFunction} {n : Node}
    {params : List DataType} {outs : List OutputId} {exit : ExitId}
    (entry : s.graph.node? f.entry = some n) (kind : n.kind = .entry params outs exit)
    (validate : Bool) (args : List Value) (unbroken : s.graph.Unbroken ctx.stack) :
    Clean (prepare s validate f args) ctx fun first after =>
      (Control.arrive first).Sound s.graph after := by
  have outputs : ∀ p ∈ outs, ∃ o, s.graph.output? p = some o := fun p member =>
    (wf.output_of_mem entry (by rw [kind]; exact member)).imp fun _ => And.left
  obtain ⟨x, exitFound, _⟩ := wf.exit_of_mem entry (x := exit) (by simp [kind, NodeKind.exits])
  unfold prepare
  simp only [clean_bind, Graph.clean_resolveNode]
  refine ⟨n, entry, ?_⟩
  rw [kind]
  dsimp only
  split
  · rfl
  · split
    · rw [clean_bind]
      exact (calm_lift (checkArguments_mild 0 params args)).clean rfl fun _ c same =>
        prepare_send_clean wf outputs exitFound args same unbroken
    · exact prepare_send_clean wf outputs exitFound args rfl unbroken

end Flow

/-- The function starts at an entry node of its graph. -/
def FlowFunction.StartsAtEntry (f : FlowFunction) : Prop :=
  ∃ n params args exit, f.graph.node? f.entry = some n ∧ n.kind = .entry params args exit

namespace Flow

/-- A call at an entry node of a well-formed graph with a tame registry never fails
defensively, whatever its fuel. -/
theorem invoke_clean {f : FlowFunction} {builtins : Registry} {ctx : Context}
    (wf : f.graph.WellFormed) (tame : builtins.Tame) (entry : f.StartsAtEntry) (validate : Bool)
    (args : List Value) (fuel : Nat) (unbroken : f.graph.Unbroken ctx.stack) :
    Clean (invoke ⟨f.graph, builtins⟩ validate f args fuel) ctx fun _ _ => True := by
  obtain ⟨n, params, outs, exit, node, kind⟩ := entry
  rw [invoke, clean_bind]
  exact (prepare_clean wf node kind validate args unbroken).mono fun first after sound =>
    runFrom_clean wf tame fuel sound

end Flow

namespace Interpreter

variable {i : Interpreter} {f : FlowFunction} {args : List Value}

/-- A call of a function at an entry node of a well-formed graph, with a tame registry, never
fails defensively, whatever its fuel. -/
theorem executeWithin_not_defensive (wf : f.graph.WellFormed) (tame : i.builtins.Tame)
    (entry : f.StartsAtEntry) (fuel : Nat) {failure : Failure}
    (failed : i.executeWithin fuel f args = .failed failure) :
    failure.fault.isDefensive = false := by
  have clean : Clean (Flow.invoke ⟨f.graph, i.builtins⟩ i.settings.validateArguments f args fuel)
      (Context.start f.locals) fun _ _ => True :=
    Flow.invoke_clean wf tame entry _ args fuel Graph.unbroken_nil
  unfold executeWithin at failed
  dsimp only at failed
  split at failed
  · cases failed
  · cases failed
  · next e ctx ran =>
      cases failed
      exact clean.of_error ran

/-- The states a call of `f` on `args` passes through between two steps: where control goes
first once the call is prepared, and every state that a step leads to from one of them. -/
inductive Reachable (i : Interpreter) (f : FlowFunction) (args : List Value) :
    Control → Context → Prop
  | start {first : EnterId} {ctx : Context} :
      (Flow.prepare ⟨f.graph, i.builtins⟩ i.settings.validateArguments f args).run.run
          (Context.start f.locals) = (.ok first, ctx) →
        Reachable i f args (.arrive first) ctx
  | step {c c' : Control} {ctx ctx' : Context} : Reachable i f args c ctx →
      (Flow.step ⟨f.graph, i.builtins⟩ c).run.run ctx = (.ok (.next c'), ctx') →
        Reachable i f args c' ctx'

/-- Every state a call reaches is sound. -/
theorem Reachable.sound (wf : f.graph.WellFormed) (tame : i.builtins.Tame)
    (entry : f.StartsAtEntry) {c : Control} {ctx : Context} (reach : i.Reachable f args c ctx) :
    c.Sound f.graph ctx := by
  induction reach with
  | start prepared =>
      obtain ⟨n, params, outs, exit, node, kind⟩ := entry
      exact (Flow.prepare_clean wf node kind _ args Graph.unbroken_nil).of_ok prepared
  | step _ stepped sound => exact (Flow.step_clean wf tame sound).of_ok stepped _ rfl

/-- A call of a function that starts at an entry node of a graph built by the graph's own
operations, with the standard or the empty registry, never fails defensively: whatever the
settings, locals and arguments, no run meets an empty stack, a node that cannot resume, a
port that its node does not own, or a handle or flow state it did not make. -/
theorem execute_fault_not_defensive (tag : Nat) (name : String) (edits : List Graph.Edit)
    {i : Interpreter} {f : FlowFunction} {args : List Value}
    (built : f.graph = Graph.build tag name edits) (entry : f.StartsAtEntry)
    (registry : i.builtins = .standard ∨ i.builtins = .empty) {failure : Failure}
    (failed : i.execute f args = .failed failure) : failure.fault.isDefensive = false := by
  have wf : f.graph.WellFormed := built ▸ Graph.build_wellFormed tag name edits
  exact executeWithin_not_defensive wf (Registry.tame_of_standard_or_empty registry) entry
    stepBudget failed

/-- An entry whose exit leads nowhere interrupts the main flow, which is no defensive
failure. -/
theorem execute_unwired_entry_interrupted :
    let f : FlowFunction :=
      { symbol := "main", graph := Graph.build 0 "main" [.addEntry []], entry := ⟨0, 0⟩ }
    ∃ failure, standard.execute f [] = .failed failure ∧ failure.fault.isDefensive = false := by
  intro f
  obtain ⟨failure, failed⟩ : ∃ failure, standard.execute f [] = .failed failure := ⟨_, rfl⟩
  exact ⟨failure, failed, execute_fault_not_defensive 0 "main" [.addEntry []] rfl
    ⟨_, [], [], ⟨0, 0⟩, rfl, rfl⟩ (.inl rfl) failed⟩

end Interpreter

end Blueprint
