import Blueprint.Proofs.Flow.Extension
import Blueprint.Proofs.Flow.WhileLoop

/-!
# An empty loop body

A loop whose body exit leads nowhere resumes at once when it opens its body. Leading that exit to
a branch whose condition has a default and whose exits lead nowhere runs the body for real: the
loop's frame is pushed, the branch reads its default and leaves through an exit that leads
nowhere, and unwinding pops the frame, which is alive, and resumes the loop over the stack it
was pushed on. Nothing else changes on the way.

So the two graphs run alike. One step of the first is one step of the second with the same
result, or three steps of the second whose last ends as the one step does (`Flow.Mirrors`).
A run of the first that ends within some fuel then ends the same way, in the same context,
within three times the fuel on the second, and a run of the second that ends ends the same way
on the first within the same fuel. A failure reports the same snapshot on both: its frames are
frames of nodes of the first graph, which the second names alike.
-/

namespace Blueprint

open FlowM

namespace Flow

/-- One step of `s` is one step of `s'` with the same result, or three steps of `s'` whose first
two go on and whose third ends as the step of `s` does. -/
def Mirrors (s s' : Scope) (c : Control) (ctx : Context) : Prop :=
  (step s' c).run.run ctx = (step s c).run.run ctx ∨
    ∃ c₁ ctx₁ c₂ ctx₂, (step s' c).run.run ctx = (.ok (.next c₁), ctx₁) ∧
      (step s' c₁).run.run ctx₁ = (.ok (.next c₂), ctx₂) ∧
      (step s' c₂).run.run ctx₂ = (step s c).run.run ctx

/-! ## Runs that mirror each other -/

section Simulation

variable {s s' : Scope} {c : Control} {ctx after : Context}
  {r : Except Fault (Option (Option Value))}

/-- A run with no fuel is out of fuel. -/
theorem runFrom_zero_ended (ran : (runFrom s 0 c).run.run ctx = (r, after))
    (ended : r ≠ .ok none) : False := by
  simp only [runFrom, run_pure] at ran
  cases ran
  exact ended rfl

/-- Two states whose next steps have the same result run alike: what the run of one makes of the
state the step leads to, the other makes of it too. -/
theorem runFrom_succ_of_step_eq {c' : Control} {ctx' : Context} {fuel fuel' : Nat}
    (same : (step s' c').run.run ctx' = (step s c).run.run ctx)
    (rest : ∀ c₁ ctx₁, (step s c).run.run ctx = (.ok (.next c₁), ctx₁) →
      (runFrom s fuel c₁).run.run ctx₁ = (r, after) →
      (runFrom s' fuel' c₁).run.run ctx₁ = (r, after))
    (ran : (runFrom s (fuel + 1) c).run.run ctx = (r, after)) :
    (runFrom s' (fuel' + 1) c').run.run ctx' = (r, after) := by
  cases stepped : (step s c).run.run ctx with
  | mk r₁ ctx₁ =>
      rw [stepped] at same
      cases r₁ with
      | ok next =>
          cases next with
          | finished v =>
              rw [runFrom_succ_of_finished fuel stepped] at ran
              rw [runFrom_succ_of_finished fuel' same, ran]
          | next c₁ =>
              rw [runFrom_succ_of_next fuel stepped] at ran
              rw [runFrom_succ_of_next fuel' same]
              exact rest c₁ ctx₁ stepped ran
      | error e =>
          rw [runFrom_succ_of_error fuel stepped] at ran
          rw [runFrom_succ_of_error fuel' same, ran]

variable {P : Control → Context → Prop}
  (closed : ∀ c ctx c' ctx', P c ctx → (step s c).run.run ctx = (.ok (.next c'), ctx') →
    P c' ctx')
  (mirrors : ∀ c ctx, P c ctx → Mirrors s s' c ctx)
include closed mirrors

/-- A run of `s` from a state of `P` that ends within `fuel` steps ends the same way within
`3 * fuel` steps of `s'`. -/
theorem runFrom_mirrored : ∀ (fuel : Nat) {c : Control} {ctx after : Context}
    {r : Except Fault (Option (Option Value))}, P c ctx →
    (runFrom s fuel c).run.run ctx = (r, after) → r ≠ .ok none →
    (runFrom s' (3 * fuel) c).run.run ctx = (r, after)
  | 0, _, _, _, _, _, ran, ended => (runFrom_zero_ended ran ended).elim
  | fuel + 1, c, ctx, after, r, holds, ran, ended => by
      -- the rest of the run of `s` ends alike on `s'` with any fuel to spare
      have rest : ∀ extra c₁ ctx₁, (step s c).run.run ctx = (.ok (.next c₁), ctx₁) →
          (runFrom s fuel c₁).run.run ctx₁ = (r, after) →
          (runFrom s' (3 * fuel + extra) c₁).run.run ctx₁ = (r, after) :=
        fun extra c₁ ctx₁ stepped ran' => runFrom_add (3 * fuel) extra
          (runFrom_mirrored fuel (closed c ctx c₁ ctx₁ holds stepped) ran' ended) ended
      rcases mirrors c ctx holds with same | ⟨c₁, ctx₁, c₂, ctx₂, first, second, third⟩
      · rw [show 3 * (fuel + 1) = 3 * fuel + 2 + 1 by omega]
        exact runFrom_succ_of_step_eq same (rest 2) ran
      · rw [show 3 * (fuel + 1) = 3 * fuel + 0 + 1 + 1 + 1 by omega,
          runFrom_succ_of_next _ first, runFrom_succ_of_next _ second]
        exact runFrom_succ_of_step_eq third (rest 0) ran

/-- A run of `s'` from a state of `P` that ends within `fuel` steps is a run of `s` that ends the
same way within `fuel` steps. -/
theorem runFrom_of_mirrored : ∀ (fuel : Nat) {c : Control} {ctx after : Context}
    {r : Except Fault (Option (Option Value))}, P c ctx →
    (runFrom s' fuel c).run.run ctx = (r, after) → r ≠ .ok none →
    (runFrom s fuel c).run.run ctx = (r, after)
  | 0, _, _, _, _, _, ran, ended => (runFrom_zero_ended ran ended).elim
  | fuel + 1, c, ctx, after, r, holds, ran, ended => by
      have rest : ∀ c₁ ctx₁, (step s c).run.run ctx = (.ok (.next c₁), ctx₁) →
          (runFrom s' fuel c₁).run.run ctx₁ = (r, after) →
          (runFrom s fuel c₁).run.run ctx₁ = (r, after) :=
        fun c₁ ctx₁ stepped ran' =>
          runFrom_of_mirrored fuel (closed c ctx c₁ ctx₁ holds stepped) ran' ended
      rcases mirrors c ctx holds with same | ⟨c₁, ctx₁, c₂, ctx₂, first, second, third⟩
      · exact runFrom_succ_of_step_eq same.symm
          (fun c₁ ctx₁ stepped => rest c₁ ctx₁ (same ▸ stepped)) ran
      · -- the two steps of `s'` that go on take fuel, and the third ends as the step of `s`
        rw [runFrom_succ_of_next _ first] at ran
        cases fuel with
        | zero => exact (runFrom_zero_ended ran ended).elim
        | succ fuel =>
            rw [runFrom_succ_of_next _ second] at ran
            cases fuel with
            | zero => exact (runFrom_zero_ended ran ended).elim
            | succ fuel =>
                have caught : (runFrom s (fuel + 1) c).run.run ctx = (r, after) :=
                  runFrom_succ_of_step_eq third.symm (fun c₃ ctx₃ stepped ran' =>
                    runFrom_of_mirrored fuel (closed c ctx c₃ ctx₃ holds (third ▸ stepped))
                      ran' ended) ran
                exact runFrom_add (fuel + 1) 2 caught ended

end Simulation

/-! ## The branch behind the body -/

section Branch

variable {g g' : Graph} {body : ExitId} {b : Bool} (behind : g.BranchBehind g' body b)
  {builtins : Registry}
include behind

/-- The branch's condition is bound to nothing and reads its default. -/
theorem input_branch_condition (ctx : Context) :
    (input g' ⟨g.tag, g.inputs.size⟩).run.run ctx = (.ok (some (.bool b)), ctx) := by
  simp only [input, run_bind, Graph.resolveInput_eq_ok behind.condition, run_lift_ok]
  rfl

/-- Control that arrives at the branch leaves it through the exit its default picks, in the
same context. -/
theorem step_arrive_branch (ctx : Context) :
    (step ⟨g', builtins⟩ (.arrive ⟨g.tag, g.enters.size⟩)).run.run ctx =
      (.ok (.next (.handBack g.nextBranch
        (.exit (cond b ⟨g.tag, g.exits.size⟩ ⟨g.tag, g.exits.size + 1⟩)))), ctx) := by
  rw [step_arrive_run behind.enter behind.node rfl]
  simp only [Node.execute, Graph.nextBranch, run_bind,
    readCondition_of_bool (input_branch_condition behind ctx)]
  cases b <;> rfl

/-- Either exit of the branch leads nowhere, so leaving it resumes the nearest live frame. -/
theorem step_branch_exit (ctx : Context) :
    (step ⟨g', builtins⟩ (.handBack g.nextBranch
        (.exit (cond b ⟨g.tag, g.exits.size⟩ ⟨g.tag, g.exits.size + 1⟩)))).run.run ctx =
      (resumeParent ⟨g', builtins⟩).run.run ctx := by
  refine step_of_returns ?_
  cases b
  · exact ⟨_, behind.whenFalse, rfl⟩
  · exact ⟨_, behind.whenTrue, rfl⟩

/-- An exit led to the branch's enter port passes control there: it is no hole. -/
theorem step_exit_branch {n : Node} {port : ExitId} {x : ExitPort}
    (led : g'.exit? port = some { x with target := some ⟨g.tag, g.enters.size⟩ })
    (ctx : Context) :
    (step ⟨g', builtins⟩ (.handBack n (.exit port))).run.run ctx =
      (.ok (.next (.arrive ⟨g.tag, g.enters.size⟩)), ctx) := by
  rw [step_exit_run led rfl]
  simp only [transfer, run_bind, Graph.resolveEnter_eq_ok behind.enter, run_lift_ok, run_get]
  split
  · next hole => cases hole.1
  · rfl

end Branch

/-- Unwinding right after a live frame was pushed pops that frame and nothing else. -/
theorem unwind_run_pushed (frame : Frame) (alive : frame.state.alive = true) (ctx : Context) :
    unwind.run.run { ctx with stack := frame :: ctx.stack } = (.ok frame, ctx) :=
  unwind_run_cons rfl alive

/-- Resuming the nearest live frame right after a live frame was pushed resumes the frame's node
over the stack it was pushed on. -/
theorem resumeParent_pushed {s : Scope} {n : Node} {state : FlowState}
    (found : s.graph.node? n.id = some n) (alive : state.alive = true) (ctx : Context) :
    (resumeParent s).run.run { ctx with stack := ⟨n.id, state⟩ :: ctx.stack } =
      (n.resume s state >>= fun c => pure (Step.next (.handBack n c))).run.run ctx := by
  unfold resumeParent
  rw [run_bind, unwind_run_pushed ⟨n.id, state⟩ alive ctx]
  simp only [Graph.resolveNode_eq_ok found, FlowM.lift, pure_bind]

/-- A body exit that leads nowhere resumes its node at once. -/
theorem step_subline_unwired {s : Scope} {n : Node} {port : ExitId} {x : ExitPort}
    (exitFound : s.graph.exit? port = some x) (unwired : x.target = none) (state : FlowState)
    (ctx : Context) :
    (step s (.handBack n (.subline port state))).run.run ctx =
      (n.resume s state >>= fun c => pure (Step.next (.handBack n c))).run.run ctx := by
  simp only [step, run_bind, Graph.resolveExit_eq_ok exitFound, run_lift_ok, unwired]

section Mirror

variable {g g' : Graph} {body : ExitId} {b : Bool} (wf : g.WellFormed)
  (behind : g.BranchBehind g' body b) {builtins : Registry} {x : ExitPort}
  (bodyExit : g.exit? body = some x) (unwired : x.target = none)
include wf behind bodyExit unwired

/-- Every step from a sound state of the graph is mirrored on the graph with the branch behind
its unwired exit: through that exit, the branch runs as an empty body in three steps. -/
theorem mirrors_of_sound {c : Control} {ctx : Context} (sound : c.Sound g ctx) :
    Mirrors ⟨g, builtins⟩ ⟨g', builtins⟩ c ctx := by
  have hosted := sound.hosts
  by_cases leaves : c.exitPort? = some body
  · rcases behind.body bodyExit with kept | wired
    · -- the exit was not led anywhere: the step is the same
      refine .inl (step_extends wf behind.old sound fun port x' leaves' found => ?_)
      rw [leaves] at leaves'
      cases leaves'
      rw [bodyExit] at found
      cases found
      exact kept
    · right
      cases c with
      | arrive _ => cases leaves
      | handBack n next =>
          obtain ⟨owned, handsBack⟩ := sound
          cases next with
          | subline port state =>
              cases leaves
              -- push the loop's frame, run the branch, pop the frame and resume the loop
              have opened : Frame.Open g false ⟨n.id, state⟩ :=
                (handsBack.continues (by intro never; cases never)).2
              refine ⟨_, _, _, _, step_subline_wired wired rfl state ctx,
                step_arrive_branch behind _, ?_⟩
              refine (step_branch_exit behind _).trans
                ((resumeParent_pushed (behind.old.node owned) opened.alive ctx).trans ?_)
              rw [Node.resume_extends wf behind.old owned, step_subline_unwired bodyExit unwired]
          | exit port =>
              cases leaves
              -- pass to the branch, run it, and resume the nearest live frame as before
              exact ⟨_, _, _, _, step_exit_branch behind wired ctx, step_arrive_branch behind _,
                (step_branch_exit behind ctx).trans
                  ((resumeParent_extends wf behind.old hosted).trans
                    (step_of_returns (s := ⟨g, builtins⟩) (c := .handBack n (.exit body))
                      ⟨x, bodyExit, unwired⟩).symm)⟩
          | interrupt => cases leaves
  · exact .inl (step_extends wf behind.old sound fun port x' leaves' found =>
      behind.old.exit found fun same => leaves (same ▸ leaves'))

end Mirror

/-! ## Sound runs -/

section Sound

variable {s : Scope} (wf : s.graph.WellFormed) (tame : s.builtins.Tame)
  {c c' : Control} {ctx ctx' : Context}
include wf tame

/-- A step from a sound state that goes on leads to a sound state. -/
theorem sound_step (sound : c.Sound s.graph ctx)
    (stepped : (step s c).run.run ctx = (.ok (.next c'), ctx')) : c'.Sound s.graph ctx' :=
  (step_clean wf tame sound).of_ok stepped _ rfl

theorem Leads.sound {along : Control → Context → Prop} (run : Leads s along c ctx c' ctx')
    (sound : c.Sound s.graph ctx) : c'.Sound s.graph ctx' := by
  induction run with
  | refl => exact sound
  | step _ stepped _ ih => exact ih (sound_step wf tame sound stepped)

/-- A run from a sound state that fails leaves a hosted stack. -/
theorem runFrom_error_hosts {fuel : Nat} {e : Fault} (sound : c.Sound s.graph ctx)
    (ran : (runFrom s fuel c).run.run ctx = (.error e, ctx')) : s.graph.Hosts ctx'.stack := by
  obtain ⟨c₁, ctx₁, run, stepped⟩ := runFrom_eq_error fuel ran
  exact (spec_of_run_error stepped).mp (step_hosts wf (run.sound wf tame sound))

end Sound

end Flow

/-! ## Calls on the two graphs -/

namespace Interpreter

/-- A call within some fuel, run from a fresh context: what the run gives and the context it
leaves, which `executeWithin` reads its outcome off. -/
def callWithin (i : Interpreter) (fuel : Nat) (f : FlowFunction) (args : List Value) :
    Except Fault (Option (Option Value)) × Context :=
  (Flow.invoke ⟨f.graph, i.builtins⟩ i.settings.validateArguments f args fuel).run.run
    (Context.start f.locals)

section Branch

variable {i : Interpreter} {f : FlowFunction} {g' : Graph} {body : ExitId} {b : Bool}
  {x : ExitPort} {n : Node} {params : List DataType} {outs : List OutputId} {exit : ExitId}
  (wf : f.graph.WellFormed) (tame : i.builtins.Tame) (found : f.graph.node? f.entry = some n)
  (kind : n.kind = .entry params outs exit) (args : List Value) {fuel : Nat}
  {r : Except Fault (Option (Option Value))} {after : Context}

/-- A call that is not out of fuel has a run that is not. -/
theorem callWithin_ended (ran : i.callWithin fuel f args = (r, after))
    (ended : i.executeWithin fuel f args ≠ .exhausted) : r ≠ .ok none := by
  rintro rfl
  apply ended
  unfold callWithin at ran
  unfold executeWithin
  dsimp only
  rw [ran]

/-- A call on a larger graph whose run ends as a call on the graph does has the same outcome,
when a failure leaves frames of nodes of the graph only. -/
theorem executeWithin_extends (ext : f.graph.Extends g' body) {fuel' : Nat}
    (same : i.callWithin fuel' { f with graph := g' } args = i.callWithin fuel f args)
    (hosted : ∀ e after, i.callWithin fuel f args = (.error e, after) →
      f.graph.Hosts after.stack) :
    i.executeWithin fuel' { f with graph := g' } args = i.executeWithin fuel f args := by
  unfold callWithin at same hosted
  unfold executeWithin
  dsimp only at same ⊢
  rw [same]
  cases ran : (Flow.invoke ⟨f.graph, i.builtins⟩ i.settings.validateArguments f args
    fuel).run.run (Context.start f.locals) with
  | mk r after =>
      cases r with
      | ok v => cases v <;> rfl
      | error e =>
          dsimp only
          rw [Context.failure_extends ext (hosted e after ran)]

include wf tame found kind in
/-- A call that fails leaves a hosted stack: preparing it touches no frame, and a run from the
first arrival stays sound. -/
theorem callWithin_error_hosts {e : Fault} (ran : i.callWithin fuel f args = (.error e, after)) :
    f.graph.Hosts after.stack := by
  unfold callWithin at ran
  cases prepared : (Flow.prepare ⟨f.graph, i.builtins⟩ i.settings.validateArguments f
    args).run.run (Context.start f.locals) with
  | mk r ctx =>
      cases r with
      | error e' =>
          rw [Flow.invoke_run_of_unprepared fuel prepared] at ran
          cases ran
          have effect := Flow.prepare_effect (s := ⟨f.graph, i.builtins⟩) wf
            i.settings.validateArguments f args (Context.start f.locals)
          rw [prepared] at effect
          exact (show f.graph.Hosts (Context.start f.locals).stack from Graph.hosts_nil).of_effect
            effect
      | ok first =>
          rw [Flow.invoke_run_of_prepared fuel prepared] at ran
          exact Flow.runFrom_error_hosts wf tame
            ((Flow.prepare_clean wf found kind _ args Graph.unbroken_nil).of_ok prepared) ran

variable (behind : f.graph.BranchBehind g' body b) (bodyExit : f.graph.exit? body = some x)
  (unwired : x.target = none) (other : exit ≠ body)
include wf tame found kind behind bodyExit unwired other

omit tame bodyExit unwired in
/-- Preparing the call is the same on both graphs. -/
theorem prepare_branch :
    Flow.prepare ⟨g', i.builtins⟩ i.settings.validateArguments { f with graph := g' } args =
      Flow.prepare ⟨f.graph, i.builtins⟩ i.settings.validateArguments f args :=
  Flow.prepare_extends wf behind.old found kind other

/-- The first arrival of a call is sound, and from there every step on the graph is mirrored on
the graph with the branch: so the runs of the call mirror each other. -/
theorem callWithin_mirrored (ran : i.callWithin fuel f args = (r, after)) (ended : r ≠ .ok none) :
    i.callWithin (3 * fuel) { f with graph := g' } args = (r, after) := by
  unfold callWithin at ran ⊢
  cases prepared : (Flow.prepare ⟨f.graph, i.builtins⟩ i.settings.validateArguments f
    args).run.run (Context.start f.locals) with
  | mk r₀ ctx₀ =>
      have prepared' := (prepare_branch wf found kind args behind other).symm
        ▸ prepared
      cases r₀ with
      | error e =>
          rw [Flow.invoke_run_of_unprepared fuel prepared] at ran
          rw [Flow.invoke_run_of_unprepared _ prepared', ran]
      | ok first =>
          rw [Flow.invoke_run_of_prepared fuel prepared] at ran
          rw [Flow.invoke_run_of_prepared _ prepared']
          exact Flow.runFrom_mirrored
            (fun _ _ _ _ sound stepped => Flow.sound_step wf tame sound stepped)
            (fun _ _ sound => Flow.mirrors_of_sound wf behind bodyExit unwired sound) fuel
            ((Flow.prepare_clean wf found kind _ args Graph.unbroken_nil).of_ok prepared) ran ended

/-- A call on the graph with the branch that ends within some fuel ends the same way without
it. -/
theorem callWithin_of_mirrored (ran : i.callWithin fuel { f with graph := g' } args = (r, after))
    (ended : r ≠ .ok none) : i.callWithin fuel f args = (r, after) := by
  unfold callWithin at ran ⊢
  cases prepared : (Flow.prepare ⟨f.graph, i.builtins⟩ i.settings.validateArguments f
    args).run.run (Context.start f.locals) with
  | mk r₀ ctx₀ =>
      have prepared' := (prepare_branch wf found kind args behind other).symm
        ▸ prepared
      cases r₀ with
      | error e =>
          rw [Flow.invoke_run_of_unprepared _ prepared'] at ran
          rw [Flow.invoke_run_of_unprepared fuel prepared, ran]
      | ok first =>
          rw [Flow.invoke_run_of_prepared _ prepared'] at ran
          rw [Flow.invoke_run_of_prepared fuel prepared]
          exact Flow.runFrom_of_mirrored
            (fun _ _ _ _ sound stepped => Flow.sound_step wf tame sound stepped)
            (fun _ _ sound => Flow.mirrors_of_sound wf behind bodyExit unwired sound) fuel
            ((Flow.prepare_clean wf found kind _ args Graph.unbroken_nil).of_ok prepared) ran ended

theorem executeWithin_mirrored {o : Outcome} (ended : o ≠ .exhausted)
    (done : i.executeWithin fuel f args = o) :
    i.executeWithin (3 * fuel) { f with graph := g' } args = o := by
  cases ran : i.callWithin fuel f args with
  | mk r after =>
      have mirrored := callWithin_mirrored wf tame found kind args behind bodyExit unwired other
        ran (callWithin_ended args ran fun out => ended (done.symm.trans out))
      rw [← done]
      exact executeWithin_extends args behind.old (mirrored.trans ran.symm)
        fun _ _ failed => callWithin_error_hosts wf tame found kind args failed

theorem executeWithin_of_mirrored {o : Outcome} (ended : o ≠ .exhausted)
    (done : i.executeWithin fuel { f with graph := g' } args = o) :
    i.executeWithin fuel f args = o := by
  cases ran : i.callWithin fuel { f with graph := g' } args with
  | mk r after =>
      have back := callWithin_of_mirrored wf tame found kind args behind bodyExit unwired other
        ran (callWithin_ended args ran fun out => ended (done.symm.trans out))
      rw [← done]
      exact (executeWithin_extends args behind.old (ran.trans back.symm)
        fun _ _ failed => callWithin_error_hosts wf tame found kind args failed).symm

end Branch

/-- A loop whose body exit leads nowhere resumes at once; a branch behind the body, made by the
builder's own edits with its condition defaulting to `b` and its two exits unwired, makes the
loop run an empty body instead. Calls of the function end the same way on both graphs: the same
return value, or the same failure with the same snapshot of stack, port log and symbols. A call
that ends within some fuel ends alike within three times the fuel with the branch, and one that
ends with the branch ends alike within the same fuel without it; in particular `execute` gives
the same outcome whenever the call with the branch ends within its budget. This holds for
every loop kind, at any depth of loops, whatever the settings, locals and arguments. -/
theorem unwired_body_runs_as_empty_branch (tag : Nat) (name : String) (edits : List Graph.Edit)
    {i : Interpreter} {f : FlowFunction} (built : f.graph = Graph.build tag name edits)
    (entry : f.StartsAtEntry) (registry : i.builtins = .standard ∨ i.builtins = .empty)
    {m : NodeId} {L : Node} {lp : LoopPorts} {x : ExitPort} (found : f.graph.node? m = some L)
    (loop : L.kind.loop? = some lp) (bodyExit : f.graph.exit? lp.body = some x)
    (unwired : x.target = none) (b : Bool) (args : List Value) :
    let f' : FlowFunction :=
      { f with graph := Graph.build tag name (edits ++ [.addIf,
          .setDefault ⟨f.graph.tag, f.graph.inputs.size⟩ (.bool b),
          .connectSubline lp.body ⟨f.graph.tag, f.graph.enters.size⟩]) }
    (∀ fuel o, o ≠ .exhausted → i.executeWithin fuel f args = o →
      i.executeWithin (3 * fuel) f' args = o) ∧
    (∀ fuel o, o ≠ .exhausted → i.executeWithin fuel f' args = o →
      i.executeWithin fuel f args = o) ∧
    (i.execute f' args ≠ .exhausted → i.execute f' args = i.execute f args) := by
  intro f'
  have wf : f.graph.WellFormed := built ▸ Graph.build_wellFormed tag name edits
  have tame := Registry.tame_of_standard_or_empty registry
  have behind : f.graph.BranchBehind f'.graph lp.body b := by
    have extended : f'.graph = f.graph.withBranch lp.body b := by
      show Graph.build tag name _ = _
      rw [built]
      exact Graph.build_append_branch tag name edits lp.body b
    rw [extended]
    exact Graph.withBranch_behind f.graph b lp.body
  obtain ⟨n, params, outs, exit, node, kind⟩ := entry
  -- the entry's exit is the entry node's own, so it is not the loop's body exit
  have other : exit ≠ lp.body := by
    intro same
    have owner := wf.listed_unique node found (r := .exit) (h := exit)
      (by simp [NodeKind.ports, kind, NodeKind.exits])
      (by rw [same]; simp [NodeKind.ports, NodeKind.exits_of_loop? loop])
    rw [owner, found] at node
    cases node
    rw [kind] at loop
    cases loop
  refine ⟨fun fuel o ended done => ?_, fun fuel o ended done => ?_, fun ended => ?_⟩
  · exact executeWithin_mirrored wf tame node kind args behind bodyExit unwired other ended done
  · exact executeWithin_of_mirrored wf tame node kind args behind bodyExit unwired other ended done
  · exact (executeWithin_of_mirrored wf tame node kind args behind bodyExit unwired other
      ended rfl).symm

/-- A while loop entered from the entry, whose body exit leads nowhere, runs alike with a
branch behind its body. -/
theorem unwired_while_body_runs_as_branch :
    let f : FlowFunction :=
      { symbol := "main", entry := ⟨0, 0⟩,
        graph := Graph.build 0 "main" [.addEntry [], .addWhile, .connect ⟨0, 0⟩ ⟨0, 0⟩] }
    let f' : FlowFunction :=
      { f with graph := (Graph.build 0 "main"
          ([.addEntry [], .addWhile, .connect ⟨0, 0⟩ ⟨0, 0⟩] ++ [.addIf,
            .setDefault ⟨f.graph.tag, f.graph.inputs.size⟩ (.bool true),
            .connectSubline ⟨0, 1⟩ ⟨f.graph.tag, f.graph.enters.size⟩])) }
    ∀ fuel o, o ≠ .exhausted → standard.executeWithin fuel f [] = o →
      standard.executeWithin (3 * fuel) f' [] = o := by
  intro f f'
  exact (unwired_body_runs_as_empty_branch 0 "main" _ rfl ⟨_, [], [], ⟨0, 0⟩, rfl, rfl⟩
    (.inl rfl) (m := ⟨0, 1⟩)
    (L := ⟨⟨0, 1⟩, "while",
      .whileLoop ⟨0, 0⟩ ⟨⟨0, 0⟩, ⟨0, 1⟩, ⟨0, 1⟩, ⟨0, 2⟩⟩⟩)
    (x := ⟨⟨0, 1⟩, "body", .subline, none⟩) rfl rfl rfl rfl true []).1

end Interpreter

end Blueprint
