import Blueprint.Proofs.Flow.Break

/-!
# Runs

A run is the sequence of states that the machine passes through, one step at a time.
`Flow.Leads` joins two states by steps that succeed, each taken from a state of a given kind,
so that a statement can say both where a run goes and what it passes through on the way.

Fuel only counts steps. A run that finishes or fails within some fuel ends the same way with
more (`runFrom_add`), and a run that fails is the failure of one step, reached from where the
run started by steps that all succeeded (`runFrom_eq_error`).
-/

namespace Blueprint

open FlowM

namespace Flow

/-- The machine goes from one state to another by steps that succeed, each taken from a state
that satisfies `along`; the state it arrives at need not. -/
inductive Leads (s : Scope) (along : Control → Context → Prop) :
    Control → Context → Control → Context → Prop
  | refl {c : Control} {ctx : Context} : Leads s along c ctx c ctx
  | step {c c' c'' : Control} {ctx ctx' ctx'' : Context} : along c ctx →
      (Flow.step s c).run.run ctx = (.ok (.next c'), ctx') → Leads s along c' ctx' c'' ctx'' →
      Leads s along c ctx c'' ctx''

variable {s : Scope} {along along' : Control → Context → Prop}
  {c c' c'' : Control} {ctx ctx' ctx'' : Context}

namespace Leads

theorem single (holds : along c ctx)
    (stepped : (Flow.step s c).run.run ctx = (.ok (.next c'), ctx')) :
    Leads s along c ctx c' ctx' :=
  .step holds stepped .refl

theorem trans (first : Leads s along c ctx c' ctx') (second : Leads s along c' ctx' c'' ctx'') :
    Leads s along c ctx c'' ctx'' := by
  induction first with
  | refl => exact second
  | step holds stepped _ ih => exact .step holds stepped (ih second)

theorem mono (weaker : ∀ c ctx, along c ctx → along' c ctx) (run : Leads s along c ctx c' ctx') :
    Leads s along' c ctx c' ctx' := by
  induction run with
  | refl => exact .refl
  | step holds stepped _ ih => exact .step (weaker _ _ holds) stepped ih

/-- A run that leads somewhere may be replayed with fuel to spare: the rest of the run starts
from where it led. -/
theorem runFrom (run : Leads s along c ctx c' ctx') :
    ∃ n, ∀ fuel, (Flow.runFrom s (fuel + n) c).run.run ctx =
      (Flow.runFrom s fuel c').run.run ctx' := by
  induction run with
  | refl => exact ⟨0, fun _ => rfl⟩
  | step _ stepped _ ih =>
      obtain ⟨n, rest⟩ := ih
      refine ⟨n + 1, fun fuel => ?_⟩
      rw [← Nat.add_assoc, runFrom_succ_of_next _ stepped, rest]

/-- Steps are determined, so of two runs from one state, one leads on to where the other ends;
the states in between are states of the longer run and keep its predicate. -/
theorem determined (first : Leads s along c ctx c' ctx') (second : Leads s along c ctx c'' ctx'') :
    Leads s along c' ctx' c'' ctx'' ∨ Leads s along c'' ctx'' c' ctx' := by
  induction first with
  | refl => exact .inl second
  | step holds stepped rest ih =>
      cases second with
      | refl => exact .inr (.step holds stepped rest)
      | step _ stepped' rest' =>
          rw [stepped] at stepped'
          cases stepped'
          exact ih rest'

end Leads

/-- A step that finishes ends the run with its value. -/
theorem runFrom_succ_of_finished {v : Option Value} (fuel : Nat)
    (stepped : (step s c).run.run ctx = (.ok (.finished v), ctx')) :
    (runFrom s (fuel + 1) c).run.run ctx = (.ok (some v), ctx') := by
  simp only [runFrom, run_bind, stepped, run_pure]

/-- A run that finishes or fails within some fuel ends the same way with more: only a run
that is out of fuel can go further. -/
theorem runFrom_add : ∀ (fuel extra : Nat) {c : Control} {ctx ctx' : Context}
    {r : Except Fault (Option (Option Value))}, (runFrom s fuel c).run.run ctx = (r, ctx') →
    r ≠ .ok none → (runFrom s (fuel + extra) c).run.run ctx = (r, ctx')
  | 0, _, _, _, _, _, ran, ended => by
      simp only [runFrom, run_pure] at ran
      cases ran
      exact absurd rfl ended
  | fuel + 1, extra, c, ctx, _, _, ran, ended => by
      rw [Nat.add_right_comm]
      cases stepped : (step s c).run.run ctx with
      | mk r after =>
          cases r with
          | ok next =>
              cases next with
              | finished v =>
                  rw [runFrom_succ_of_finished fuel stepped] at ran
                  rw [runFrom_succ_of_finished _ stepped, ran]
              | next c₁ =>
                  rw [runFrom_succ_of_next fuel stepped] at ran
                  rw [runFrom_succ_of_next _ stepped]
                  exact runFrom_add fuel extra ran ended
          | error e =>
              rw [runFrom_succ_of_error fuel stepped] at ran
              rw [runFrom_succ_of_error _ stepped, ran]

/-- A failed run is the failure of one step, reached by steps that succeeded; the failure and
the context it left are the step's own. -/
theorem runFrom_eq_error : ∀ (fuel : Nat) {c : Control} {ctx ctx' : Context} {e : Fault},
    (runFrom s fuel c).run.run ctx = (.error e, ctx') →
    ∃ c₁ ctx₁, Leads s (fun _ _ => True) c ctx c₁ ctx₁ ∧ (step s c₁).run.run ctx₁ = (.error e, ctx')
  | 0, _, _, _, _, ran => by
      simp only [runFrom, run_pure] at ran
      cases ran
  | fuel + 1, c, ctx, _, _, ran => by
      cases stepped : (step s c).run.run ctx with
      | mk r after =>
          cases r with
          | ok next =>
              cases next with
              | finished v =>
                  rw [runFrom_succ_of_finished fuel stepped] at ran
                  cases ran
              | next c₁ =>
                  rw [runFrom_succ_of_next fuel stepped] at ran
                  obtain ⟨c₂, ctx₂, run, failed⟩ := runFrom_eq_error fuel ran
                  exact ⟨c₂, ctx₂, .step trivial stepped run, failed⟩
          | error e =>
              rw [runFrom_succ_of_error fuel stepped] at ran
              cases ran
              exact ⟨c, ctx, .refl, stepped⟩

/-- A prepared call runs from where control goes first. -/
theorem invoke_run_of_prepared {validate : Bool} {f : FlowFunction} {args : List Value}
    {first : EnterId} (fuel : Nat)
    (prepared : (prepare s validate f args).run.run ctx = (.ok first, ctx')) :
    (invoke s validate f args fuel).run.run ctx = (runFrom s fuel (.arrive first)).run.run ctx' := by
  simp only [invoke, run_bind, prepared]

/-- A call whose preparation fails fails with it. -/
theorem invoke_run_of_unprepared {validate : Bool} {f : FlowFunction} {args : List Value}
    {e : Fault} (fuel : Nat) (failed : (prepare s validate f args).run.run ctx = (.error e, ctx')) :
    (invoke s validate f args fuel).run.run ctx = (.error e, ctx') := by
  simp only [invoke, run_bind, failed]

end Flow

namespace Interpreter

variable {i : Interpreter} {f : FlowFunction} {args : List Value}
  {along : Control → Context → Prop} {c c' : Control} {ctx ctx' : Context}

/-- What a reachable state leads to is reachable. -/
theorem Reachable.leads (reach : i.Reachable f args c ctx)
    (run : Flow.Leads ⟨f.graph, i.builtins⟩ along c ctx c' ctx') : i.Reachable f args c' ctx' := by
  induction run with
  | refl => exact reach
  | step _ stepped _ ih => exact ih (.step reach stepped)

/-- A failed call failed either while it was being prepared, or in one step from a state it
reached; the failure it reports is made of the context that this failure left. -/
theorem executeWithin_eq_failed {fuel : Nat} {failure : Failure}
    (failed : i.executeWithin fuel f args = .failed failure) :
    (∃ e ctx, (Flow.prepare ⟨f.graph, i.builtins⟩ i.settings.validateArguments f args).run.run
        (Context.start f.locals) = (.error e, ctx) ∧ failure = ctx.failure f.graph e) ∨
    ∃ c ctx e ctx', i.Reachable f args c ctx ∧
      (Flow.step ⟨f.graph, i.builtins⟩ c).run.run ctx = (.error e, ctx') ∧
      failure = ctx'.failure f.graph e := by
  unfold executeWithin at failed
  dsimp only at failed
  cases prepared : (Flow.prepare ⟨f.graph, i.builtins⟩ i.settings.validateArguments f args).run.run
    (Context.start f.locals) with
  | mk r ctx =>
      cases r with
      | error e =>
          rw [Flow.invoke_run_of_unprepared fuel prepared] at failed
          exact .inl ⟨e, ctx, rfl, (Outcome.failed.inj failed).symm⟩
      | ok first =>
          rw [Flow.invoke_run_of_prepared fuel prepared] at failed
          split at failed
          · cases failed
          · cases failed
          · next e ctx' ran =>
              -- the run failed in one step, reached from the first arrival
              obtain ⟨c, ctx₁, run, stepped⟩ := Flow.runFrom_eq_error fuel ran
              exact .inr ⟨c, ctx₁, e, ctx', (Reachable.start prepared).leads run, stepped,
                (Outcome.failed.inj failed).symm⟩

end Interpreter

end Blueprint
