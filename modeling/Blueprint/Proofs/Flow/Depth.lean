import Blueprint.Proofs.Flow.Effects

/-!
# The depth of the stack

A frame is pushed exactly when a loop hands control to its body through a body exit that leads
somewhere: the run opens the loop's body. A frame is popped exactly when control leaves a body:
an exit that leads nowhere, or the interrupt that a break hands back, resumes the loop of the
nearest live frame, and since every frame on the stack of a run is alive, that is the top one.
Executing and resuming a node add or remove no frame, and an end node finishes the run. So at
every state of a call the depth of the stack is the number of loop bodies the run has opened and
not yet left (`ReachableAfter.depth`). `reachable_frames_open` states this together with what
the frames on the stack are.
-/

namespace Blueprint

open FlowM

/-- Whether a step from here opens a loop body: a node hands back its body exit, and the exit
leads somewhere. -/
def Control.opensBody (g : Graph) : Control → Bool
  | .handBack _ (.subline port _) => (g.exit? port).any (·.target.isSome)
  | _ => false

/-- Whether a step from here leaves a loop body: an interrupt, or an exit that leads nowhere,
hands control back to the loop of the nearest frame. -/
def Control.leavesBody (g : Graph) : Control → Bool
  | .handBack _ .interrupt => true
  | .handBack _ (.exit port) => (g.exit? port).any (·.target.isNone)
  | _ => false

/-- The node a sound control is handed back from is a node of the graph. -/
theorem Control.Sound.owned {g : Graph} {c : Control} {ctx : Context} (sound : c.Sound g ctx) :
    c.Owned g := by
  cases c with
  | arrive port => trivial
  | handBack n next => exact sound.1

/-- Running a node keeps the depth of the stack. -/
theorem Graph.NodeEffect.length {g : Graph} {before after : Context}
    (effect : g.NodeEffect before after) : after.stack.length = before.stack.length := by
  simpa using congrArg List.length effect.frames

namespace Flow

variable {s : Scope} {ctx : Context}

open Blueprint.Graph

/-- Resuming the loop of the nearest frame, when every frame is alive, pops exactly one. -/
theorem resumeParent_depth (wf : s.graph.WellFormed)
    (alive : ∀ f ∈ ctx.stack, f.state.alive = true) :
    Spec (resumeParent s) ctx (fun _ after => after.stack.length + 1 = ctx.stack.length)
      (fun _ _ => True) := by
  unfold resumeParent
  rw [spec_bind]
  cases stack : ctx.stack with
  | nil => exact (spec_of_run_error (unwind_run_nil stack)).mpr trivial
  | cons top rest =>
      rw [spec_of_run_ok (unwind_run_cons stack (alive top (by simp [stack]))), spec_bind]
      cases resolved : s.graph.resolveNode top.node with
      | error e => exact (spec_lift_error e).mpr trivial
      | ok n =>
          rw [spec_lift_ok, spec_bind]
          refine ((resume_within wf (node?_of_resolveNode resolved) top.state).spec _).mono
            (fun _ after effect => ?_) (fun _ _ _ => trivial)
          rw [spec_pure, effect.length]
          rfl

/-- One step of a run whose frames are all alive pushes a frame when it opens a loop body, pops
one when it leaves a body, and keeps the depth of the stack otherwise. -/
theorem step_depth (wf : s.graph.WellFormed) {c : Control} (owned : c.Owned s.graph)
    (alive : ∀ f ∈ ctx.stack, f.state.alive = true) :
    Spec (step s c) ctx
      (fun r after => ∀ c', r = .next c' →
        after.stack.length + (c.leavesBody s.graph).toNat =
          ctx.stack.length + (c.opensBody s.graph).toNat)
      (fun _ _ => True) := by
  cases c with
  | arrive port =>
      simp only [step, spec_bind, Control.leavesBody, Control.opensBody]
      cases enter : s.graph.resolveEnter port with
      | error e => exact (spec_lift_error e).mpr trivial
      | ok p =>
          rw [spec_lift_ok]
          cases resolved : s.graph.resolveNode p.node with
          | error e => exact (spec_lift_error e).mpr trivial
          | ok n =>
              rw [spec_lift_ok]
              have found := node?_of_resolveNode resolved
              split
              · -- an end node finishes the run
                rw [spec_bind]
                refine ((returnValue_within wf n).spec ctx).mono (fun _ _ _ => ?_)
                  (fun _ _ _ => trivial)
                simp only [spec_bind, spec_modify, spec_pure]
                rintro _ ⟨⟩
              · rw [spec_bind]
                refine ((execute_within wf found port).spec ctx).mono (fun _ after effect => ?_)
                  (fun _ _ _ => trivial)
                rw [spec_pure]
                rintro _ -
                rw [effect.length]
  | handBack n next =>
      cases next with
      | subline port state =>
          simp only [step, spec_bind, Control.leavesBody, Control.opensBody]
          cases exit : s.graph.exit? port with
          | none =>
              rw [resolveExit, exit]
              exact (spec_lift_error _).mpr trivial
          | some x =>
              rw [resolveExit_eq_ok exit, spec_lift_ok]
              split
              · -- a body exit that leads somewhere pushes the loop's frame
                next target led =>
                  simp only [push, spec_bind, spec_modify, spec_pure, Option.any_some, led,
                    Option.isSome_some]
                  rintro _ -
                  simp
              · next unwired =>
                  rw [spec_bind]
                  refine ((resume_within wf owned state).spec ctx).mono
                    (fun _ after effect => ?_) (fun _ _ _ => trivial)
                  simp only [spec_pure, Option.any_some, unwired, Option.isSome_none]
                  rintro _ -
                  rw [effect.length]
      | exit port =>
          simp only [step, spec_bind, Control.leavesBody, Control.opensBody]
          cases exit : s.graph.exit? port with
          | none =>
              rw [resolveExit, exit]
              exact (spec_lift_error _).mpr trivial
          | some x =>
              rw [resolveExit_eq_ok exit, spec_lift_ok]
              split
              · -- an exit that leads somewhere passes control on over the same stack
                next target led =>
                  unfold transfer
                  simp only [spec_bind, Option.any_some, led, Option.isNone_some]
                  cases entered : s.graph.resolveEnter target with
                  | error e => exact (spec_lift_error e).mpr trivial
                  | ok q =>
                      rw [spec_lift_ok, spec_get]
                      split
                      · exact (spec_throw _).mpr trivial
                      · rw [spec_pure]
                        rintro _ -
                        rfl
              · -- an exit that leads nowhere leaves the body
                next unwired =>
                  refine (resumeParent_depth wf alive).mono (fun _ after popped => ?_)
                    (fun _ _ _ => trivial)
                  rintro _ -
                  simp only [Option.any_some, unwired, Option.isNone_none]
                  simpa using popped
      | interrupt =>
          simp only [step, Control.leavesBody, Control.opensBody]
          refine (resumeParent_depth wf alive).mono (fun _ after popped => ?_)
            (fun _ _ _ => trivial)
          rintro _ -
          simpa using popped

end Flow

namespace Interpreter

variable {i : Interpreter} {f : FlowFunction} {args : List Value}

/-- The states a call passes through, as `Reachable` gives them, with the number of loop bodies
the run has opened and the number it has left on the way. -/
inductive ReachableAfter (i : Interpreter) (f : FlowFunction) (args : List Value) :
    Control → Context → Nat → Nat → Prop
  | start {first : EnterId} {ctx : Context} :
      (Flow.prepare ⟨f.graph, i.builtins⟩ i.settings.validateArguments f args).run.run
          (Context.start f.locals) = (.ok first, ctx) →
        ReachableAfter i f args (.arrive first) ctx 0 0
  | step {c c' : Control} {ctx ctx' : Context} {opened left : Nat} :
      ReachableAfter i f args c ctx opened left →
      (Flow.step ⟨f.graph, i.builtins⟩ c).run.run ctx = (.ok (.next c'), ctx') →
        ReachableAfter i f args c' ctx' (opened + (c.opensBody f.graph).toNat)
          (left + (c.leavesBody f.graph).toNat)

theorem ReachableAfter.reachable {c : Control} {ctx : Context} {opened left : Nat}
    (reach : i.ReachableAfter f args c ctx opened left) : i.Reachable f args c ctx := by
  induction reach with
  | start prepared => exact .start prepared
  | step _ stepped reach => exact .step reach stepped

/-- Every state a call passes through is reached after opening and leaving some numbers of loop
bodies. -/
theorem Reachable.counted {c : Control} {ctx : Context} (reach : i.Reachable f args c ctx) :
    ∃ opened left, i.ReachableAfter f args c ctx opened left := by
  induction reach with
  | start prepared => exact ⟨0, 0, .start prepared⟩
  | step _ stepped counted =>
      obtain ⟨opened, left, reach⟩ := counted
      exact ⟨_, _, .step reach stepped⟩

/-- At every state of a call the depth of the stack is the number of loop bodies opened less the
number left: preparing the call pushes no frame, and every step keeps the balance. -/
theorem ReachableAfter.depth (wf : f.graph.WellFormed) (tame : i.builtins.Tame)
    (entry : f.StartsAtEntry) {c : Control} {ctx : Context} {opened left : Nat}
    (reach : i.ReachableAfter f args c ctx opened left) : ctx.stack.length + left = opened := by
  induction reach with
  | start prepared =>
      have effect := (spec_of_run_ok prepared).mp
        ((Flow.prepare_effect wf i.settings.validateArguments f args).spec _)
      rw [effect.length]
      rfl
  | step before stepped balance =>
      have sound := before.reachable.sound wf tame entry
      have moved := (spec_of_run_ok stepped).mp (Flow.step_depth wf sound.owned sound.alive) _ rfl
      dsimp only at moved
      omega

/-- At every state of a call every frame on the stack is alive, so unwinding pops exactly
the top one. Whenever control arrives at an enter port, at the start of each node step,
every frame is the open frame of a loop node of the graph: its node is the loop, its state is
the loop's own, alive and with no break called, and its cursor is of the loop's kind, a
nonzero step with a current value in range for a counting loop, and at least one and at most
all items sent for a loop over an array. The depth of the stack is the number of loop bodies
the run has opened and not yet left. -/
theorem reachable_frames_open (tag : Nat) (name : String) (edits : List Graph.Edit)
    {i : Interpreter} {f : FlowFunction} {args : List Value}
    (built : f.graph = Graph.build tag name edits) (entry : f.StartsAtEntry)
    (registry : i.builtins = .standard ∨ i.builtins = .empty) {c : Control} {ctx : Context}
    (reach : i.Reachable f args c ctx) :
    ctx.stack.dropWhile (fun frame => !frame.state.alive) = ctx.stack ∧
      (∀ port, c = .arrive port → ∀ frame ∈ ctx.stack, ∃ n cursor,
        f.graph.node? frame.node = some n ∧ n.id = frame.node ∧
        frame.state = { node := frame.node, alive := true, data := .looping false cursor } ∧
        n.kind.Fits cursor) ∧
      ∀ {opened left : Nat}, i.ReachableAfter f args c ctx opened left →
        ctx.stack.length + left = opened := by
  have wf : f.graph.WellFormed := built ▸ Graph.build_wellFormed tag name edits
  have tame := Registry.tame_of_standard_or_empty registry
  have sound := reach.sound wf tame entry
  refine ⟨?_, ?_, fun counted => counted.depth wf tame entry⟩
  · -- the top frame is alive, so nothing is dropped
    cases stack : ctx.stack with
    | nil => rfl
    | cons top rest =>
        have alive := sound.alive top (by simp [stack])
        rw [List.dropWhile_cons_of_neg (by simp [alive])]
  · rintro port rfl frame member
    obtain ⟨n, cursor, node, state, fits⟩ := sound.2 frame member
    exact ⟨n, cursor, node, wf.node_id node, state, fits⟩

/-- A while loop whose condition defaults to true opens its body, which leads to the end
node; when control arrives there, after one body opened and none left, the loop's frame is on
the stack, open and unbroken, and it is the only frame. -/
theorem reachable_while_body_frame_open :
    let f : FlowFunction :=
      { symbol := "main", entry := ⟨0, 0⟩,
        graph := Graph.build 0 "main" [.addEntry [], .addWhile, .addEnd none,
          .connect ⟨0, 0⟩ ⟨0, 0⟩, .connectSubline ⟨0, 1⟩ ⟨0, 2⟩, .setDefault ⟨0, 0⟩ (.bool true)] }
    let ctx : Context :=
      { Context.start f.locals with stack := [⟨⟨0, 1⟩, .looping ⟨0, 1⟩ .condition⟩] }
    standard.Reachable f [] (.arrive ⟨0, 2⟩) ctx ∧
      (∃ n, f.graph.node? ⟨0, 1⟩ = some n ∧ n.kind.Fits .condition) ∧
      standard.ReachableAfter f [] (.arrive ⟨0, 2⟩) ctx 1 0 ∧ ctx.stack.length = 1 := by
  intro f ctx
  have reach : standard.Reachable f [] (.arrive ⟨0, 2⟩) ctx := .step (.step (.start rfl) rfl) rfl
  have counted : standard.ReachableAfter f [] (.arrive ⟨0, 2⟩) ctx 1 0 := by
    have run := ReachableAfter.step (ReachableAfter.step (@ReachableAfter.start standard f [] _ _ rfl)
      rfl) rfl
    exact run
  obtain ⟨-, frames, depth⟩ :=
    reachable_frames_open 0 "main" _ rfl ⟨_, [], [], ⟨0, 0⟩, rfl, rfl⟩ (.inl rfl) reach
  obtain ⟨n, cursor, found, _, state, fits⟩ :=
    frames ⟨0, 2⟩ rfl ⟨⟨0, 1⟩, .looping ⟨0, 1⟩ .condition⟩ List.mem_cons_self
  cases state
  exact ⟨reach, ⟨n, found, fits⟩, counted, depth counted⟩

end Interpreter

end Blueprint
