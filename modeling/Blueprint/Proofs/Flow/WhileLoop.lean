import Blueprint.Proofs.Flow.Runs

/-!
# While loops

A while loop reads its condition when control enters it, and again whenever it is resumed with
the frame it pushed, unbroken: when that frame is popped after a run of a wired body, or at once
when its body is unwired. Each read is one turn (`Flow.TurnsAt`): no value or false leaves
through the exit, true opens the body with the loop's own frame state, and any other value
fails. A wired body runs over the loop's frame, pushed on top of the stack the loop was entered
on (`Flow.BodyRun`).

`Flow.WhileRun` is the loop's big-step semantics: it stops at a read that gives false and, at a
read that gives true, runs its body once and reads again, counting the runs. Every such
derivation is the run the machine makes (`WhileRun.leads`), from the enter port to the exit on
the stack it was entered on, and it is determined by the context the loop starts from
(`WhileRun.deterministic`), so the body runs exactly as many times as reads give true before the
first that does not.
-/

namespace Blueprint

open FlowM

namespace Flow

variable {s : Scope} {ctx : Context}

/-- The result and context of a computation that hands its value to `f`. -/
theorem run_map_of_run {α β : Type} {x : FlowM α} {f : α → β} {r : Except Fault α}
    {after : Context} (ran : x.run.run ctx = (r, after)) :
    (x >>= fun a => pure (f a)).run.run ctx = (r.map f, after) := by
  simp only [run_bind, ran]
  cases r <;> rfl

/-! ## Reading the condition -/

section Condition

variable {g : Graph} {port : InputId} {after : Context}

theorem readCondition_of_none (read : (input g port).run.run ctx = (.ok none, after)) :
    (readCondition g port).run.run ctx = (.ok false, after) := by
  simp only [readCondition, run_bind, read]
  rfl

theorem readCondition_of_bool {b : Bool}
    (read : (input g port).run.run ctx = (.ok (some (.bool b)), after)) :
    (readCondition g port).run.run ctx = (.ok b, after) := by
  simp only [readCondition, run_bind, read]
  rfl

theorem readCondition_of_other {v : Value} (other : ∀ b, v ≠ .bool b)
    (read : (input g port).run.run ctx = (.ok (some v), after)) :
    (readCondition g port).run.run ctx = (.error (.typeMismatch "boolean" v.kindName), after) := by
  simp only [readCondition, run_bind, read]
  cases v with
  | bool b => exact absurd rfl (other b)
  | number _ | text _ | array _ | entity _ => rfl

theorem readCondition_of_error {e : Fault}
    (read : (input g port).run.run ctx = (.error e, after)) :
    (readCondition g port).run.run ctx = (.error e, after) := by
  simp only [readCondition, run_bind, read]

end Condition

/-! ## Turns of a while loop -/

/-- The step from `c` in `ctx₀` is a turn of the while loop `W` that reads its condition in
`ctx`: it hands back what the read decides, the loop's body opened with its own frame state or
its exit, in the context the read leaves, and it fails as the read fails. -/
def TurnsAt (s : Scope) (W : Node) (condition : InputId) (lp : LoopPorts) (c : Control)
    (ctx₀ ctx : Context) : Prop :=
  ∀ r after, (readCondition s.graph condition).run.run ctx = (r, after) →
    (step s c).run.run ctx₀ = (r.map fun b => .next (.handBack W
      (cond b (.subline lp.body (.looping W.id .condition)) (.exit lp.exit))), after)

section Turns

variable {W : Node} {condition : InputId} {lp : LoopPorts}

theorem execute_while_enter (kind : W.kind = .whileLoop condition lp)
    {r : Except Fault Bool} {after : Context}
    (read : (readCondition s.graph condition).run.run ctx = (r, after)) :
    (W.execute s lp.enter).run.run ctx =
      (r.map fun b => cond b (.subline lp.body (.looping W.id .condition)) (.exit lp.exit),
        after) := by
  simp only [Node.execute, kind]
  rw [if_pos (by trivial), run_bind, read]
  cases r with
  | ok b => cases b <;> rfl
  | error e => rfl

/-- Resumed with a frame it pushed and no break called, a while loop reads its condition again
and opens its body with the same frame state, or leaves. -/
theorem resume_while_unbroken (kind : W.kind = .whileLoop condition lp) {state : FlowState}
    {cursor : Cursor} (owned : state.node = W.id) (unbroken : state.data = .looping false cursor)
    {r : Except Fault Bool} {after : Context}
    (read : (readCondition s.graph condition).run.run ctx = (r, after)) :
    (W.resume s state).run.run ctx =
      (r.map fun b => cond b (.subline lp.body state) (.exit lp.exit), after) := by
  have go : shouldContinue state W.id = .ok true := by
    simp only [shouldContinue, owned, ne_eq, not_true_eq_false, if_false, unbroken]
    rfl
  simp only [Node.resume, kind, run_bind, go, run_lift_ok]
  rw [if_pos (by trivial), run_bind, read]
  cases r with
  | ok b => cases b <;> rfl
  | error e => rfl

end Turns

/-- A control that hands back to the node of the innermost frame: an interrupt, or an exit that
leads nowhere. -/
def Returns (g : Graph) : Control → Prop
  | .handBack _ .interrupt => True
  | .handBack _ (.exit port) => ∃ x, g.exit? port = some x ∧ x.target = none
  | _ => False

theorem step_of_returns {c : Control} (returns : Returns s.graph c) :
    (step s c).run.run ctx = (resumeParent s).run.run ctx := by
  cases c with
  | arrive _ => exact False.elim returns
  | handBack n next =>
      cases next with
      | interrupt => rfl
      | exit port =>
          obtain ⟨x, exitFound, unwired⟩ := returns
          simp only [step, run_bind, Graph.resolveExit_eq_ok exitFound, run_lift_ok, unwired]
      | subline _ _ => exact False.elim returns

section Loop

variable {m : NodeId} {W : Node} {condition : InputId} {lp : LoopPorts}
  (wf : s.graph.WellFormed) (found : s.graph.node? m = some W)
  (kind : W.kind = .whileLoop condition lp)
include wf found kind

/-- Entering a while loop is a turn that reads its condition in the context it is entered in. -/
theorem turnsAt_enter (ctx : Context) : TurnsAt s W condition lp (.arrive lp.enter) ctx ctx := by
  intro r after read
  obtain ⟨p, enter, owner⟩ := wf.enter_of_mem found (e := lp.enter)
    (by simp [kind, NodeKind.enters])
  have node : s.graph.node? p.node = some W := by rw [owner]; exact found
  have loop : W.kind.loop? = some lp := by rw [kind]; rfl
  rw [step_arrive_run enter node (Node.isEnd_of_loop? loop),
    run_map_of_run (execute_while_enter kind read)]
  cases r <;> rfl

/-- When a run hands back to a while loop's unbroken frame on top of the stack, the frame is
popped and the loop takes a turn that reads its condition over the stack below. -/
theorem turnsAt_pop {c : Control} (returns : Returns s.graph c) {ctx₀ : Context}
    {rest : List Frame} (stack : ctx₀.stack = ⟨W.id, .looping W.id .condition⟩ :: rest) :
    TurnsAt s W condition lp c ctx₀ { ctx₀ with stack := rest } := by
  intro r after read
  have owned : W.id = m := wf.node_id found
  have node : s.graph.node? W.id = some W := by rw [owned]; exact found
  rw [step_of_returns returns]
  simp only [resumeParent, run_bind, unwind_run_cons stack rfl, Graph.resolveNode_eq_ok node,
    run_lift_ok]
  rw [resume_while_unbroken kind rfl rfl read]
  cases r <;> rfl

end Loop

/-- A while loop whose body leads nowhere resumes at once: handing back its body is a turn that
reads its condition again, in the same context. -/
theorem turnsAt_unwired {W : Node} {condition : InputId} {lp : LoopPorts}
    (kind : W.kind = .whileLoop condition lp) {x : ExitPort}
    (bodyExit : s.graph.exit? lp.body = some x) (unwired : x.target = none) (ctx : Context) :
    TurnsAt s W condition lp (.handBack W (.subline lp.body (.looping W.id .condition))) ctx
      ctx := by
  intro r after read
  simp only [step, run_bind, Graph.resolveExit_eq_ok bodyExit, run_lift_ok, unwired]
  rw [resume_while_unbroken kind rfl rfl read]
  cases r <;> rfl

/-- A loop whose body leads somewhere opens it by pushing its frame on the stack and arriving
where the body starts. -/
theorem step_subline_wired {n : Node} {port : ExitId} {x : ExitPort} {target : EnterId}
    (bodyExit : s.graph.exit? port = some x) (wired : x.target = some target) (state : FlowState)
    (before : Context) :
    (step s (.handBack n (.subline port state))).run.run before =
      (.ok (.next (.arrive target)), { before with stack := ⟨n.id, state⟩ :: before.stack }) := by
  simp only [step, run_bind, Graph.resolveExit_eq_ok bodyExit, run_lift_ok, wired]
  rfl

/-- Past a turn that succeeds, the stack is the one the condition was read over. -/
theorem TurnsAt.stack {W : Node} {condition : InputId} {lp : LoopPorts} {p : InputPort}
    (wf : s.graph.WellFormed) (input : s.graph.input? condition = some p) {c c' : Control}
    {ctx₀ ctx' : Context} (turn : TurnsAt s W condition lp c ctx₀ ctx)
    (stepped : (step s c).run.run ctx₀ = (.ok (.next c'), ctx')) : ctx'.stack = ctx.stack := by
  cases read : (readCondition s.graph condition).run.run ctx with
  | mk r after =>
      rw [turn r after read] at stepped
      cases r with
      | ok b =>
          cases stepped
          exact (readCondition_calm wf input ctx).of_ok read
      | error e => cases stepped

/-! ## Runs of a while loop -/

/-- One run of a loop's body from `before`: the body starts at `target` with `frame` pushed over
`before`'s stack, keeps the frame where it was pushed at every step, and ends by handing control
back with the frame on top again; `after` is the context in which the frame is popped. -/
def BodyRun (s : Scope) (frame : Frame) (target : EnterId) (before after : Context) : Prop :=
  ∃ c ended, Leads s (fun _ ctx => ∃ above, ctx.stack = above ++ frame :: before.stack)
      (.arrive target) { before with stack := frame :: before.stack } c ended ∧
    Returns s.graph c ∧ ended.stack = frame :: before.stack ∧
    after = { ended with stack := before.stack }

theorem stack_ne_of_popped {frame : Frame} {below above : List Frame} :
    below ≠ above ++ frame :: below := fun same => by
  have lengths := congrArg List.length same
  simp only [List.length_append, List.length_cons] at lengths
  omega

/-- A run that keeps a frame in place over a stack never comes back to it from a state where the
frame is out of its place. -/
theorem Leads.not_kept {frame : Frame} {below : List Frame} {c c' : Control}
    {ctx ctx' : Context}
    (run : Leads s (fun _ ctx => ∃ above, ctx.stack = above ++ frame :: below) c ctx c' ctx')
    (left : ∀ above, ctx.stack ≠ above ++ frame :: below) (kept : ctx'.stack = frame :: below) :
    False := by
  cases run with
  | refl => exact left [] kept
  | step holds _ _ =>
      obtain ⟨above, stack⟩ := holds
      exact left above stack

/-- Of two runs that keep a frame in place, the one that ends at a state whose next step moves
the frame out of its place ends where the other ends, if the other ends with the frame on top. -/
theorem Leads.eq_of_leaves {frame : Frame} {below : List Frame} {c₁ c₂ : Control}
    {e₁ e₂ : Context}
    (run : Leads s (fun _ ctx => ∃ above, ctx.stack = above ++ frame :: below) c₁ e₁ c₂ e₂)
    (leaves : ∀ c' e', (Flow.step s c₁).run.run e₁ = (.ok (.next c'), e') →
      ∀ above, e'.stack ≠ above ++ frame :: below)
    (kept : e₂.stack = frame :: below) : c₁ = c₂ ∧ e₁ = e₂ := by
  cases run with
  | refl => exact ⟨rfl, rfl⟩
  | step _ stepped rest => exact (rest.not_kept (leaves _ _ stepped) kept).elim

/-- The big-step semantics of a while loop `W` from a read of its condition: how many times it
runs its body, whose exit leads to `body`, before a read gives false, and the context it leaves
through its exit with. -/
inductive WhileRun (s : Scope) (W : Node) (condition : InputId) (body : Option EnterId) :
    Context → Nat → Context → Prop
  /-- a read that gives false ends the loop -/
  | stop {ctx after : Context} :
      (readCondition s.graph condition).run.run ctx = (.ok false, after) →
      WhileRun s W condition body ctx 0 after
  /-- a read that gives true, with the body leading nowhere, resumes the loop at once -/
  | skip {ctx read after : Context} {k : Nat} : body = none →
      (readCondition s.graph condition).run.run ctx = (.ok true, read) →
      WhileRun s W condition body read k after → WhileRun s W condition body ctx (k + 1) after
  /-- a read that gives true, with the body wired, runs the body once over the loop's frame -/
  | loop {target : EnterId} {ctx read ran after : Context} {k : Nat} : body = some target →
      (readCondition s.graph condition).run.run ctx = (.ok true, read) →
      BodyRun s ⟨W.id, .looping W.id .condition⟩ target read ran →
      WhileRun s W condition body ran k after → WhileRun s W condition body ctx (k + 1) after

section Runs

variable {m : NodeId} {W : Node} {condition : InputId} {lp : LoopPorts} {x : ExitPort}
  {p : InputPort} (wf : s.graph.WellFormed) (found : s.graph.node? m = some W)
  (kind : W.kind = .whileLoop condition lp) (bodyExit : s.graph.exit? lp.body = some x)
  (input : s.graph.input? condition = some p)

include wf found kind bodyExit in
/-- Every run of a while loop in the big-step semantics is a run of the machine: from a turn that
reads the condition where the loop run starts, to the loop's exit, in the context it ends with. -/
theorem WhileRun.leads {ctx after : Context} {k : Nat}
    (run : WhileRun s W condition x.target ctx k after) {c : Control} {ctx₀ : Context}
    (turn : TurnsAt s W condition lp c ctx₀ ctx) :
    Leads s (fun _ _ => True) c ctx₀ (.handBack W (.exit lp.exit)) after := by
  induction run generalizing c ctx₀ with
  | stop read => exact .single trivial (turn _ _ read)
  | skip unwired read _ ih =>
      exact .step trivial (turn _ _ read) (ih (turnsAt_unwired kind bodyExit unwired _))
  | loop wired read body _ ih =>
      -- the body opens over the loop's frame, runs, and hands back to the loop, which pops it
      obtain ⟨c', ended, inside, returns, stack, rfl⟩ := body
      exact .step trivial (turn _ _ read) (.step trivial (step_subline_wired bodyExit wired _ _)
        ((inside.mono fun _ _ _ => trivial).trans (ih (turnsAt_pop wf found kind returns stack))))

include wf input in
/-- A while loop leaves on the stack its run started on. -/
theorem WhileRun.stack {body : Option EnterId} {ctx after : Context} {k : Nat}
    (run : WhileRun s W condition body ctx k after) : after.stack = ctx.stack := by
  induction run with
  | stop read => exact (readCondition_calm wf input _).of_ok read
  | skip _ read _ ih =>
      have kept := (readCondition_calm wf input _).of_ok read
      exact ih.trans kept
  | loop _ read body _ ih =>
      -- the body ends on the stack it started on, the one the condition was read over
      obtain ⟨_, _, _, _, _, rfl⟩ := body
      have kept := (readCondition_calm wf input _).of_ok read
      exact ih.trans kept

include wf found kind input in
/-- One run of a while loop's body is determined by the context it starts from. -/
theorem BodyRun.deterministic {target : EnterId} {before after after' : Context}
    (first : BodyRun s ⟨W.id, .looping W.id .condition⟩ target before after)
    (second : BodyRun s ⟨W.id, .looping W.id .condition⟩ target before after') :
    after = after' := by
  obtain ⟨c, ended, run, returns, stack, rfl⟩ := first
  obtain ⟨c', ended', run', returns', stack', rfl⟩ := second
  -- neither run goes past the other's end: the step from there pops the loop's frame
  have leaves : ∀ {c₁ : Control} {ended₁ : Context}, Returns s.graph c₁ →
      ended₁.stack = ⟨W.id, .looping W.id .condition⟩ :: before.stack →
      ∀ c'' e'', (step s c₁).run.run ended₁ = (.ok (.next c''), e'') →
        ∀ above, e''.stack ≠ above ++ ⟨W.id, .looping W.id .condition⟩ :: before.stack := by
    intro c₁ ended₁ returns₁ stack₁ c'' e'' stepped above
    rw [(turnsAt_pop wf found kind returns₁ stack₁).stack wf input stepped]
    exact stack_ne_of_popped
  rcases run.determined run' with later | later
  · rw [(later.eq_of_leaves (leaves returns stack) stack').2]
  · rw [(later.eq_of_leaves (leaves returns' stack') stack).2]

include wf found kind input in
/-- The big-step semantics of a while loop is deterministic: the number of runs of its body and
the context it leaves with are determined by the context it starts from. -/
theorem WhileRun.deterministic {body : Option EnterId} {ctx after after' : Context} {k k' : Nat}
    (first : WhileRun s W condition body ctx k after)
    (second : WhileRun s W condition body ctx k' after') : k = k' ∧ after = after' := by
  induction first generalizing k' after' with
  | stop read =>
      cases second with
      | stop read' =>
          rw [read] at read'
          cases read'
          exact ⟨rfl, rfl⟩
      | skip _ read' _ | loop _ read' _ _ =>
          rw [read] at read'
          cases read'
  | skip unwired read _ ih =>
      cases second with
      | stop read' =>
          rw [read] at read'
          cases read'
      | skip _ read' rest =>
          rw [read] at read'
          cases read'
          obtain ⟨same, rfl⟩ := ih rest
          exact ⟨congrArg (· + 1) same, rfl⟩
      | loop wired _ _ _ => rw [unwired] at wired; cases wired
  | loop wired read body _ ih =>
      cases second with
      | stop read' =>
          rw [read] at read'
          cases read'
      | skip unwired _ _ => rw [unwired] at wired; cases wired
      | loop wired' read' body' rest =>
          rw [wired] at wired'
          cases wired'
          rw [read] at read'
          cases read'
          cases BodyRun.deterministic wf found kind input body body'
          obtain ⟨same, rfl⟩ := ih rest
          exact ⟨congrArg (· + 1) same, rfl⟩

end Runs

end Flow

namespace Interpreter

/-- A while loop of a function on a built graph reads its condition when it is entered, when the
frame it pushed is popped with no break called, and at once after each turn when its body leads
nowhere: no value counts as false, a Boolean counts as itself, and any other value fails with a
type mismatch. True opens the body, which, when wired, starts with the loop's own frame pushed on
the stack the loop was entered on; false leaves through the exit. So every run of the loop's
big-step semantics, which runs the body once for each read that gives true before the first that
does not, is the run the machine makes from the loop's enter port to its exit, over the stack the
loop was entered on; and the number of runs is determined by the context it is entered in. -/
theorem while_runs_body_per_true_read (tag : Nat) (name : String) (edits : List Graph.Edit)
    {i : Interpreter} {f : FlowFunction} (built : f.graph = Graph.build tag name edits)
    {m : NodeId} {W : Node} {condition : InputId} {lp : LoopPorts}
    (found : f.graph.node? m = some W) (kind : W.kind = .whileLoop condition lp) :
    let s : Scope := ⟨f.graph, i.builtins⟩
    let frame : Frame := ⟨W.id, .looping W.id .condition⟩
    -- what a read of the condition gives
    (∀ {ctx after : Context}, (Flow.input f.graph condition).run.run ctx = (.ok none, after) →
      (Flow.readCondition f.graph condition).run.run ctx = (.ok false, after)) ∧
    (∀ {ctx after : Context} {b : Bool},
      (Flow.input f.graph condition).run.run ctx = (.ok (some (.bool b)), after) →
      (Flow.readCondition f.graph condition).run.run ctx = (.ok b, after)) ∧
    (∀ {ctx after : Context} {v : Value}, (∀ b, v ≠ .bool b) →
      (Flow.input f.graph condition).run.run ctx = (.ok (some v), after) →
      (Flow.readCondition f.graph condition).run.run ctx =
        (.error (.typeMismatch "boolean" v.kindName), after)) ∧
    -- when the condition is read
    (∀ ctx, Flow.TurnsAt s W condition lp (.arrive lp.enter) ctx ctx) ∧
    (∀ {c : Control} {ctx : Context} {rest : List Frame}, Flow.Returns f.graph c →
      ctx.stack = frame :: rest → Flow.TurnsAt s W condition lp c ctx { ctx with stack := rest }) ∧
    ∃ x, f.graph.exit? lp.body = some x ∧
      (x.target = none → ∀ ctx,
        Flow.TurnsAt s W condition lp (.handBack W (.subline lp.body frame.state)) ctx ctx) ∧
      (∀ {target : EnterId}, x.target = some target → ∀ ctx,
        (Flow.step s (.handBack W (.subline lp.body frame.state))).run.run ctx =
          (.ok (.next (.arrive target)), { ctx with stack := frame :: ctx.stack })) ∧
      -- what a whole run of the loop does
      (∀ {ctx after : Context} {k : Nat}, Flow.WhileRun s W condition x.target ctx k after →
        after.stack = ctx.stack ∧ ∃ n, ∀ fuel,
          (Flow.runFrom s (fuel + n) (.arrive lp.enter)).run.run ctx =
            (Flow.runFrom s fuel (.handBack W (.exit lp.exit))).run.run after) ∧
      (∀ {ctx after after' : Context} {k k' : Nat},
        Flow.WhileRun s W condition x.target ctx k after →
        Flow.WhileRun s W condition x.target ctx k' after' → k = k' ∧ after = after') := by
  intro s frame
  have wf : f.graph.WellFormed := built ▸ Graph.build_wellFormed tag name edits
  obtain ⟨p, input, _⟩ := wf.input_of_mem found (i := condition) (by simp [kind, NodeKind.inputs])
  obtain ⟨x, bodyExit, _⟩ := wf.exit_of_mem found (x := lp.body) (by simp [kind, NodeKind.exits])
  refine ⟨Flow.readCondition_of_none, Flow.readCondition_of_bool, Flow.readCondition_of_other,
    Flow.turnsAt_enter (s := s) wf found kind,
    fun returns stack => Flow.turnsAt_pop (s := s) wf found kind returns stack, x,
    bodyExit, Flow.turnsAt_unwired kind bodyExit,
    fun wired => Flow.step_subline_wired bodyExit wired frame.state, fun run => ⟨?_, ?_⟩,
    fun first second => first.deterministic wf found kind input second⟩
  · exact run.stack wf input
  · exact (run.leads wf found kind bodyExit (Flow.turnsAt_enter wf found kind _)).runFrom

/-- Two while loops, each run to its exit by the machine. One whose condition defaults to false
leaves at once, without running its body. One whose condition defaults to true, with a body that
writes false to the condition, runs its body once and then leaves. -/
theorem while_body_runs_zero_or_one_times :
    (let f : FlowFunction :=
      { symbol := "main", entry := ⟨0, 0⟩,
        graph := Graph.build 0 "main" [.addWhile, .setDefault ⟨0, 0⟩ (.bool false)] }
    ∃ W, f.graph.node? ⟨0, 0⟩ = some W ∧ ∃ n, ∀ fuel,
      (Flow.runFrom ⟨f.graph, standard.builtins⟩ (fuel + n) (.arrive ⟨0, 0⟩)).run.run {} =
        (Flow.runFrom ⟨f.graph, standard.builtins⟩ fuel (.handBack W (.exit ⟨0, 1⟩))).run.run {}) ∧
    (let f : FlowFunction :=
      { symbol := "main", entry := ⟨0, 0⟩,
        graph := Graph.build 0 "main" [.addWhile, .addExpression, .addExpressionInput ⟨0, 1⟩ "x",
          .setExpression ⟨0, 1⟩ (.const (.bool false)), .attach ⟨0, 0⟩ ⟨0, 0⟩,
          .connectSubline ⟨0, 0⟩ ⟨0, 2⟩, .setDefault ⟨0, 0⟩ (.bool true)] }
    ∃ W after, f.graph.node? ⟨0, 0⟩ = some W ∧
      Flow.WhileRun ⟨f.graph, standard.builtins⟩ W ⟨0, 0⟩ (some ⟨0, 2⟩) {} 1 after ∧ ∃ n, ∀ fuel,
        (Flow.runFrom ⟨f.graph, standard.builtins⟩ (fuel + n) (.arrive ⟨0, 0⟩)).run.run {} =
          (Flow.runFrom ⟨f.graph, standard.builtins⟩ fuel (.handBack W (.exit ⟨0, 1⟩))).run.run
            after) := by
  constructor
  · intro f
    obtain ⟨_, _, _, _, _, x, _, _, _, runs, _⟩ :=
      while_runs_body_per_true_read 0 "main" _ (i := standard) (f := f) rfl (m := ⟨0, 0⟩) rfl rfl
    exact ⟨_, rfl, (runs (.stop rfl)).2⟩
  · intro f
    obtain ⟨_, _, _, _, _, x, bodyExit, _, _, runs, _⟩ :=
      while_runs_body_per_true_read 0 "main" _ (i := standard) (f := f) rfl (m := ⟨0, 0⟩)
        (W := (f.graph.node? ⟨0, 0⟩).get rfl) rfl rfl
    have wired : x.target = some ⟨0, 2⟩ := by
      have found : f.graph.exit? ⟨0, 0⟩ = some x := bodyExit
      cases found
      rfl
    -- the body runs once: from the expression's enter port to its exit, which leads nowhere
    have run : Flow.WhileRun ⟨f.graph, standard.builtins⟩ ((f.graph.node? ⟨0, 0⟩).get rfl) ⟨0, 0⟩
        (some ⟨0, 2⟩) {} 1 _ :=
      .loop rfl rfl ⟨_, _, .step ⟨[], rfl⟩ rfl .refl, ⟨_, rfl, rfl⟩, rfl, rfl⟩ (.stop rfl)
    exact ⟨_, _, rfl, run, (runs (wired ▸ run)).2⟩

end Interpreter

end Blueprint
