import Blueprint.Proofs.Flow.Safety

/-!
# Breaking out of a loop

A loop node has two enter ports, and control that arrives at the second, its break port,
calls a break. The break is the loop's own only when the frame on top of the stack is: it
marks that frame and interrupts, the next step pops the marked frame, and the loop, resumed
with it, leaves through its exit at once, reading no input and sending no value. Over any
other top frame, or none, the break fails with a break outside a loop and leaves the context
as it was. An exit that leads to a break port over an empty stack fails the same way: the
transfer refuses a hole over an empty stack, and a break port that were not a hole would
fail at the break itself.

The statements are equations between runs: from the state where control arrives at the
break port, two steps lead to the loop's exit over the stack below the frame, with the rest
of the context untouched.
-/

namespace Blueprint

open FlowM

namespace Graph

variable {g : Graph}

/-- A loop's break port is an enter port of the graph that names the loop. -/
theorem WellFormed.breakIn_of_loop? (wf : g.WellFormed) {m : NodeId} {n : Node} {lp : LoopPorts}
    (found : g.node? m = some n) (loop : n.kind.loop? = some lp) :
    ∃ p, g.enter? lp.breakIn = some p ∧ p.node = m :=
  wf.enter_of_mem found (by simp [NodeKind.enters_of_loop? loop])

/-- A loop lists its two enter ports once each, so its break port is not its enter port. -/
theorem WellFormed.breakIn_ne_enter (wf : g.WellFormed) {m : NodeId} {n : Node} {lp : LoopPorts}
    (found : g.node? m = some n) (loop : n.kind.loop? = some lp) : lp.breakIn ≠ lp.enter := by
  have nodup := wf.ports_nodup found .enter
  simp only [NodeKind.ports, NodeKind.enters_of_loop? loop, List.nodup_cons,
    List.mem_singleton] at nodup
  exact fun same => nodup.1 same.symm

end Graph

namespace Flow

variable {ctx : Context}

/-- Control that arrives at a loop's break port breaks the loop. -/
theorem execute_breakIn {s : Scope} {n : Node} {lp : LoopPorts} (loop : n.kind.loop? = some lp)
    (distinct : lp.breakIn ≠ lp.enter) : n.execute s lp.breakIn = breakLoop n.id := by
  unfold Node.execute
  cases kind : n.kind with
  | whileLoop condition loop' =>
      rw [kind] at loop
      cases loop
      simp only [if_neg distinct, ↓reduceIte]
  | forLoop start stop step index loop' =>
      rw [kind] at loop
      cases loop
      simp only [↓reduceIte]
  | forOfLoop array item loop' =>
      rw [kind] at loop
      cases loop
      simp only [↓reduceIte]
  | entry _ _ _ | finish _ _ _ | var _ _ _ _ _ | branch _ _ _ _ | expression _ _ _ _ _ _ =>
      rw [kind] at loop
      cases loop

/-- A step that goes on to a control leaves the rest of the run to that control. -/
theorem runFrom_succ_of_next {s : Scope} {c c' : Control} {after : Context} (fuel : Nat)
    (stepped : (step s c).run.run ctx = (.ok (.next c'), after)) :
    (runFrom s (fuel + 1) c).run.run ctx = (runFrom s fuel c').run.run after := by
  simp only [runFrom, run_bind, stepped]

/-- A step that fails ends the run with its failure. -/
theorem runFrom_succ_of_error {s : Scope} {c : Control} {e : Fault} {after : Context}
    (fuel : Nat) (stepped : (step s c).run.run ctx = (.error e, after)) :
    (runFrom s (fuel + 1) c).run.run ctx = (.error e, after) := by
  simp only [runFrom, run_bind, stepped]

/-- Arriving at an enter port of a node other than an end node executes the node through the
port and hands back what it gives. -/
theorem step_arrive_run {s : Scope} {port : EnterId} {p : EnterPort} {n : Node}
    (enter : s.graph.enter? port = some p) (node : s.graph.node? p.node = some n)
    (notEnd : n.isEnd = false) :
    (step s (.arrive port)).run.run ctx =
      (n.execute s port >>= fun c => pure (Step.next (.handBack n c))).run.run ctx := by
  simp only [step, run_bind, Graph.resolveEnter_eq_ok enter, Graph.resolveNode_eq_ok node,
    run_lift_ok, notEnd, Bool.false_eq_true, if_false]

/-- An interrupt pops the alive frame on top of the stack and resumes its node with it. -/
theorem step_interrupt_run {s : Scope} {n m : Node} {top : Frame} {rest : List Frame}
    (stack : ctx.stack = top :: rest) (alive : top.state.alive = true)
    (node : s.graph.node? top.node = some m) :
    (step s (.handBack n .interrupt)).run.run ctx =
      (m.resume s top.state >>= fun c => pure (Step.next (.handBack m c))).run.run
        { ctx with stack := rest } := by
  simp only [step, resumeParent, run_bind, unwind_run_cons stack alive,
    Graph.resolveNode_eq_ok node, run_lift_ok]

/-- An exit led to an enter port passes control there. -/
theorem step_exit_run {s : Scope} {n : Node} {port : ExitId} {x : ExitPort} {target : EnterId}
    (exitFound : s.graph.exit? port = some x) (led : x.target = some target) :
    (step s (.handBack n (.exit port))).run.run ctx = (transfer s target).run.run ctx := by
  simp only [step, run_bind, Graph.resolveExit_eq_ok exitFound, run_lift_ok, led]

/-- Over an empty stack a transfer refuses a hole and arrives at any other enter port; either
way it leaves the context as it was. -/
theorem transfer_run_empty {s : Scope} {target : EnterId} {q : EnterPort}
    (enter : s.graph.enter? target = some q) (stack : ctx.stack = []) :
    (transfer s target).run.run ctx =
      if q.kind = .hole then (.error .breakOutsideLoop, ctx)
      else (.ok (.next (.arrive target)), ctx) := by
  simp only [transfer, run_bind, Graph.resolveEnter_eq_ok enter, run_lift_ok, run_get, stack,
    List.isEmpty_nil, and_true]
  split <;> rfl

/-! ## The two steps of a break -/

section Steps

variable {s : Scope} (wf : s.graph.WellFormed) {m : NodeId} {L : Node} {lp : LoopPorts}
  (found : s.graph.node? m = some L) (loop : L.kind.loop? = some lp)
include wf found loop

/-- Arriving at a loop's break port runs the break of the loop. -/
theorem step_breakIn_run :
    (step s (.arrive lp.breakIn)).run.run ctx =
      (breakLoop m >>= fun c => pure (Step.next (.handBack L c))).run.run ctx := by
  obtain ⟨p, enter, owner⟩ := wf.breakIn_of_loop? found loop
  rw [step_arrive_run enter (by rw [owner]; exact found) (Node.isEnd_of_loop? loop),
    execute_breakIn loop (wf.breakIn_ne_enter found loop), wf.node_id found]

/-- With a frame the loop opened on top of the stack, the break marks the frame and
interrupts. -/
theorem step_breakIn_top {top : Frame} {rest : List Frame} {broken : Bool} {cursor : Cursor}
    (stack : ctx.stack = top :: rest) (owned : top.node = m)
    (looping : top.state.data = .looping broken cursor) :
    (step s (.arrive lp.breakIn)).run.run ctx =
      (.ok (.next (.handBack L .interrupt)), { ctx with stack :=
        { top with state := { top.state with data := .looping true cursor } } :: rest }) := by
  rw [step_breakIn_run wf found loop, run_bind, breakLoop_run_top stack owned looping]
  rfl

/-- With another frame on top of the stack, or none, the break fails and leaves the context
as it was. -/
theorem step_breakIn_other (other : ∀ f ∈ ctx.stack.head?, f.node ≠ m) :
    (step s (.arrive lp.breakIn)).run.run ctx = (.error .breakOutsideLoop, ctx) := by
  rw [step_breakIn_run wf found loop, run_bind, breakLoop_run_other other]

/-- The interrupt of a break pops the frame it marked, and the loop leaves through its exit
over the stack below. -/
theorem step_interrupt_broken {n : Node} {top : Frame} {rest : List Frame} {cursor : Cursor}
    (stack : ctx.stack = top :: rest) (owned : top.node = m)
    (state : top.state = { node := m, alive := true, data := .looping true cursor }) :
    (step s (.handBack n .interrupt)).run.run ctx =
      (.ok (.next (.handBack L (.exit lp.exit))), { ctx with stack := rest }) := by
  have alive : top.state.alive = true := by rw [state]
  have resumed : (L.resume s top.state).run.run { ctx with stack := rest } =
      (.ok (.exit lp.exit), { ctx with stack := rest }) :=
    resume_broken_run loop (by rw [state, wf.node_id found]) (by rw [state])
  rw [step_interrupt_run stack alive (by rw [owned]; exact found), run_bind, resumed]
  rfl

/-- With an open frame of the loop on top of the stack, a break and the interrupt after it
lead to the loop's exit over the stack below the frame, the rest of the context untouched. -/
theorem runFrom_breakIn_top {top : Frame} {rest : List Frame} {broken : Bool}
    (stack : ctx.stack = top :: rest) (owned : top.node = m) (opened : top.Open s.graph broken)
    (fuel : Nat) :
    (runFrom s (fuel + 2) (.arrive lp.breakIn)).run.run ctx =
      (runFrom s fuel (.handBack L (.exit lp.exit))).run.run { ctx with stack := rest } := by
  obtain ⟨_, cursor, _, state, _⟩ := opened
  let marked : Frame := { top with state := { top.state with data := .looping true cursor } }
  have breaks : (step s (.arrive lp.breakIn)).run.run ctx =
      (.ok (.next (.handBack L .interrupt)), { ctx with stack := marked :: rest }) :=
    step_breakIn_top wf found loop stack owned (by rw [state])
  have markedState : marked.state = { node := m, alive := true, data := .looping true cursor } :=
    by simp only [marked, state, owned]
  have pops : (step s (.handBack L .interrupt)).run.run { ctx with stack := marked :: rest } =
      (.ok (.next (.handBack L (.exit lp.exit))), { ctx with stack := rest }) :=
    step_interrupt_broken wf found loop rfl owned markedState
  rw [runFrom_succ_of_next _ breaks, runFrom_succ_of_next _ pops]

/-- With another frame on top of the stack, or none, a break ends the run at once. -/
theorem runFrom_breakIn_other (other : ∀ f ∈ ctx.stack.head?, f.node ≠ m) (fuel : Nat) :
    (runFrom s (fuel + 1) (.arrive lp.breakIn)).run.run ctx = (.error .breakOutsideLoop, ctx) :=
  runFrom_succ_of_error fuel (step_breakIn_other wf found loop other)

/-- Over an empty stack, an exit led to the loop's break port ends the run within two steps:
the transfer refuses a hole, and any other port is entered and the break fails there. -/
theorem runFrom_exit_breakIn_empty {n : Node} {port : ExitId} {x : ExitPort}
    (exitFound : s.graph.exit? port = some x) (led : x.target = some lp.breakIn)
    (stack : ctx.stack = []) (fuel : Nat) :
    (runFrom s (fuel + 2) (.handBack n (.exit port))).run.run ctx =
      (.error .breakOutsideLoop, ctx) := by
  obtain ⟨q, enter, _⟩ := wf.breakIn_of_loop? found loop
  have toBreak : (step s (.handBack n (.exit port))).run.run ctx =
      (transfer s lp.breakIn).run.run ctx :=
    step_exit_run exitFound led
  rw [transfer_run_empty enter stack] at toBreak
  by_cases hole : q.kind = .hole
  · rw [if_pos hole] at toBreak
    exact runFrom_succ_of_error (fuel + 1) toBreak
  · rw [if_neg hole] at toBreak
    rw [runFrom_succ_of_next (fuel + 1) toBreak]
    exact runFrom_breakIn_other wf found loop (by simp [stack]) fuel

end Steps

end Flow

namespace Interpreter

/-- A break at a loop of a function that starts at an entry node of a graph built by the
graph's own operations, with the standard or the empty registry. When a call arrives at the
loop's break port with a frame of the loop on top of the stack, the frame is marked and
popped by the next step, and the loop leaves through its exit over the stack below it, with
the rest of the context as it was. Over any other top frame, or none, the break fails with a
break outside a loop and changes nothing; an exit that leads to the break port over an empty
stack fails so within two steps. -/
theorem break_pops_own_frame_or_fails (tag : Nat) (name : String) (edits : List Graph.Edit)
    {i : Interpreter} {f : FlowFunction} {args : List Value}
    (built : f.graph = Graph.build tag name edits) (entry : f.StartsAtEntry)
    (registry : i.builtins = .standard ∨ i.builtins = .empty) {m : NodeId} {L : Node}
    {lp : LoopPorts} (found : f.graph.node? m = some L) (loop : L.kind.loop? = some lp) :
    let s : Scope := ⟨f.graph, i.builtins⟩
    (∀ {ctx : Context} {top : Frame} {rest : List Frame},
      i.Reachable f args (.arrive lp.breakIn) ctx → ctx.stack = top :: rest → top.node = m →
      ∀ fuel, (Flow.runFrom s (fuel + 2) (.arrive lp.breakIn)).run.run ctx =
        (Flow.runFrom s fuel (.handBack L (.exit lp.exit))).run.run { ctx with stack := rest }) ∧
    (∀ {ctx : Context}, (∀ top ∈ ctx.stack.head?, top.node ≠ m) →
      ∀ fuel, (Flow.runFrom s (fuel + 1) (.arrive lp.breakIn)).run.run ctx =
        (.error .breakOutsideLoop, ctx)) ∧
    (∀ {ctx : Context} {n : Node} {port : ExitId} {x : ExitPort},
      f.graph.exit? port = some x → x.target = some lp.breakIn → ctx.stack = [] →
      ∀ fuel, (Flow.runFrom s (fuel + 2) (.handBack n (.exit port))).run.run ctx =
        (.error .breakOutsideLoop, ctx)) := by
  intro s
  have wf : f.graph.WellFormed := built ▸ Graph.build_wellFormed tag name edits
  refine ⟨fun reach stack owned fuel => ?_, fun other fuel =>
    Flow.runFrom_breakIn_other wf found loop other fuel, fun exitFound led stack fuel =>
    Flow.runFrom_exit_breakIn_empty wf found loop exitFound led stack fuel⟩
  -- at a reachable arrival every frame is open, the top one included
  have sound := reach.sound wf (Registry.tame_of_standard_or_empty registry) entry
  exact Flow.runFrom_breakIn_top wf found loop stack owned (sound.2 _ (by simp [stack])) fuel

/-- A while loop whose condition defaults to true and whose body leads straight to its own
break port: the call arrives there with the loop's frame on top, and two steps later the loop
leaves through its exit over the empty stack. -/
theorem body_break_leaves_while :
    let f : FlowFunction :=
      { symbol := "main", entry := ⟨0, 0⟩,
        graph := Graph.build 0 "main" [.addEntry [], .addWhile, .connect ⟨0, 0⟩ ⟨0, 0⟩,
          .connectSubline ⟨0, 1⟩ ⟨0, 1⟩, .setDefault ⟨0, 0⟩ (.bool true)] }
    let ctx : Context :=
      { Context.start f.locals with stack := [⟨⟨0, 1⟩, .looping ⟨0, 1⟩ .condition⟩] }
    ∃ L lp, f.graph.node? ⟨0, 1⟩ = some L ∧ L.kind.loop? = some lp ∧
      standard.Reachable f [] (.arrive lp.breakIn) ctx ∧
      (Flow.runFrom ⟨f.graph, standard.builtins⟩ 2 (.arrive lp.breakIn)).run.run ctx =
        (Flow.runFrom ⟨f.graph, standard.builtins⟩ 0 (.handBack L (.exit lp.exit))).run.run
          { ctx with stack := [] } := by
  intro f ctx
  have reach : standard.Reachable f [] (.arrive ⟨0, 1⟩) ctx := .step (.step (.start rfl) rfl) rfl
  refine ⟨_, _, rfl, rfl, reach, ?_⟩
  exact (break_pops_own_frame_or_fails 0 "main" _ rfl ⟨_, [], [], ⟨0, 0⟩, rfl, rfl⟩ (.inl rfl)
    rfl rfl).1 reach rfl rfl 0

end Interpreter

end Blueprint
