import Blueprint.Proofs.Flow.Clean

/-!
# Loop frames

Only a loop pushes a frame, when it opens its body, and the frame holds the loop's own state:
alive, no break called, and a cursor of the loop's kind that says where the loop stands. A
break marks the top frame and hands control straight back, so a marked frame is always the top
one and is popped by the very next step. `Control.Sound` states this of the control and the
context between two steps; this module shows that executing and resuming a node keeps it,
and never fails defensively, on a well-formed graph with a tame registry.
-/

namespace Blueprint

open FlowM

/-- The loop ports of a loop node. -/
def NodeKind.loop? : NodeKind → Option LoopPorts
  | .whileLoop _ loop | .forLoop _ _ _ _ loop | .forOfLoop _ _ loop => some loop
  | _ => none

/-- Where a loop may stand between two runs of its body: a while loop keeps no place, a
counting loop has a nonzero step and a current value still in range, and a loop over an
array has sent at least one of its items and at most all of them. -/
def NodeKind.Fits : NodeKind → Cursor → Prop
  | .whileLoop .., .condition => True
  | .forLoop .., .counter current stop step =>
      (step == 0.0) = false ∧ Flow.inRange current stop step = true
  | .forOfLoop .., .items items next => 1 ≤ next ∧ next ≤ items.length
  | _, _ => False

/-- A loop's enter ports are its enter port and then its break port. -/
theorem NodeKind.enters_of_loop? {k : NodeKind} {lp : LoopPorts} (loop : k.loop? = some lp) :
    k.enters = [lp.enter, lp.breakIn] := by
  cases k with
  | whileLoop _ loop' | forLoop _ _ _ _ loop' | forOfLoop _ _ loop' =>
      cases loop
      rfl
  | entry _ _ _ | finish _ _ _ | var _ _ _ _ _ | branch _ _ _ _ | expression _ _ _ _ _ _ =>
      cases loop

theorem Node.isEnd_of_loop? {n : Node} {lp : LoopPorts} (loop : n.kind.loop? = some lp) :
    n.isEnd = false := by
  unfold Node.isEnd
  cases kind : n.kind with
  | finish _ _ _ =>
      rw [kind] at loop
      cases loop
  | _ => rfl

/-- A loop's exit ports are its body exit and then its exit. -/
theorem NodeKind.exits_of_loop? {k : NodeKind} {lp : LoopPorts} (loop : k.loop? = some lp) :
    k.exits = [lp.body, lp.exit] := by
  cases k with
  | whileLoop _ loop' | forLoop _ _ _ _ loop' | forOfLoop _ _ loop' =>
      cases loop
      rfl
  | entry _ _ _ | finish _ _ _ | var _ _ _ _ _ | branch _ _ _ _ | expression _ _ _ _ _ _ =>
      cases loop

/-- Only a loop has a cursor that fits it. -/
theorem NodeKind.loop?_of_fits {k : NodeKind} {cursor : Cursor} (fits : k.Fits cursor) :
    ∃ lp, k.loop? = some lp := by
  cases k with
  | whileLoop _ loop | forLoop _ _ _ _ loop | forOfLoop _ _ loop => exact ⟨loop, rfl⟩
  | entry _ _ _ | finish _ _ _ | var _ _ _ _ _ | branch _ _ _ _ | expression _ _ _ _ _ _ =>
      exact fits.elim

/-- A frame opened by a loop node of the graph: the state is the loop's own, alive, with
break flag `broken` and a cursor that fits the loop. -/
def Frame.Open (g : Graph) (broken : Bool) (f : Frame) : Prop :=
  ∃ n cursor, g.node? f.node = some n ∧
    f.state = { node := f.node, alive := true, data := .looping broken cursor } ∧
    n.kind.Fits cursor

/-- A stack of open loop frames of the graph, none with a break called. -/
def Graph.Unbroken (g : Graph) (stack : List Frame) : Prop :=
  ∀ f ∈ stack, f.Open g false

theorem Graph.unbroken_nil {g : Graph} : g.Unbroken [] :=
  fun _ member => absurd member List.not_mem_nil

/-- A continuation that a node hands back without touching the stack: one of its exits, or
its body exit with a fresh state of its own. -/
def Node.Continues (g : Graph) (n : Node) : Continuation → Prop
  | .exit port => port ∈ n.kind.exits
  | .subline port state => port ∈ n.kind.exits ∧ Frame.Open g false ⟨n.id, state⟩
  | .interrupt => False

/-- What a node may hand back: a continuation of its own over an unbroken stack, or an
interrupt right after a break marked the top frame. -/
def Node.HandsBack (g : Graph) (n : Node) (next : Continuation) (ctx : Context) : Prop :=
  n.Continues g next ∧ g.Unbroken ctx.stack ∨
    next = .interrupt ∧ ∃ top rest, ctx.stack = top :: rest ∧ top.Open g true ∧ g.Unbroken rest

/-- What holds between two steps of a run: control arrives at an enter port of the graph
over an unbroken stack, or a node of the graph hands back what it may. -/
def Control.Sound (g : Graph) : Control → Context → Prop
  | .arrive port, ctx => (∃ p, g.enter? port = some p) ∧ g.Unbroken ctx.stack
  | .handBack n next, ctx => g.node? n.id = some n ∧ n.HandsBack g next ctx

theorem Frame.Open.alive {g : Graph} {broken : Bool} {f : Frame} (opened : f.Open g broken) :
    f.state.alive = true := by
  obtain ⟨_, _, _, state, _⟩ := opened
  rw [state]

/-- Between two steps every frame on the stack is alive. -/
theorem Control.Sound.alive {g : Graph} {c : Control} {ctx : Context} (sound : c.Sound g ctx) :
    ∀ f ∈ ctx.stack, f.state.alive = true := by
  cases c with
  | arrive port => exact fun f member => (sound.2 f member).alive
  | handBack n next =>
      obtain ⟨_, ⟨_, unbroken⟩ | ⟨_, top, rest, stack, opened, unbroken⟩⟩ := sound
      · exact fun f member => (unbroken f member).alive
      · intro f member
        rw [stack] at member
        rcases List.mem_cons.mp member with rfl | later
        · exact opened.alive
        · exact (unbroken f later).alive

/-- A loop's fresh state at a cursor that fits it opens a frame of the loop. -/
theorem Frame.open_looping {g : Graph} {n : Node} {cursor : Cursor}
    (found : g.node? n.id = some n) (fits : n.kind.Fits cursor) :
    Frame.Open g false ⟨n.id, .looping n.id cursor⟩ :=
  ⟨n, cursor, found, rfl, fits⟩

/-- A continuation of the node's own is handed back over the stack a step found unbroken,
when the step leaves that stack as it was. -/
theorem Node.handsBack_own {g : Graph} {n : Node} {next : Continuation} {before after : Context}
    (unbroken : g.Unbroken before.stack)
    (held : after.stack = before.stack ∧ n.Continues g next) : n.HandsBack g next after :=
  .inl ⟨held.2, held.1 ▸ unbroken⟩

namespace Flow

variable {g : Graph} {ctx : Context}

/-! ## Breaks -/

/-- Marking a break on the top frame opened by the node. -/
theorem markBreak_run_top {id : NodeId} {f : Frame} {rest : List Frame} {broken : Bool}
    {cursor : Cursor} (top : ctx.stack = f :: rest) (owned : f.node = id)
    (looping : f.state.data = .looping broken cursor) :
    (markBreak id).run.run ctx =
      (.ok true, { ctx with stack :=
        { f with state := { f.state with data := .looping true cursor } } :: rest }) := by
  simp only [markBreak, run_bind, run_get, top, if_pos owned, looping, run_set, run_pure]

/-- Marking a break finds no loop frame of the node unless the node opened the top frame;
the context is left as it was. -/
theorem markBreak_run_other {id : NodeId} (other : ∀ f ∈ ctx.stack.head?, f.node ≠ id) :
    (markBreak id).run.run ctx = (.ok false, ctx) := by
  cases top : ctx.stack with
  | nil => simp only [markBreak, run_bind, run_get, top, run_pure]
  | cons f rest =>
      have notOwned : f.node ≠ id := other f (by simp [top])
      simp only [markBreak, run_bind, run_get, top, if_neg notOwned, run_pure]

theorem breakLoop_run_top {id : NodeId} {f : Frame} {rest : List Frame} {broken : Bool}
    {cursor : Cursor} (top : ctx.stack = f :: rest) (owned : f.node = id)
    (looping : f.state.data = .looping broken cursor) :
    (breakLoop id).run.run ctx =
      (.ok .interrupt, { ctx with stack :=
        { f with state := { f.state with data := .looping true cursor } } :: rest }) := by
  simp only [breakLoop, run_bind, markBreak_run_top top owned looping, if_true, run_pure]

theorem breakLoop_run_other {id : NodeId} (other : ∀ f ∈ ctx.stack.head?, f.node ≠ id) :
    (breakLoop id).run.run ctx = (.error .breakOutsideLoop, ctx) := by
  simp only [breakLoop, run_bind, markBreak_run_other other, Bool.false_eq_true, if_false,
    run_throw]

/-- A break over an unbroken stack marks the top frame and interrupts, or fails with a
fault that is not defensive. -/
theorem breakLoop_clean (unbroken : g.Unbroken ctx.stack) (id : NodeId) :
    Clean (breakLoop id) ctx fun c after => c = .interrupt ∧
      ∃ top rest, after.stack = top :: rest ∧ top.Open g true ∧ g.Unbroken rest := by
  by_cases owned : ∃ f ∈ ctx.stack.head?, f.node = id
  · obtain ⟨f, head, owned⟩ := owned
    obtain ⟨rest, top⟩ : ∃ rest, ctx.stack = f :: rest := by
      cases stack : ctx.stack with
      | nil => simp [stack] at head
      | cons f' rest =>
          simp only [stack, List.head?_cons, Option.mem_def, Option.some.injEq] at head
          exact ⟨rest, by rw [head]⟩
    obtain ⟨n, cursor, found, state, fits⟩ := unbroken f (by simp [top])
    have looping : f.state.data = .looping false cursor := by rw [state]
    unfold Clean
    rw [breakLoop_run_top top owned looping]
    refine ⟨rfl, _, rest, rfl, ⟨n, cursor, found, by rw [state], fits⟩, ?_⟩
    exact fun f' member => unbroken f' (by simp [top, member])
  · have other : ∀ f ∈ ctx.stack.head?, f.node ≠ id := fun f head same => owned ⟨f, head, same⟩
    unfold Clean
    rw [breakLoop_run_other other]
    rfl

/-! ## Executing and resuming nodes -/

theorem enterFor_clean (wf : g.WellFormed) {n : Node} (found : g.node? n.id = some n)
    {start stop step : InputId} {index : OutputId} {loop : LoopPorts}
    (kind : n.kind = .forLoop start stop step index loop) :
    Clean (Node.enterFor g n.id start stop step index loop) ctx fun c after =>
      after.stack = ctx.stack ∧ n.Continues g c := by
  obtain ⟨_, startFound, _⟩ := wf.input_of_mem found (i := start) (by simp [kind, NodeKind.inputs])
  obtain ⟨_, stopFound, _⟩ := wf.input_of_mem found (i := stop) (by simp [kind, NodeKind.inputs])
  obtain ⟨_, stepFound, _⟩ := wf.input_of_mem found (i := step) (by simp [kind, NodeKind.inputs])
  obtain ⟨_, indexFound, _⟩ :=
    wf.output_of_mem found (o := index) (by simp [kind, NodeKind.outputs])
  have body : loop.body ∈ n.kind.exits := by simp [kind, NodeKind.exits]
  have exit : loop.exit ∈ n.kind.exits := by simp [kind, NodeKind.exits]
  unfold Node.enterFor
  simp only [clean_bind]
  refine (readNumber_calm wf startFound).clean rfl fun first c₁ same₁ => ?_
  refine (readNumber_calm wf stopFound).clean same₁ fun last c₂ same₂ => ?_
  refine (readNumber_calm wf stepFound).clean same₂ fun increment c₃ same₃ => ?_
  split
  · simp only [clean_bind, clean_throw]
    rfl
  · next nonzero =>
      split
      · exact ⟨same₃, exit⟩
      · next inside =>
          simp only [clean_bind]
          refine (output_calm wf indexFound _).clean same₃ fun _ c₄ same₄ => ⟨same₄, body, ?_⟩
          refine Frame.open_looping found ?_
          rw [kind]
          exact ⟨by simpa using nonzero, by simpa using inside⟩

theorem enterForOf_clean (wf : g.WellFormed) {n : Node} (found : g.node? n.id = some n)
    {array : InputId} {item : OutputId} {loop : LoopPorts}
    (kind : n.kind = .forOfLoop array item loop) :
    Clean (Node.enterForOf g n.id array item loop) ctx fun c after =>
      after.stack = ctx.stack ∧ n.Continues g c := by
  obtain ⟨_, arrayFound, _⟩ := wf.input_of_mem found (i := array) (by simp [kind, NodeKind.inputs])
  obtain ⟨_, itemFound, _⟩ := wf.output_of_mem found (o := item) (by simp [kind, NodeKind.outputs])
  have body : loop.body ∈ n.kind.exits := by simp [kind, NodeKind.exits]
  have exit : loop.exit ∈ n.kind.exits := by simp [kind, NodeKind.exits]
  unfold Node.enterForOf
  simp only [clean_bind]
  refine (readRequired_calm wf arrayFound).clean rfl fun v c same => ?_
  cases v with
  | array items =>
      cases items with
      | nil => exact ⟨same, exit⟩
      | cons first rest =>
          simp only [clean_bind]
          refine (output_calm wf itemFound first).clean same fun _ c' same' => ⟨same', body, ?_⟩
          refine Frame.open_looping found ?_
          rw [kind]
          exact ⟨Nat.le_refl 1, by simp⟩
  | bool _ | number _ | text _ | entity _ => rfl

theorem executeExpression_clean {s : Scope} (wf : s.graph.WellFormed) (tame : s.builtins.Tame)
    {expr : Option Expr} {inputs : List (String × InputId)} {result : OutputId} {exit : ExitId}
    (declared : ∀ entry ∈ inputs, ∃ p, s.graph.input? entry.2 = some p) {o : OutputPort}
    (resultFound : s.graph.output? result = some o) :
    Clean (Node.executeExpression s expr inputs result exit) ctx fun c after =>
      c = .exit exit ∧ after.stack = ctx.stack := by
  unfold Node.executeExpression
  cases expr with
  | none =>
      dsimp only
      split <;> rfl
  | some e =>
      dsimp only
      split
      · rfl
      · simp only [clean_bind]
        refine (Expr.evaluate_calm wf tame declared e).clean rfl fun v c same => ?_
        exact (output_calm wf resultFound v).clean same fun _ c' same' => ⟨rfl, same'⟩

/-- What a variable node sends, the written value or else the symbol's, goes out on its read
port; with nothing to send it fails only when the port has targets. -/
theorem executeVar_emit_clean (wf : g.WellFormed) (symbol : String) {read : OutputId}
    {exit : ExitId} {r : OutputPort} (readFound : g.output? read = some r)
    (emitted : Option Value) {before : Context} (same : ctx.stack = before.stack) :
    Clean (match emitted with
      | some v => do output g read v; pure (Continuation.exit exit)
      | none => do
        let r ← lift (g.resolveOutput read)
        if (!r.targets.isEmpty) = true then do
          throw (Fault.variableEmpty symbol)
          pure (Continuation.exit exit)
        else pure (Continuation.exit exit)) ctx
      fun c after => c = .exit exit ∧ after.stack = before.stack := by
  cases emitted with
  | some v =>
      simp only [clean_bind]
      exact (output_calm wf readFound v).clean same fun _ c' same' => ⟨rfl, same'⟩
  | none =>
      simp only [clean_bind, Graph.clean_resolveOutput]
      refine ⟨r, readFound, ?_⟩
      split
      · rfl
      · exact ⟨rfl, same⟩

theorem executeVar_clean (wf : g.WellFormed) {symbol : String} {write : InputId}
    {read : OutputId} {exit : ExitId} {w : InputPort} {r : OutputPort}
    (writeFound : g.input? write = some w) (readFound : g.output? read = some r) :
    Clean (Node.executeVar g symbol write read exit) ctx fun c after =>
      c = .exit exit ∧ after.stack = ctx.stack := by
  unfold Node.executeVar
  simp only [clean_bind, Graph.clean_resolveInput]
  refine ⟨w, writeFound, ?_⟩
  split
  · refine (input_calm wf writeFound).clean_bind fun written c same => ?_
    cases written with
    | some v => exact executeVar_emit_clean wf symbol readFound (some v) same
    | none => exact executeVar_emit_clean wf symbol readFound _ same
  · exact executeVar_emit_clean wf symbol readFound _ rfl

theorem shouldContinue_looping {id : NodeId} {alive broken : Bool} {cursor : Cursor} :
    shouldContinue { node := id, alive, data := .looping broken cursor } id = .ok !broken := by
  simp [shouldContinue]
  rfl

/-- Resumed with its own frame marked by a break, a loop leaves through its exit at once: it
reads no input and sends nothing, so the context stays as it was. -/
theorem resume_broken_run {s : Scope} {n : Node} {lp : LoopPorts} (loop : n.kind.loop? = some lp)
    {state : FlowState} {cursor : Cursor} (owned : state.node = n.id)
    (broken : state.data = .looping true cursor) :
    (n.resume s state).run.run ctx = (.ok (.exit lp.exit), ctx) := by
  have stop : shouldContinue state n.id = .ok false := by
    simp only [shouldContinue, owned, ne_eq, not_true_eq_false, if_false, broken]
    rfl
  unfold Node.resume
  cases kind : n.kind with
  | whileLoop condition loop' =>
      rw [kind] at loop
      cases loop
      simp only [run_bind, stop, run_lift_ok, Bool.false_eq_true, if_false, run_pure]
  | forLoop _ _ _ index loop' =>
      rw [kind] at loop
      cases loop
      simp only [run_bind, stop, run_lift_ok, Bool.not_false, if_true, run_pure]
  | forOfLoop _ item loop' =>
      rw [kind] at loop
      cases loop
      simp only [run_bind, stop, run_lift_ok, Bool.not_false, if_true, run_pure]
  | entry _ _ _ | finish _ _ _ | var _ _ _ _ _ | branch _ _ _ _ | expression _ _ _ _ _ _ =>
      rw [kind] at loop
      cases loop

/-- Resuming a loop from a frame it opened goes on with its body from a cursor that fits, or
leaves through its exit; after a break it leaves at once. -/
theorem resume_clean {s : Scope} (wf : s.graph.WellFormed) {n : Node}
    (found : s.graph.node? n.id = some n) {state : FlowState} {broken : Bool}
    (opened : Frame.Open s.graph broken ⟨n.id, state⟩) :
    Clean (n.resume s state) ctx fun c after =>
      after.stack = ctx.stack ∧ n.Continues s.graph c := by
  dsimp only [Frame.Open] at opened
  obtain ⟨n', cursor, found', rfl, fits⟩ := opened
  rw [found] at found'
  cases found'
  cases broken with
  | true =>
      -- after a break the loop leaves at once
      obtain ⟨lp, loop⟩ := NodeKind.loop?_of_fits fits
      have exit : lp.exit ∈ n.kind.exits := by simp [NodeKind.exits_of_loop? loop]
      rw [clean_of_run_ok (resume_broken_run loop rfl rfl)]
      exact ⟨rfl, exit⟩
  | false =>
      unfold Node.resume
      cases kind : n.kind with
      | whileLoop condition loop =>
          obtain ⟨_, conditionFound, _⟩ :=
            wf.input_of_mem found (i := condition) (by simp [kind, NodeKind.inputs])
          have exit : loop.exit ∈ n.kind.exits := by simp [kind, NodeKind.exits]
          dsimp only
          simp only [clean_bind, shouldContinue_looping, clean_lift_ok, Bool.not_false,
            ↓reduceIte]
          refine (readCondition_calm wf conditionFound).clean rfl fun go c same => ?_
          cases go with
          | false => exact ⟨same, exit⟩
          | true => exact ⟨same, by simp [kind, NodeKind.exits], n, cursor, found, rfl, fits⟩
      | forLoop start stop step index loop =>
          obtain ⟨_, indexFound, _⟩ :=
            wf.output_of_mem found (o := index) (by simp [kind, NodeKind.outputs])
          have exit : loop.exit ∈ n.kind.exits := by simp [kind, NodeKind.exits]
          rw [kind] at fits
          cases cursor with
          | counter current stop step =>
              dsimp only
              simp only [clean_bind, shouldContinue_looping, clean_lift_ok, Bool.not_false,
                Bool.not_true, Bool.false_eq_true, ↓reduceIte]
              split
              · next inside =>
                  simp only [clean_bind]
                  refine (output_calm wf indexFound _).clean rfl fun _ c same => ⟨same, ?_⟩
                  refine ⟨by simp [kind, NodeKind.exits], n, _, found, rfl, ?_⟩
                  rw [kind]
                  exact ⟨fits.1, inside⟩
              · exact ⟨rfl, exit⟩
          | condition | items _ _ => exact fits.elim
      | forOfLoop array item loop =>
          obtain ⟨_, itemFound, _⟩ :=
            wf.output_of_mem found (o := item) (by simp [kind, NodeKind.outputs])
          have exit : loop.exit ∈ n.kind.exits := by simp [kind, NodeKind.exits]
          rw [kind] at fits
          cases cursor with
          | items items next =>
              dsimp only
              simp only [clean_bind, shouldContinue_looping, clean_lift_ok, Bool.not_false,
                Bool.not_true, Bool.false_eq_true, ↓reduceIte]
              cases lookup : items[next]? with
              | some v =>
                  simp only [clean_bind]
                  refine (output_calm wf itemFound v).clean rfl fun _ c same => ⟨same, ?_⟩
                  refine ⟨by simp [kind, NodeKind.exits], n, _, found, rfl, ?_⟩
                  rw [kind]
                  exact ⟨Nat.le_add_left 1 next, (List.getElem?_eq_some_iff.mp lookup).1⟩
              | none => exact ⟨rfl, exit⟩
          | condition | counter _ _ _ => exact fits.elim
      | entry _ _ _ | finish _ _ _ | var _ _ _ _ _ | branch _ _ _ _ | expression _ _ _ _ _ _ =>
          rw [kind] at fits
          exact fits.elim

/-- Executing a node through one of its enter ports, other than an end node's, hands back
what the node may: a continuation of its own, or the interrupt of a break. -/
theorem execute_clean {s : Scope} (wf : s.graph.WellFormed) (tame : s.builtins.Tame) {n : Node}
    (found : s.graph.node? n.id = some n) {port : EnterId} (member : port ∈ n.kind.enters)
    (notEnd : n.isEnd = false) (unbroken : s.graph.Unbroken ctx.stack) :
    Clean (n.execute s port) ctx fun c after => n.HandsBack s.graph c after := by
  have exits : ∀ {x}, x ∈ n.kind.exits → n.Continues s.graph (.exit x) := id
  unfold Node.execute
  cases kind : n.kind with
  | entry params args exit =>
      rw [kind] at member
      exact absurd member List.not_mem_nil
  | finish returnType input enter =>
      simp [Node.isEnd, kind] at notEnd
  | var symbol write read enter exit =>
      obtain ⟨_, writeFound, _⟩ :=
        wf.input_of_mem found (i := write) (by simp [kind, NodeKind.inputs])
      obtain ⟨_, readFound, _⟩ :=
        wf.output_of_mem found (o := read) (by simp [kind, NodeKind.outputs])
      refine (executeVar_clean wf writeFound readFound).mono fun c after ran => ?_
      rw [ran.1]
      exact Node.handsBack_own unbroken ⟨ran.2, exits (by simp [kind, NodeKind.exits])⟩
  | branch condition enter whenTrue whenFalse =>
      obtain ⟨_, conditionFound, _⟩ :=
        wf.input_of_mem found (i := condition) (by simp [kind, NodeKind.inputs])
      dsimp only
      simp only [clean_bind]
      refine (readCondition_calm wf conditionFound).clean rfl fun go c same => ?_
      cases go <;> exact Node.handsBack_own unbroken ⟨same, exits (by simp [kind, NodeKind.exits])⟩
  | whileLoop condition loop =>
      obtain ⟨_, conditionFound, _⟩ :=
        wf.input_of_mem found (i := condition) (by simp [kind, NodeKind.inputs])
      rw [kind] at member
      dsimp only
      split
      · simp only [clean_bind]
        refine (readCondition_calm wf conditionFound).clean rfl fun go c same => ?_
        cases go with
        | false => exact Node.handsBack_own unbroken ⟨same, exits (by simp [kind, NodeKind.exits])⟩
        | true =>
            refine Node.handsBack_own unbroken
              ⟨same, by simp [kind, NodeKind.exits], Frame.open_looping found ?_⟩
            rw [kind]
            trivial
      · split
        · exact (breakLoop_clean unbroken n.id).mono fun c after broke => .inr broke
        · next entering breaking =>
            simp [NodeKind.enters, entering, breaking] at member
  | forLoop start stop step index loop =>
      rw [kind] at member
      dsimp only
      split
      · exact (breakLoop_clean unbroken n.id).mono fun c after broke => .inr broke
      · split
        · next breaking entering =>
            simp [NodeKind.enters, entering, breaking] at member
        · exact (enterFor_clean wf found kind).mono fun _ _ => Node.handsBack_own unbroken
  | forOfLoop array item loop =>
      rw [kind] at member
      dsimp only
      split
      · exact (breakLoop_clean unbroken n.id).mono fun c after broke => .inr broke
      · split
        · next breaking entering =>
            simp [NodeKind.enters, entering, breaking] at member
        · exact (enterForOf_clean wf found kind).mono fun _ _ => Node.handsBack_own unbroken
  | expression expr inputs ports result enter exit =>
      have declared : ∀ entry ∈ inputs, ∃ p, s.graph.input? entry.2 = some p :=
        fun entry listed => wf.input_of_declared found (by rw [kind]; exact listed)
      obtain ⟨_, resultFound, _⟩ :=
        wf.output_of_mem found (o := result) (by simp [kind, NodeKind.outputs])
      refine (executeExpression_clean wf tame declared resultFound).mono fun c after ran => ?_
      rw [ran.1]
      exact Node.handsBack_own unbroken ⟨ran.2, exits (by simp [kind, NodeKind.exits])⟩

end Flow

end Blueprint
