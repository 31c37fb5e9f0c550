import Blueprint.Proofs.Flow.WhileLoop
import Blueprint.Proofs.Flow.Delivery

/-!
# Loops that walk a cursor

A counting loop and a loop over an array keep their place in the cursor of the frame they push,
and nowhere else. Each time such a loop is resumed with its frame unbroken it advances the
cursor (`Cursor.advance`): a counting loop adds its step and goes on while the sum is in range, a
loop over an array takes the item at its next place. It sends the value on its output and opens
its body at the advanced cursor; with no value left it leaves through its exit. A body that leads
nowhere is resumed at once, a wired one runs over the loop's frame pushed on the stack the loop
stands on, and a break of the loop during a run ends the loop.

`Flow.OpenRun` is the big-step semantics of such a loop from the moment it opens its body at a
cursor: the body passes once, and the loop advances and opens it again, or leaves. Every
derivation is the machine's run, from the opening to the loop's exit (`OpenRun.leads`), on the
stack the loop opened its body on (`OpenRun.stack`), and it is determined by the context it starts
from (`OpenRun.deterministic`): the values sent, whether a break ended the loop, and the context
it leaves with.
-/

namespace Blueprint

open FlowM

/-- The value a counting loop or a loop over an array sends next from a cursor, with the cursor
after it: the counter plus the step while it is in range, or the item at the next place. -/
def Cursor.advance : Cursor → Option (Value × Cursor)
  | .counter current stop step =>
    if Flow.inRange (current + step) stop step then
      some (.number (current + step), .counter (current + step) stop step)
    else none
  | .items xs next => xs[next]?.map fun v => (v, .items xs (next + 1))
  | .condition => none

/-- The output on which a counting loop or a loop over an array sends its values, and its loop
ports. -/
def NodeKind.outlet? : NodeKind → Option (OutputId × LoopPorts)
  | .forLoop _ _ _ index loop => some (index, loop)
  | .forOfLoop _ item loop => some (item, loop)
  | _ => none

/-- A cursor of the kind a loop walks: a counter for a counting loop, items for a loop over an
array. -/
def NodeKind.Walks : NodeKind → Cursor → Prop
  | .forLoop .., .counter .. => True
  | .forOfLoop .., .items .. => True
  | _, _ => False

theorem NodeKind.loop?_of_outlet? {k : NodeKind} {out : OutputId} {lp : LoopPorts}
    (outlet : k.outlet? = some (out, lp)) : k.loop? = some lp := by
  cases k with
  | forLoop _ _ _ _ _ | forOfLoop _ _ _ =>
      cases outlet
      rfl
  | entry _ _ _ | finish _ _ _ | var _ _ _ _ _ | branch _ _ _ _ | whileLoop _ _
  | expression _ _ _ _ _ _ => cases outlet

/-- The output a cursor loop sends its values on is its one output. -/
theorem NodeKind.outputs_of_outlet? {k : NodeKind} {out : OutputId} {lp : LoopPorts}
    (outlet : k.outlet? = some (out, lp)) : k.outputs = [out] := by
  cases k with
  | forLoop _ _ _ _ _ | forOfLoop _ _ _ =>
      cases outlet
      rfl
  | entry _ _ _ | finish _ _ _ | var _ _ _ _ _ | branch _ _ _ _ | whileLoop _ _
  | expression _ _ _ _ _ _ => cases outlet

/-- In a well-formed graph the output a cursor loop sends on and its body's exit are ports of
the graph. -/
theorem Graph.WellFormed.outlet_ports {g : Graph} (wf : g.WellFormed) {m : NodeId} {F : Node}
    {out : OutputId} {lp : LoopPorts} (found : g.node? m = some F)
    (outlet : F.kind.outlet? = some (out, lp)) :
    (∃ q, g.output? out = some q) ∧ ∃ x, g.exit? lp.body = some x := by
  obtain ⟨q, outFound, -⟩ := wf.output_of_mem found (o := out)
    (by simp [NodeKind.outputs_of_outlet? outlet])
  obtain ⟨x, bodyExit, -⟩ := wf.exit_of_mem found (x := lp.body)
    (by simp [NodeKind.exits_of_loop? (NodeKind.loop?_of_outlet? outlet)])
  exact ⟨⟨q, outFound⟩, x, bodyExit⟩

/-- Advancing keeps the kind of the cursor. -/
theorem NodeKind.Walks.advance {k : NodeKind} {c c' : Cursor} {v : Value} (walks : k.Walks c)
    (advanced : c.advance = some (v, c')) : k.Walks c' := by
  cases k <;> cases c <;> try exact walks.elim
  · simp only [Cursor.advance] at advanced
    split at advanced
    · cases advanced
      trivial
    · cases advanced
  · simp only [Cursor.advance, Option.map_eq_some_iff] at advanced
    obtain ⟨_, _, same⟩ := advanced
    cases same
    trivial

/-- The first `n` values a cursor gives, one per advance, fewer if it runs out. -/
def Cursor.walk : Cursor → Nat → List Value
  | _, 0 => []
  | c, n + 1 =>
    match c.advance with
    | none => []
    | some (v, next) => v :: next.walk n

namespace Cursor

variable {c next : Cursor} {v : Value}

@[simp] theorem walk_zero (c : Cursor) : c.walk 0 = [] := rfl

theorem walk_succ_of_none (done : c.advance = none) (n : Nat) : c.walk (n + 1) = [] := by
  simp only [walk, done]

theorem walk_succ_of_some (advanced : c.advance = some (v, next)) (n : Nat) :
    c.walk (n + 1) = v :: next.walk n := by
  simp only [walk, advanced]

/-- A cursor over items gives the items from its place on. -/
theorem walk_items (xs : List Value) (n k : Nat) :
    (Cursor.items xs k).walk n = (xs.drop k).take n := by
  induction n generalizing k with
  | zero => rfl
  | succ n ih =>
      cases found : xs[k]? with
      | none =>
          have past : xs.length ≤ k := List.getElem?_eq_none_iff.mp found
          rw [walk_succ_of_none (by simp only [advance, found, Option.map_none]),
            List.drop_eq_nil_of_le past, List.take_nil]
      | some v =>
          obtain ⟨within, rfl⟩ := List.getElem?_eq_some_iff.mp found
          have advanced : (Cursor.items xs k).advance = some (xs[k], .items xs (k + 1)) := by
            simp only [advance, found, Option.map_some]
          rw [walk_succ_of_some advanced, ih, List.drop_eq_getElem_cons within,
            List.take_succ_cons]

/-- A cursor that advances to itself gives its value again and again. -/
theorem walk_of_stalled (stalled : c.advance = some (v, c)) (n : Nat) :
    c.walk n = List.replicate n v := by
  induction n with
  | zero => rfl
  | succ n ih => rw [walk_succ_of_some stalled, ih, List.replicate_succ]

end Cursor

namespace Flow

variable {s : Scope} {ctx : Context}

/-! ## Reading required inputs -/

section Reading

variable {g : Graph} {port : InputId} {after : Context}

theorem readRequired_of_none (read : (input g port).run.run ctx = (.ok none, after)) :
    (readRequired g port).run.run ctx =
      (.error (.missingInput (((g.input? port).map (·.name)).getD "")), after) := by
  simp only [readRequired, run_bind, read]
  rfl

theorem readRequired_of_some {v : Value}
    (read : (input g port).run.run ctx = (.ok (some v), after)) :
    (readRequired g port).run.run ctx = (.ok v, after) := by
  simp only [readRequired, run_bind, read]
  rfl

theorem readRequired_of_error {e : Fault}
    (read : (input g port).run.run ctx = (.error e, after)) :
    (readRequired g port).run.run ctx = (.error e, after) := by
  simp only [readRequired, run_bind, read]

theorem readNumber_of_number {x : Float}
    (read : (readRequired g port).run.run ctx = (.ok (.number x), after)) :
    (readNumber g port).run.run ctx = (.ok x, after) := by
  simp only [readNumber, run_bind, read]
  rfl

theorem readNumber_of_other {v : Value} (other : ∀ x, v ≠ .number x)
    (read : (readRequired g port).run.run ctx = (.ok v, after)) :
    (readNumber g port).run.run ctx = (.error (.typeMismatch "number" v.kindName), after) := by
  simp only [readNumber, run_bind, read]
  cases v with
  | number x => exact absurd rfl (other x)
  | bool _ | text _ | array _ | entity _ => rfl

theorem readNumber_of_error {e : Fault}
    (read : (readRequired g port).run.run ctx = (.error e, after)) :
    (readNumber g port).run.run ctx = (.error e, after) := by
  simp only [readNumber, run_bind, read]

end Reading

/-! ## Resuming at a cursor -/

section Resume

variable {F : Node} {out : OutputId} {lp : LoopPorts} (outlet : F.kind.outlet? = some (out, lp))
  {cursor : Cursor} (walks : F.kind.Walks cursor)
include outlet walks

/-- Resumed with its own unbroken frame at a cursor with no next value, the loop leaves through
its exit and changes nothing. -/
theorem resume_run_of_advance_none (done : cursor.advance = none) :
    (F.resume s (.looping F.id cursor)).run.run ctx = (.ok (.exit lp.exit), ctx) := by
  unfold Node.resume
  cases kind : F.kind with
  | forLoop start stop step index loop =>
      rw [kind] at outlet walks
      cases outlet
      cases cursor with
      | counter current last increment =>
          simp only [Cursor.advance] at done
          split at done
          · cases done
          · next outside =>
              simp only [run_bind, FlowState.looping, shouldContinue_looping, run_lift_ok,
                Bool.not_false, Bool.not_true, Bool.false_eq_true, if_false, outside]
              rfl
      | condition | items _ _ => exact walks.elim
  | forOfLoop array item loop =>
      rw [kind] at outlet walks
      cases outlet
      cases cursor with
      | items xs next =>
          simp only [Cursor.advance, Option.map_eq_none_iff] at done
          simp only [run_bind, FlowState.looping, shouldContinue_looping, run_lift_ok,
            Bool.not_false, Bool.not_true, Bool.false_eq_true, if_false, done]
          rfl
      | condition | counter _ _ _ => exact walks.elim
  | entry _ _ _ | finish _ _ _ | var _ _ _ _ _ | branch _ _ _ _ | whileLoop _ _
  | expression _ _ _ _ _ _ =>
      rw [kind] at outlet
      cases outlet

/-- Resumed with its own unbroken frame at a cursor with a next value, the loop sends the value
on its output and opens its body at the advanced cursor; it reads no input. -/
theorem resume_run_of_advance_some {v : Value} {next : Cursor}
    (advanced : cursor.advance = some (v, next)) {r : Except Fault Unit} {after : Context}
    (sent : (output s.graph out v).run.run ctx = (r, after)) :
    (F.resume s (.looping F.id cursor)).run.run ctx =
      (r.map fun _ => .subline lp.body (.looping F.id next), after) := by
  unfold Node.resume
  cases kind : F.kind with
  | forLoop start stop step index loop =>
      rw [kind] at outlet walks
      cases outlet
      cases cursor with
      | counter current last increment =>
          simp only [Cursor.advance] at advanced
          split at advanced
          · next inside =>
              cases advanced
              simp only [run_bind, FlowState.looping, shouldContinue_looping, run_lift_ok,
                Bool.not_false, Bool.not_true, Bool.false_eq_true, if_false, inside, if_true,
                sent]
              cases r <;> rfl
          · cases advanced
      | condition | items _ _ => exact walks.elim
  | forOfLoop array item loop =>
      rw [kind] at outlet walks
      cases outlet
      cases cursor with
      | items xs place =>
          simp only [Cursor.advance, Option.map_eq_some_iff] at advanced
          obtain ⟨w, found, same⟩ := advanced
          cases same
          simp only [run_bind, FlowState.looping, shouldContinue_looping, run_lift_ok,
            Bool.not_false, Bool.not_true, Bool.false_eq_true, if_false, found, sent]
          cases r <;> rfl
      | condition | counter _ _ _ => exact walks.elim
  | entry _ _ _ | finish _ _ _ | var _ _ _ _ _ | branch _ _ _ _ | whileLoop _ _
  | expression _ _ _ _ _ _ =>
      rw [kind] at outlet
      cases outlet

end Resume

/-! ## Turns of a cursor loop -/

/-- The step from `c` in `ctx₀` is a turn of the cursor loop `F` at `cursor` over `ctx`: with no
next value it hands back the loop's exit in `ctx`; with a next value it sends the value on the
loop's output from `ctx` and hands back the body opened at the advanced cursor. -/
def Advances (s : Scope) (F : Node) (out : OutputId) (lp : LoopPorts) (cursor : Cursor)
    (c : Control) (ctx₀ ctx : Context) : Prop :=
  (cursor.advance = none →
    (step s c).run.run ctx₀ = (.ok (.next (.handBack F (.exit lp.exit))), ctx)) ∧
  ∀ {v : Value} {next : Cursor} {emitted : Context}, cursor.advance = some (v, next) →
    (output s.graph out v).run.run ctx = (.ok (), emitted) →
    (step s c).run.run ctx₀ =
      (.ok (.next (.handBack F (.subline lp.body (.looping F.id next)))), emitted)

/-- Arriving at a loop's enter port executes the loop through it. -/
theorem step_loop_enter {m : NodeId} {L : Node} {lp : LoopPorts} (wf : s.graph.WellFormed)
    (found : s.graph.node? m = some L) (loop : L.kind.loop? = some lp) :
    (step s (.arrive lp.enter)).run.run ctx =
      (L.execute s lp.enter >>= fun c => pure (Step.next (.handBack L c))).run.run ctx := by
  obtain ⟨p, enter, owner⟩ := wf.enter_of_mem found (e := lp.enter)
    (by simp [NodeKind.enters_of_loop? loop])
  exact step_arrive_run enter (by rw [owner]; exact found) (Node.isEnd_of_loop? loop)

section Turns

variable {m : NodeId} {F : Node} {out : OutputId} {lp : LoopPorts} {cursor : Cursor}
  (wf : s.graph.WellFormed) (found : s.graph.node? m = some F)
  (outlet : F.kind.outlet? = some (out, lp)) (walks : F.kind.Walks cursor)

include wf found outlet walks in
/-- When a run hands back to a cursor loop's unbroken frame on top of the stack, the frame is
popped and the loop turns at the frame's cursor over the stack below. -/
theorem advances_pop {c : Control} (returns : Returns s.graph c) {ctx₀ : Context}
    {rest : List Frame} (stack : ctx₀.stack = ⟨F.id, .looping F.id cursor⟩ :: rest) :
    Advances s F out lp cursor c ctx₀ { ctx₀ with stack := rest } := by
  have node : s.graph.node? F.id = some F := by rw [wf.node_id found]; exact found
  have resumes : (step s c).run.run ctx₀ =
      (F.resume s (.looping F.id cursor) >>= fun next => pure (Step.next (.handBack F next))).run.run
        { ctx₀ with stack := rest } := by
    rw [step_of_returns returns]
    simp only [resumeParent, run_bind, unwind_run_cons stack rfl, Graph.resolveNode_eq_ok node,
      run_lift_ok]
  refine ⟨fun done => ?_, fun advanced sent => ?_⟩
  · rw [resumes, run_bind, resume_run_of_advance_none outlet walks done]
    rfl
  · rw [resumes, run_bind, resume_run_of_advance_some outlet walks advanced sent]
    rfl

include outlet walks in
/-- A cursor loop whose body leads nowhere turns at once: handing back its body is a turn at the
cursor it was opened at, in the same context. -/
theorem advances_unwired {x : ExitPort} (bodyExit : s.graph.exit? lp.body = some x)
    (unwired : x.target = none) (ctx : Context) :
    Advances s F out lp cursor (.handBack F (.subline lp.body (.looping F.id cursor))) ctx ctx := by
  have resumes : (step s (.handBack F (.subline lp.body (.looping F.id cursor)))).run.run ctx =
      (F.resume s (.looping F.id cursor) >>= fun next =>
        pure (Step.next (.handBack F next))).run.run ctx := by
    simp only [step, run_bind, Graph.resolveExit_eq_ok bodyExit, run_lift_ok, unwired]
  refine ⟨fun done => ?_, fun advanced sent => ?_⟩
  · rw [resumes, run_bind, resume_run_of_advance_none outlet walks done]
    rfl
  · rw [resumes, run_bind, resume_run_of_advance_some outlet walks advanced sent]
    rfl

end Turns

/-- Past a turn that succeeds, the stack is the one the loop turned over. -/
theorem Advances.stack {F : Node} {out : OutputId} {lp : LoopPorts} {cursor : Cursor}
    {q : OutputPort} (wf : s.graph.WellFormed) (outFound : s.graph.output? out = some q)
    {c c' : Control} {ctx₀ ctx ctx' : Context} (turn : Advances s F out lp cursor c ctx₀ ctx)
    (stepped : (step s c).run.run ctx₀ = (.ok (.next c'), ctx')) : ctx'.stack = ctx.stack := by
  cases advanced : cursor.advance with
  | none =>
      rw [turn.1 advanced] at stepped
      cases stepped
      rfl
  | some pair =>
      obtain ⟨v, next⟩ := pair
      obtain ⟨emitted, sent, kept⟩ := output_run_ok wf outFound v ctx
      rw [turn.2 advanced sent] at stepped
      cases stepped
      exact kept

/-! ## Runs of a cursor loop -/

/-- Handing back the body of `F` opened at `cursor` in `before` comes back to the loop, resumed
with its frame, in `ran`: at once when the body leads nowhere, else after one run of the body over
the loop's frame. -/
def BodyPass (s : Scope) (F : Node) (body : Option EnterId) (cursor : Cursor)
    (before ran : Context) : Prop :=
  match body with
  | none => ran = before
  | some target => BodyRun s ⟨F.id, .looping F.id cursor⟩ target before ran

/-- A run of a loop's body that breaks the loop: the body starts at `target` with `frame` pushed
over `before`'s stack, keeps the frame in place, and arrives at the loop's break port with the
frame on top; the break pops it again, and `after` is the context the loop leaves in. -/
def BreakRun (s : Scope) (frame : Frame) (target breakIn : EnterId) (before after : Context) :
    Prop :=
  ∃ ended, Leads s (fun _ ctx => ∃ above, ctx.stack = above ++ frame :: before.stack)
      (.arrive target) { before with stack := frame :: before.stack } (.arrive breakIn) ended ∧
    ended.stack = frame :: before.stack ∧ after = { ended with stack := before.stack }

/-- The big-step semantics of a counting loop or a loop over an array `F` from the moment it
opens its body, whose exit leads to `body`, at a cursor: the body passes once, and then the loop
advances the cursor, sends the value and opens its body again, or leaves through its exit when
no value is left. It records the values sent after the opening and whether a break of the loop
ended it. -/
inductive OpenRun (s : Scope) (F : Node) (out : OutputId) (lp : LoopPorts)
    (body : Option EnterId) : Cursor → Context → List Value → Bool → Context → Prop
  /-- the body passes and the cursor has no next value: the loop leaves -/
  | last {cursor : Cursor} {ctx ran : Context} : BodyPass s F body cursor ctx ran →
      cursor.advance = none → OpenRun s F out lp body cursor ctx [] false ran
  /-- the body passes, and the loop sends the next value and opens its body again -/
  | more {cursor next : Cursor} {v : Value} {ctx ran emitted after : Context} {vs : List Value}
      {broken : Bool} : BodyPass s F body cursor ctx ran → cursor.advance = some (v, next) →
      (output s.graph out v).run.run ran = (.ok (), emitted) →
      OpenRun s F out lp body next emitted vs broken after →
      OpenRun s F out lp body cursor ctx (v :: vs) broken after
  /-- the body breaks the loop during its run: the loop leaves -/
  | broken {cursor : Cursor} {target : EnterId} {ctx after : Context} : body = some target →
      BreakRun s ⟨F.id, .looping F.id cursor⟩ target lp.breakIn ctx after →
      OpenRun s F out lp body cursor ctx [] true after

theorem stack_ne_of_marked {frame marked : Frame} {below above : List Frame}
    (other : marked ≠ frame) : marked :: below ≠ above ++ frame :: below := fun same => by
  cases above with
  | nil => exact other (List.cons.inj same).1
  | cons top rest =>
      have lengths := congrArg List.length same
      simp only [List.length_append, List.length_cons] at lengths
      omega

section Runs

variable {m : NodeId} {F : Node} {out : OutputId} {lp : LoopPorts} {x : ExitPort}
  {q : OutputPort} (wf : s.graph.WellFormed) (found : s.graph.node? m = some F)
  (outlet : F.kind.outlet? = some (out, lp)) (bodyExit : s.graph.exit? lp.body = some x)
  (outFound : s.graph.output? out = some q)

include wf found outlet bodyExit in
/-- A pass of the body leads from the loop opening it at `cursor` to a turn at `cursor` over the
context the pass comes back in. -/
theorem BodyPass.leads {cursor : Cursor} {ctx ran : Context} (walks : F.kind.Walks cursor)
    (pass : BodyPass s F x.target cursor ctx ran) :
    ∃ c ctx₀, Leads s (fun _ _ => True) (.handBack F (.subline lp.body (.looping F.id cursor)))
      ctx c ctx₀ ∧ Advances s F out lp cursor c ctx₀ ran := by
  cases wired : x.target with
  | none =>
      rw [wired] at pass
      obtain rfl : ran = ctx := pass
      exact ⟨_, _, .refl, advances_unwired outlet walks bodyExit wired ran⟩
  | some target =>
      rw [wired] at pass
      -- the body opens over the loop's frame, runs, and hands back to the loop, which pops it
      obtain ⟨c, ended, inside, returns, stack, rfl⟩ := pass
      exact ⟨c, ended, .step trivial (step_subline_wired bodyExit wired _ _)
        (inside.mono fun _ _ _ => trivial), advances_pop wf found outlet walks returns stack⟩

include wf found outlet bodyExit in
/-- Every run of a cursor loop in the big-step semantics is a run of the machine, from the loop
opening its body to the loop's exit, in the context it ends with. -/
theorem OpenRun.leads {cursor : Cursor} {ctx after : Context} {vs : List Value} {broken : Bool}
    (run : OpenRun s F out lp x.target cursor ctx vs broken after)
    (walks : F.kind.Walks cursor) :
    Leads s (fun _ _ => True) (.handBack F (.subline lp.body (.looping F.id cursor))) ctx
      (.handBack F (.exit lp.exit)) after := by
  induction run with
  | last pass done =>
      obtain ⟨c, ctx₀, opened, turn⟩ := pass.leads wf found outlet bodyExit walks
      exact opened.trans (.single trivial (turn.1 done))
  | more pass advanced sent _ ih =>
      obtain ⟨c, ctx₀, opened, turn⟩ := pass.leads wf found outlet bodyExit walks
      exact opened.trans (.step trivial (turn.2 advanced sent) (ih (walks.advance advanced)))
  | broken wired breaks =>
      -- the break marks the loop's frame on top, and the interrupt after it pops the frame
      obtain ⟨ended, inside, stack, rfl⟩ := breaks
      have loop : F.kind.loop? = some lp := NodeKind.loop?_of_outlet? outlet
      have owned : F.id = m := wf.node_id found
      have marked : ∀ cursor' : Cursor,
          ({ node := F.id, alive := true, data := .looping true cursor' } : FlowState) =
            { node := m, alive := true, data := .looping true cursor' } := by
        intro cursor'
        rw [owned]
      exact .step trivial (step_subline_wired bodyExit wired _ _)
        ((inside.mono fun _ _ _ => trivial).trans
          (.step trivial (step_breakIn_top wf found loop stack owned rfl)
            (.single trivial (step_interrupt_broken wf found loop rfl owned (marked _)))))

include wf outFound in
/-- A cursor loop leaves on the stack it opened its body on. -/
theorem OpenRun.stack {body : Option EnterId} {cursor : Cursor} {ctx after : Context}
    {vs : List Value} {broken : Bool} (run : OpenRun s F out lp body cursor ctx vs broken after) :
    after.stack = ctx.stack := by
  -- a pass of the body comes back on the stack it started on, and sending keeps the stack
  have passed : ∀ {body : Option EnterId} {cursor : Cursor} {ctx ran : Context},
      BodyPass s F body cursor ctx ran → ran.stack = ctx.stack := by
    intro body cursor ctx ran pass
    cases body with
    | none =>
        obtain rfl : ran = ctx := pass
        rfl
    | some target =>
        obtain ⟨_, _, _, _, _, rfl⟩ := pass
        rfl
  induction run with
  | last pass _ => exact passed pass
  | more pass _ sent _ ih =>
      have kept := passed pass
      rw [output_run wf outFound] at sent
      cases sent
      exact ih.trans kept
  | broken _ breaks =>
      obtain ⟨_, _, _, rfl⟩ := breaks
      rfl

include wf found outlet bodyExit outFound in
/-- A cursor loop whose entry opens its body at `cursor` on the stack it was entered on leaves,
after any run, through its exit on that stack, and the machine's run from the entry reaches the
exit in the context the loop leaves with. -/
theorem OpenRun.leaves_entry {cursor : Cursor} (walks : F.kind.Walks cursor)
    {ctx emitted after : Context} {vs : List Value} {broken : Bool}
    (entered : (step s (.arrive lp.enter)).run.run ctx =
      (.ok (.next (.handBack F (.subline lp.body (.looping F.id cursor)))), emitted))
    (kept : emitted.stack = ctx.stack)
    (run : OpenRun s F out lp x.target cursor emitted vs broken after) :
    after.stack = ctx.stack ∧ ∃ n, ∀ fuel, (runFrom s (fuel + n) (.arrive lp.enter)).run.run ctx =
      (runFrom s fuel (.handBack F (.exit lp.exit))).run.run after :=
  ⟨(run.stack wf outFound).trans kept,
    (Leads.step trivial entered (run.leads wf found outlet bodyExit walks)).runFrom⟩

/-! ## Determinism -/

section Leaves

variable {cursor : Cursor} {ended : Context} {below : List Frame}

include wf found outlet outFound in
/-- Handing back to a cursor loop's frame on top of the stack moves the frame out of its place:
the step pops it. -/
theorem leaves_of_returns (walks : F.kind.Walks cursor) {c : Control}
    (returns : Returns s.graph c) (stack : ended.stack = ⟨F.id, .looping F.id cursor⟩ :: below) :
    ∀ c' e', (step s c).run.run ended = (.ok (.next c'), e') →
      ∀ above, e'.stack ≠ above ++ ⟨F.id, .looping F.id cursor⟩ :: below := by
  intro c' e' stepped above
  rw [(advances_pop wf found outlet walks returns stack).stack wf outFound stepped]
  exact stack_ne_of_popped

include wf found outlet in
/-- A break of a cursor loop with its frame on top moves the frame out of its place: the step
marks it broken. -/
theorem leaves_of_breakIn (stack : ended.stack = ⟨F.id, .looping F.id cursor⟩ :: below) :
    ∀ c' e', (step s (.arrive lp.breakIn)).run.run ended = (.ok (.next c'), e') →
      ∀ above, e'.stack ≠ above ++ ⟨F.id, .looping F.id cursor⟩ :: below := by
  intro c' e' stepped above
  rw [step_breakIn_top wf found (NodeKind.loop?_of_outlet? outlet) stack (wf.node_id found) rfl]
    at stepped
  cases stepped
  exact stack_ne_of_marked (by simp [FlowState.looping])

include wf found outlet outFound in
/-- A pass of a cursor loop's body is determined by the context it starts from. -/
theorem BodyPass.deterministic (walks : F.kind.Walks cursor) {body : Option EnterId}
    {ctx ran ran' : Context} (first : BodyPass s F body cursor ctx ran)
    (second : BodyPass s F body cursor ctx ran') : ran = ran' := by
  cases body with
  | none =>
      obtain rfl : ran = ctx := first
      obtain rfl : ran' = ran := second
      rfl
  | some target =>
      obtain ⟨c, ended, run, returns, stack, rfl⟩ := first
      obtain ⟨c', ended', run', returns', stack', rfl⟩ := second
      -- neither run goes past the other's end: the step from there pops the loop's frame
      rcases run.determined run' with later | later
      · rw [(later.eq_of_leaves (leaves_of_returns wf found outlet outFound walks returns stack)
          stack').2]
      · rw [(later.eq_of_leaves (leaves_of_returns wf found outlet outFound walks returns' stack')
          stack).2]

include wf found outlet outFound in
/-- A run of a cursor loop's body either hands back to the loop or breaks it, never both. -/
theorem BodyRun.not_breakRun (walks : F.kind.Walks cursor) {target : EnterId}
    {ctx ran after : Context} (body : BodyRun s ⟨F.id, .looping F.id cursor⟩ target ctx ran)
    (breaks : BreakRun s ⟨F.id, .looping F.id cursor⟩ target lp.breakIn ctx after) : False := by
  obtain ⟨c, ended, run, returns, stack, -⟩ := body
  obtain ⟨ended', run', stack', -⟩ := breaks
  rcases run.determined run' with later | later
  · obtain ⟨rfl, -⟩ :=
      later.eq_of_leaves (leaves_of_returns wf found outlet outFound walks returns stack) stack'
    exact returns
  · obtain ⟨same, -⟩ := later.eq_of_leaves (leaves_of_breakIn wf found outlet stack') stack
    rw [← same] at returns
    exact returns

include wf found outlet in
/-- A run of a cursor loop's body that breaks the loop is determined by the context it starts
from. -/
theorem BreakRun.deterministic {target : EnterId} {ctx after after' : Context}
    (first : BreakRun s ⟨F.id, .looping F.id cursor⟩ target lp.breakIn ctx after)
    (second : BreakRun s ⟨F.id, .looping F.id cursor⟩ target lp.breakIn ctx after') :
    after = after' := by
  obtain ⟨ended, run, stack, rfl⟩ := first
  obtain ⟨ended', run', stack', rfl⟩ := second
  rcases run.determined run' with later | later
  · rw [(later.eq_of_leaves (leaves_of_breakIn wf found outlet stack) stack').2]
  · rw [(later.eq_of_leaves (leaves_of_breakIn wf found outlet stack') stack).2]

end Leaves

include wf found outlet outFound in
/-- The big-step semantics of a cursor loop is deterministic: the values it sends, whether a
break ends it, and the context it leaves with are determined by the context it opens its body
in. -/
theorem OpenRun.deterministic {body : Option EnterId} {cursor : Cursor} {ctx after after' : Context}
    {vs vs' : List Value} {broken broken' : Bool}
    (first : OpenRun s F out lp body cursor ctx vs broken after) (walks : F.kind.Walks cursor)
    (second : OpenRun s F out lp body cursor ctx vs' broken' after') :
    vs = vs' ∧ broken = broken' ∧ after = after' := by
  induction first generalizing vs' broken' after' with
  | last pass done =>
      cases second with
      | last pass' _ =>
          exact ⟨rfl, rfl, pass.deterministic wf found outlet outFound walks pass'⟩
      | more _ advanced _ _ =>
          rw [done] at advanced
          cases advanced
      | broken wired breaks =>
          subst wired
          exact (BodyRun.not_breakRun wf found outlet outFound walks pass breaks).elim
  | more pass advanced sent _ ih =>
      cases second with
      | last _ done =>
          rw [done] at advanced
          cases advanced
      | more pass' advanced' sent' rest =>
          cases pass.deterministic wf found outlet outFound walks pass'
          rw [advanced] at advanced'
          cases advanced'
          rw [sent] at sent'
          cases sent'
          obtain ⟨rfl, rfl, rfl⟩ := ih (walks.advance advanced) rest
          exact ⟨rfl, rfl, rfl⟩
      | broken wired breaks =>
          subst wired
          exact (BodyRun.not_breakRun wf found outlet outFound walks pass breaks).elim
  | broken wired breaks =>
      cases second with
      | last pass _ | more pass _ _ _ =>
          subst wired
          exact (BodyRun.not_breakRun wf found outlet outFound walks pass breaks).elim
      | broken wired' breaks' =>
          rw [wired] at wired'
          cases wired'
          exact ⟨rfl, rfl, breaks.deterministic wf found outlet breaks'⟩

/-- A cursor loop sends the values its cursor gives from where it opened its body: all of them
when it runs out, and as many as it sent before a break. -/
theorem OpenRun.walk_eq {body : Option EnterId} {cursor : Cursor} {ctx after : Context}
    {vs : List Value} {broken : Bool} (run : OpenRun s F out lp body cursor ctx vs broken after) :
    cursor.walk vs.length = vs ∧ (broken = false → cursor.walk (vs.length + 1) = vs) := by
  induction run with
  | last _ done => exact ⟨rfl, fun _ => Cursor.walk_succ_of_none done 0⟩
  | more _ advanced _ _ ih =>
      refine ⟨?_, fun unbroken => ?_⟩
      · rw [List.length_cons, Cursor.walk_succ_of_some advanced, ih.1]
      · rw [List.length_cons, Cursor.walk_succ_of_some advanced, ih.2 unbroken]
  | broken _ _ => exact ⟨rfl, fun unbroken => by cases unbroken⟩

/-- When a cursor gives the values of a list, a cursor loop that leaves with no break has sent
all of them. -/
theorem OpenRun.sent_of_walk {body : Option EnterId} {cursor : Cursor} {ctx after : Context}
    {vs rest : List Value} (walked : ∀ r, cursor.walk r = rest.take r)
    (run : OpenRun s F out lp body cursor ctx vs false after) : vs = rest := by
  have taken := (run.walk_eq).2 rfl
  rw [walked] at taken
  -- taking one more than was sent gives no more: the list is used up
  have lengths := congrArg List.length taken
  simp only [List.length_take] at lengths
  rw [← taken, List.take_of_length_le (by omega)]

include wf outFound in
/-- A cursor loop whose body always comes back, at a cursor that runs out within `n` advances,
runs to its exit with no break. -/
theorem OpenRun.exists_of_exhausted {body : Option EnterId}
    (passes : ∀ cursor ctx, ∃ ran, BodyPass s F body cursor ctx ran) (n : Nat)
    {cursor : Cursor} (exhausted : (cursor.walk (n + 1)).length ≤ n) (ctx : Context) :
    ∃ vs after, OpenRun s F out lp body cursor ctx vs false after := by
  -- induction on how many values the cursor may still give
  induction n generalizing cursor ctx with
  | zero =>
      obtain ⟨ran, pass⟩ := passes cursor ctx
      cases advanced : cursor.advance with
      | none => exact ⟨[], ran, .last pass advanced⟩
      | some pair =>
          obtain ⟨v, next⟩ := pair
          rw [Cursor.walk_succ_of_some advanced, List.length_cons] at exhausted
          omega
  | succ n ih =>
      obtain ⟨ran, pass⟩ := passes cursor ctx
      cases advanced : cursor.advance with
      | none => exact ⟨[], ran, .last pass advanced⟩
      | some pair =>
          obtain ⟨v, next⟩ := pair
          rw [Cursor.walk_succ_of_some advanced, List.length_cons] at exhausted
          obtain ⟨emitted, sent, -⟩ := output_run_ok wf outFound v ran
          have fewer : (next.walk (n + 1)).length ≤ n := by omega
          obtain ⟨vs, after, rest⟩ := ih fewer emitted
          exact ⟨v :: vs, after, .more pass advanced sent rest⟩

include wf outFound in
/-- With a body that always comes back, a cursor loop leaves with no break exactly when its
cursor runs out: whether it does depends on the cursor alone, not on the body. -/
theorem OpenRun.exists_iff_exhausted {body : Option EnterId}
    (passes : ∀ cursor ctx, ∃ ran, BodyPass s F body cursor ctx ran) (cursor : Cursor)
    (ctx : Context) :
    (∃ vs after, OpenRun s F out lp body cursor ctx vs false after) ↔
      ∃ n, (cursor.walk (n + 1)).length ≤ n := by
  constructor
  · rintro ⟨vs, after, run⟩
    have sent := (run.walk_eq).2 rfl
    exact ⟨vs.length, Nat.le_of_eq (congrArg List.length sent)⟩
  · rintro ⟨n, exhausted⟩
    exact OpenRun.exists_of_exhausted wf outFound passes n exhausted ctx

/-- A cursor loop whose cursor advances to itself never leaves without a break. -/
theorem OpenRun.not_of_stalled {body : Option EnterId} {cursor : Cursor} {v : Value}
    (stalled : cursor.advance = some (v, cursor)) {ctx after : Context} {vs : List Value}
    (run : OpenRun s F out lp body cursor ctx vs false after) : False := by
  have sent := (run.walk_eq).2 rfl
  rw [Cursor.walk_of_stalled stalled] at sent
  have lengths := congrArg List.length sent
  simp only [List.length_replicate] at lengths
  omega

include wf outlet bodyExit outFound in
/-- A cursor loop whose body leads nowhere and whose cursor advances to itself runs for ever:
however many steps it is given, it neither ends nor fails. -/
theorem runFrom_stalled {cursor : Cursor} {v : Value} (walks : F.kind.Walks cursor)
    (unwired : x.target = none) (stalled : cursor.advance = some (v, cursor)) :
    ∀ (fuel : Nat) (ctx : Context), ∃ after,
      (runFrom s fuel (.handBack F (.subline lp.body (.looping F.id cursor)))).run.run ctx =
        (.ok none, after) := by
  intro fuel
  induction fuel with
  | zero => exact fun ctx => ⟨ctx, rfl⟩
  | succ fuel ih =>
      intro ctx
      -- each step sends the same value and opens the body at the same cursor again
      obtain ⟨emitted, sent, -⟩ := output_run_ok wf outFound v ctx
      have turn := advances_unwired outlet walks bodyExit unwired ctx
      rw [runFrom_succ_of_next fuel (turn.2 stalled sent)]
      exact ih emitted

end Runs

end Flow

end Blueprint
