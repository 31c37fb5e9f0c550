import Blueprint.Proofs.Flow.CursorLoop

/-!
# Loops over an array

A loop over an array reads its array input once, when it is entered, and fails there when the
input gives no value or a value that is not an array. The items it runs over are those of the
array it read: it keeps them in the cursor of the frame it pushes, so nothing its body does to
the array's source reaches them. It sends the first item on entry and each next one when it is
resumed, and opens its body after each, so that the body's `j`-th run follows the sending of
item `j`.

`forOf_runs_body_per_item` puts this together for a loop of a function on a built graph: what
entering does with each outcome of the read, that a body that always comes back runs once per
item, that every run of the loop sends the items in order, all of them or up to the run that
breaks it, and that the loop leaves through its exit on the stack it was entered on.
-/

namespace Blueprint

open FlowM

namespace Flow

variable {s : Scope} {ctx : Context}

/-! ## Entering the loop -/

section Enter

variable {m : NodeId} {F : Node} {array : InputId} {item : OutputId} {lp : LoopPorts}
  (wf : s.graph.WellFormed) (found : s.graph.node? m = some F)
  (kind : F.kind = .forOfLoop array item lp)
include wf found kind

/-- Arriving at the enter port of a loop over an array runs the loop's entry. -/
theorem step_forOf_enter :
    (step s (.arrive lp.enter)).run.run ctx =
      (Node.enterForOf s.graph F.id array item lp >>= fun c =>
        pure (Step.next (.handBack F c))).run.run ctx := by
  have loop : F.kind.loop? = some lp := by rw [kind]; rfl
  -- the enter port is not the break port, so the entry runs rather than a break
  have distinct : lp.enter ≠ lp.breakIn := (wf.breakIn_ne_enter found loop).symm
  rw [step_loop_enter wf found loop]
  simp only [Node.execute, kind, if_neg distinct, ne_eq, not_true_eq_false, if_false]

/-- Entering a loop over an array whose read gives an array is a turn at the array's first
place, in the context the read leaves. -/
theorem advances_forOf_enter {xs : List Value} {read : Context}
    (got : (readRequired s.graph array).run.run ctx = (.ok (.array xs), read)) :
    Advances s F item lp (.items xs 0) (.arrive lp.enter) ctx read := by
  refine ⟨fun done => ?_, fun advanced sent => ?_⟩
  · rw [step_forOf_enter wf found kind]
    cases xs with
    | nil =>
        simp only [Node.enterForOf, run_bind, got]
        rfl
    | cons first rest => simp [Cursor.advance] at done
  · rw [step_forOf_enter wf found kind]
    cases xs with
    | nil => simp [Cursor.advance] at advanced
    | cons first rest =>
        simp only [Cursor.advance, List.getElem?_cons_zero, Option.map_some, Option.some.injEq,
          Prod.mk.injEq] at advanced
        obtain ⟨rfl, rfl⟩ := advanced
        simp only [Node.enterForOf, run_bind, got, sent]
        rfl

theorem step_forOf_enter_error {e : Fault} {after : Context}
    (got : (readRequired s.graph array).run.run ctx = (.error e, after)) :
    (step s (.arrive lp.enter)).run.run ctx = (.error e, after) := by
  rw [step_forOf_enter wf found kind]
  simp only [Node.enterForOf, run_bind, got]

theorem step_forOf_enter_other {v : Value} {after : Context} (other : ∀ xs, v ≠ .array xs)
    (got : (readRequired s.graph array).run.run ctx = (.ok v, after)) :
    (step s (.arrive lp.enter)).run.run ctx =
      (.error (.typeMismatch "array" v.kindName), after) := by
  rw [step_forOf_enter wf found kind]
  simp only [Node.enterForOf, run_bind, got]
  cases v with
  | array xs => exact absurd rfl (other xs)
  | bool _ | number _ | text _ | entity _ => rfl

end Enter

/-- A loop over an array, opened at the array's second place, sends the rest of the items when
it runs out, and otherwise the items up to the run that breaks it. -/
theorem OpenRun.items_sent {F : Node} {out : OutputId} {lp : LoopPorts} {body : Option EnterId}
    {first : Value} {rest : List Value} {ctx after : Context} {vs : List Value} {broken : Bool}
    (run : OpenRun s F out lp body (.items (first :: rest) 1) ctx vs broken after) :
    (broken = false → first :: vs = first :: rest) ∧
      (broken = true → first :: vs = (first :: rest).take (vs.length + 1) ∧
        vs.length < (first :: rest).length) := by
  obtain ⟨sent, -⟩ := run.walk_eq
  simp only [Cursor.walk_items, List.drop_succ_cons, List.drop_zero] at sent
  refine ⟨fun finished => ?_, fun _ => ⟨?_, ?_⟩⟩
  · subst finished
    rw [run.sent_of_walk fun r => by rw [Cursor.walk_items, List.drop_succ_cons, List.drop_zero]]
  · rw [List.take_succ_cons, sent]
  · have lengths := congrArg List.length sent
    simp only [List.length_take] at lengths
    simp only [List.length_cons]
    omega

end Flow

namespace Interpreter

/-- A loop over an array of a function on a built graph reads its array input when it is entered
and at no other time: a failed read fails the entry, no value fails with a missing input naming
the port, and a value that is not an array fails with a type mismatch. An empty array leaves
through the exit at once. Otherwise the first item is sent on the item output and the body
opens with the loop's frame, which keeps the items read; every later item is taken from there,
whatever the body does to the array's source. A body that always comes back makes the loop run
it once per item. Every run of the loop sends the items in order, all of them, or, when a run of
the body breaks the loop, those up to that run; it leaves through the exit on the stack the loop
was entered on, and it is the only run from there. -/
theorem forOf_runs_body_per_item (tag : Nat) (name : String) (edits : List Graph.Edit)
    {i : Interpreter} {f : FlowFunction} (built : f.graph = Graph.build tag name edits)
    {m : NodeId} {F : Node} {array : InputId} {item : OutputId} {lp : LoopPorts}
    (found : f.graph.node? m = some F) (kind : F.kind = .forOfLoop array item lp) :
    let s : Scope := ⟨f.graph, i.builtins⟩
    ∃ p x, f.graph.input? array = some p ∧ f.graph.exit? lp.body = some x ∧
      -- entering reads the array input, and fails unless it gives an array
      (∀ {ctx after : Context} {e : Fault},
        (Flow.input f.graph array).run.run ctx = (.error e, after) →
        (Flow.step s (.arrive lp.enter)).run.run ctx = (.error e, after)) ∧
      (∀ {ctx after : Context}, (Flow.input f.graph array).run.run ctx = (.ok none, after) →
        (Flow.step s (.arrive lp.enter)).run.run ctx = (.error (.missingInput p.name), after)) ∧
      (∀ {ctx after : Context} {v : Value}, (∀ xs, v ≠ .array xs) →
        (Flow.input f.graph array).run.run ctx = (.ok (some v), after) →
        (Flow.step s (.arrive lp.enter)).run.run ctx =
          (.error (.typeMismatch "array" v.kindName), after)) ∧
      ∀ {ctx read : Context} {xs : List Value},
        (Flow.input f.graph array).run.run ctx = (.ok (some (.array xs)), read) →
        -- an empty array leaves at once
        (xs = [] → (Flow.step s (.arrive lp.enter)).run.run ctx =
          (.ok (.next (.handBack F (.exit lp.exit))), read)) ∧
        -- otherwise the first item is sent and the body opens over the items read
        ∀ {first : Value} {rest : List Value}, xs = first :: rest →
          ∃ emitted, (Flow.output f.graph item first).run.run read = (.ok (), emitted) ∧
          (Flow.step s (.arrive lp.enter)).run.run ctx =
            (.ok (.next (.handBack F (.subline lp.body (.looping F.id (.items xs 1))))),
              emitted) ∧
          -- a body that always comes back runs once per item
          ((∀ cursor c, ∃ ran, Flow.BodyPass s F x.target cursor c ran) →
            ∃ after, Flow.OpenRun s F item lp x.target (.items xs 1) emitted rest false after) ∧
          ∀ {vs : List Value} {broken : Bool} {after : Context},
            Flow.OpenRun s F item lp x.target (.items xs 1) emitted vs broken after →
            -- the items sent: all of them, or those up to the run that breaks the loop
            (broken = false → first :: vs = xs) ∧
            (broken = true → first :: vs = xs.take (vs.length + 1) ∧ vs.length < xs.length) ∧
            -- the loop leaves through its exit on the stack it was entered on
            after.stack = ctx.stack ∧
            (∃ n, ∀ fuel, (Flow.runFrom s (fuel + n) (.arrive lp.enter)).run.run ctx =
              (Flow.runFrom s fuel (.handBack F (.exit lp.exit))).run.run after) ∧
            -- and no other run starts there
            ∀ {vs' : List Value} {broken' : Bool} {after' : Context},
              Flow.OpenRun s F item lp x.target (.items xs 1) emitted vs' broken' after' →
              vs = vs' ∧ broken = broken' ∧ after = after' := by
  intro s
  have wf : f.graph.WellFormed := built ▸ Graph.build_wellFormed tag name edits
  have wf : s.graph.WellFormed := wf
  have found : s.graph.node? m = some F := found
  obtain ⟨p, input, _⟩ := wf.input_of_mem found (i := array) (by simp [kind, NodeKind.inputs])
  have outlet : F.kind.outlet? = some (item, lp) := by rw [kind]; rfl
  obtain ⟨⟨q, outFound⟩, x, bodyExit⟩ := wf.outlet_ports found outlet
  refine ⟨p, x, input, bodyExit, fun read => ?_, fun read => ?_, fun other read => ?_,
    fun {ctx read xs} got => ⟨fun empty => ?_, fun listed => ?_⟩⟩
  · exact Flow.step_forOf_enter_error wf found kind (Flow.readRequired_of_error (g := s.graph) read)
  · have failed := Flow.step_forOf_enter_error wf found kind
      (Flow.readRequired_of_none (g := s.graph) read)
    simpa only [input, Option.map_some, Option.getD_some] using failed
  · exact Flow.step_forOf_enter_other wf found kind other (Flow.readRequired_of_some (g := s.graph)
      read)
  · subst empty
    exact (Flow.advances_forOf_enter wf found kind (Flow.readRequired_of_some (g := s.graph) got)).1 rfl
  · subst listed
    rename_i first rest
    have turn := Flow.advances_forOf_enter wf found kind
      (Flow.readRequired_of_some (g := s.graph) got)
    obtain ⟨emitted, sent, kept⟩ := Flow.output_run_ok wf outFound first read
    have entered := turn.2 rfl sent
    have walks : F.kind.Walks (.items (first :: rest) 1) := by rw [kind]; trivial
    refine ⟨emitted, sent, entered, fun passes => ?_, fun run => ?_⟩
    · -- the items after the first run out after as many advances as there are of them
      have exhausted :
          ((Cursor.items (first :: rest) 1).walk (rest.length + 1)).length ≤ rest.length := by
        simp [Cursor.walk_items]
      obtain ⟨vs, after, run⟩ :=
        Flow.OpenRun.exists_of_exhausted wf outFound passes rest.length exhausted emitted
      obtain ⟨unbroken, -⟩ := run.items_sent
      obtain rfl : vs = rest := List.cons_injective (unbroken rfl)
      exact ⟨after, run⟩
    · obtain ⟨unbroken, broken⟩ := run.items_sent
      have calm : read.stack = ctx.stack := (Flow.input_calm wf input ctx).of_ok got
      obtain ⟨stack, leads⟩ :=
        run.leaves_entry wf found outlet bodyExit outFound walks entered (kept.trans calm)
      exact ⟨fun finished => by rw [unbroken finished], broken, stack, leads,
        fun second => run.deterministic wf found outlet outFound walks second⟩

/-- A loop over the array of the numbers one and two, with a body that leads nowhere, sends both
and leaves through its exit. -/
theorem forOf_over_two_items_leaves :
    let f : FlowFunction :=
      { symbol := "main", entry := ⟨0, 0⟩,
        graph := Graph.build 0 "main" [.addForOf, .setDefault ⟨0, 0⟩ (.array [.number 1, .number 2])] }
    let s : Scope := ⟨f.graph, standard.builtins⟩
    ∃ F after, f.graph.node? ⟨0, 0⟩ = some F ∧ after.stack = [] ∧
      after.ports.get? ⟨0, 0⟩ = some (.number 2) ∧ ∃ n, ∀ fuel,
        (Flow.runFrom s (fuel + n) (.arrive ⟨0, 0⟩)).run.run {} =
          (Flow.runFrom s fuel (.handBack F (.exit ⟨0, 1⟩))).run.run after := by
  intro f s
  have got : (Flow.input f.graph ⟨0, 0⟩).run.run {} =
      (.ok (some (.array [.number 1, .number 2])), {}) := rfl
  obtain ⟨p, x, -, bodyExit, -, -, -, items⟩ :=
    forOf_runs_body_per_item 0 "main" _ (i := standard) (f := f) rfl (m := ⟨0, 0⟩) rfl rfl
  have unwired : x.target = none := by
    cases bodyExit
    rfl
  obtain ⟨-, opened⟩ := items got
  obtain ⟨emitted, sent, -, exists_run, runs⟩ := opened rfl
  obtain ⟨after, run⟩ := exists_run fun _ c => ⟨c, by rw [unwired]; rfl⟩
  obtain ⟨-, -, stack, leaves, -⟩ := runs run
  refine ⟨_, after, rfl, stack, ?_, leaves⟩
  -- the loop sends the second item over the context the first left, and then runs out
  cases run with
  | more pass _ sentSecond rest =>
      cases rest with
      | last pass' _ =>
          rw [unwired] at pass pass'
          obtain rfl := pass
          obtain rfl := pass'
          rw [Flow.output_run (Graph.build_wellFormed 0 "main" _) rfl] at sentSecond
          cases sentSecond
          exact OrderedMap.get?_insert_self _ _ _

end Interpreter

end Blueprint
