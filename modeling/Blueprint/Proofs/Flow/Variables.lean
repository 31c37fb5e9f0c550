import Blueprint.Proofs.Flow.Effects

/-!
# Variable reads

A variable offers its symbol's value whenever its read output is read, so an input bound to it
sees the symbol, not the output's logged value, as long as the symbol has one. When it has none,
the log is consulted next: a stale value would show there. None can, because a variable's read
output is logged only when the variable offers a value, so only once its symbol is defined, and a
symbol, once defined, keeps a value. `Graph.ReadsDefined` is that invariant; data flow keeps it
(`ReadsDefined.of_dataFlow`), so every state a call reaches has it, and so does the context a
failed call reports. An input bound to a variable then reads the symbol's current value, or its
own default when the symbol is undefined (`Flow.input_of_varRead`).
-/

namespace Blueprint

open FlowM

namespace Graph

variable {g : Graph}

/-- Every variable whose read output has a logged value has a defined symbol. -/
def ReadsDefined (g : Graph) (ports : OrderedMap OutputId Value)
    (symbols : OrderedMap String Value) : Prop :=
  ∀ symbol read, g.VarRead symbol read → (ports.get? read).isSome →
    (symbols.get? symbol).isSome

theorem readsDefined_empty (symbols : OrderedMap String Value) :
    g.ReadsDefined .empty symbols := by
  intro _ _ _ logged
  cases logged

/-- Data flow keeps the invariant: a read port it logs has a defined symbol by then, and a
symbol that had a value keeps one. -/
theorem ReadsDefined.of_dataFlow {before after : Context}
    (defined : g.ReadsDefined before.ports before.symbols) (flow : g.DataFlow before after) :
    g.ReadsDefined after.ports after.symbols := by
  intro symbol read isVar logged
  rcases flow.reads isVar logged with earlier | present
  · exact flow.symbols symbol (defined symbol read isVar earlier)
  · exact present

end Graph

namespace Flow

variable {g : Graph} {ctx : Context}

/-- Reading an input bound to a variable's read output gives the symbol's current value when the
symbol is defined, and the input's own default when it is not: never a stale logged value. -/
theorem input_of_varRead (wf : g.WellFormed) (defined : g.ReadsDefined ctx.ports ctx.symbols)
    {port : InputId} {p : InputPort} (resolved : g.input? port = some p) {m : NodeId} {n : Node}
    {symbol : String} {write : InputId} {read : OutputId} {enter : EnterId} {exit : ExitId}
    (found : g.node? m = some n) (kind : n.kind = .var symbol write read enter exit)
    (bound : p.target = some read) :
    ((input g port).run.run ctx).1 = .ok ((ctx.symbols.get? symbol).or p.default) := by
  obtain ⟨q, output, owner⟩ := wf.output_of_mem found (o := read)
    (by simp [kind, NodeKind.outputs])
  have offered : n.offered ctx.symbols read = ctx.symbols.get? symbol := by
    simp [Node.offered, kind]
  simp only [input, run_bind, Graph.resolveInput_eq_ok resolved, run_lift_ok, bound,
    Graph.resolveOutput_eq_ok output, owner, Graph.resolveNode_eq_ok found, run_get, offered]
  cases value : ctx.symbols.get? symbol with
  | some v => rfl
  | none =>
      -- an undefined symbol has an unlogged read port, so the default is what is read
      have unlogged : ctx.ports.get? read = none := by
        cases logged : ctx.ports.get? read with
        | none => rfl
        | some _ =>
            have present := defined symbol read ⟨m, n, write, enter, exit, found, kind⟩
              (by simp [logged])
            simp [value] at present
      rw [unlogged]
      rfl

end Flow

namespace Interpreter

variable {i : Interpreter} {f : FlowFunction} {args : List Value}

/-- Every state a call reaches has control handed back only from nodes of the graph, and every
logged read port of a variable backed by a defined symbol. -/
theorem Reachable.readsDefined (wf : f.graph.WellFormed) {c : Control} {ctx : Context}
    (reach : i.Reachable f args c ctx) :
    c.Owned f.graph ∧ f.graph.ReadsDefined ctx.ports ctx.symbols := by
  induction reach with
  | start prepared =>
      have flow := Flow.prepare_within (s := ⟨f.graph, i.builtins⟩) wf
        i.settings.validateArguments f args (Context.start f.locals)
      rw [prepared] at flow
      exact ⟨trivial, (Graph.readsDefined_empty f.locals).of_dataFlow flow⟩
  | step _ stepped ih =>
      obtain ⟨owned, defined⟩ := ih
      have moved := (spec_of_run_ok stepped).mp (Flow.step_spec wf owned _)
      exact ⟨moved.2 _ rfl, defined.of_dataFlow moved.1⟩

/-- A failed call reports a context in which every logged read port of a variable is backed by
a defined symbol. -/
theorem executeWithin_failure_readsDefined (wf : f.graph.WellFormed) {fuel : Nat}
    {failure : Failure} (failed : i.executeWithin fuel f args = .failed failure) :
    f.graph.ReadsDefined failure.ports failure.symbols := by
  rcases executeWithin_eq_failed failed with ⟨e, ctx, prepared, rfl⟩ | ⟨c, ctx, e, ctx', reach,
    stepped, rfl⟩
  · -- the preparation failed, having sent some arguments
    have flow := Flow.prepare_within (s := ⟨f.graph, i.builtins⟩) wf
      i.settings.validateArguments f args (Context.start f.locals)
    rw [prepared] at flow
    exact (Graph.readsDefined_empty f.locals).of_dataFlow flow
  · -- a step failed, from a state that had the invariant
    obtain ⟨owned, defined⟩ := reach.readsDefined wf
    exact defined.of_dataFlow ((spec_of_run_error stepped).mp (Flow.step_spec wf owned ctx))

/-- In every state that a call of a function on a built graph reaches, and in the context that a
failed call reports, a variable's read output holds a logged value only while the variable's
symbol is defined. So an input bound to a variable reads the symbol's current value when it is
defined and its own default otherwise: a stale logged value is never read, and inputs bound to
variables of one defined symbol read the same value. -/
theorem variable_reads_never_stale (tag : Nat) (name : String) (edits : List Graph.Edit)
    (built : f.graph = Graph.build tag name edits) :
    (∀ {c : Control} {ctx : Context}, i.Reachable f args c ctx →
      f.graph.ReadsDefined ctx.ports ctx.symbols ∧
      ∀ {port : InputId} {p : InputPort} {m : NodeId} {n : Node} {symbol : String}
        {write : InputId} {read : OutputId} {enter : EnterId} {exit : ExitId},
        f.graph.input? port = some p → f.graph.node? m = some n →
        n.kind = .var symbol write read enter exit → p.target = some read →
        ((Flow.input f.graph port).run.run ctx).1 = .ok ((ctx.symbols.get? symbol).or p.default)) ∧
    ∀ {failure : Failure}, i.execute f args = .failed failure →
      f.graph.ReadsDefined failure.ports failure.symbols := by
  have wf : f.graph.WellFormed := built ▸ Graph.build_wellFormed tag name edits
  refine ⟨fun reach => ?_, fun failed => executeWithin_failure_readsDefined wf failed⟩
  have defined := (reach.readsDefined wf).2
  exact ⟨defined, fun resolved found kind bound =>
    Flow.input_of_varRead wf defined resolved found kind bound⟩

/-- A branch whose condition is bound to a variable of a defined local, and defaults to true,
reads the local's value when control first arrives at it. -/
theorem branch_reads_defined_local :
    let f : FlowFunction :=
      { symbol := "main", entry := ⟨0, 0⟩, locals := OrderedMap.empty.insert "x" (.bool false),
        graph := Graph.build 0 "main" [.addEntry [], .addVar "x", .addIf,
          .connect ⟨0, 0⟩ ⟨0, 1⟩, .attach ⟨0, 1⟩ ⟨0, 0⟩, .setDefault ⟨0, 1⟩ (.bool true)] }
    standard.Reachable f [] (.arrive ⟨0, 1⟩) (Context.start f.locals) ∧
      ((Flow.input f.graph ⟨0, 1⟩).run.run (Context.start f.locals)).1 = .ok (some (.bool false)) := by
  intro f
  have reach : standard.Reachable f [] (.arrive ⟨0, 1⟩) (Context.start f.locals) := .start rfl
  exact ⟨reach, ((variable_reads_never_stale 0 "main" _ rfl).1 reach).2 (m := ⟨0, 1⟩)
    rfl rfl rfl rfl⟩

end Interpreter

end Blueprint
