import Blueprint.Proofs.Graph.Binding
import Blueprint.Proofs.Flow.Clean

/-!
# Sending a value on an output

Sending a value on an output of a well-formed graph always succeeds. It logs the value as the
output's last one and hands it to the inputs the output feeds, one after another in the order of
the output's list; an input that is a variable's write port stores it in the variable's symbol,
and every other input ignores it. Nothing else changes: not the stack, not the value logged for
any other output.

With the order of an output's list read off the graph's history (`Graph.build_targets_eq_fanOut`),
the main statement `output_delivers_in_binding_order` says what a send does in terms of the attach
calls that built the graph.
-/

namespace Blueprint

open FlowM

namespace OrderedMap

variable {κ α : Type} [BEq κ] [LawfulBEq κ]

theorem contains_iff_mem_keys (m : OrderedMap κ α) (k : κ) : m.contains k = true ↔ k ∈ m.keys := by
  simp [contains, keys, List.any_eq_true]

/-- Storing values under keys one after another keeps the keys there were and appends each new
key in turn. -/
theorem keys_foldl_insert (ks : List κ) (v : α) (m : OrderedMap κ α) :
    (ks.foldl (fun m k => m.insert k v) m).keys =
      ks.foldl (fun acc k => if k ∈ acc then acc else acc ++ [k]) m.keys := by
  induction ks generalizing m with
  | nil => rfl
  | cons k rest ih =>
      simp only [List.foldl_cons, ih, keys_insert, ← contains_iff_mem_keys]

end OrderedMap

namespace Graph

/-- The symbol an input stores a delivered value in: the symbol of the variable whose write port
it is, and none for any other input. -/
def storedBy? (g : Graph) (i : InputId) : Option String :=
  match g.input? i with
  | some p =>
    match g.node? p.node with
    | some n =>
      match n.kind with
      | .var symbol write .. => if i = write then some symbol else none
      | _ => none
    | none => none
  | none => none

/-- The node that owns an input receives a value delivered to it by storing it in the symbol
the input stores in, if any. -/
theorem received_eq_storedBy {g : Graph} {i : InputId} {p : InputPort} {n : Node}
    (input : g.input? i = some p) (node : g.node? p.node = some n) (v : Value)
    (symbols : OrderedMap String Value) :
    n.received i v symbols =
      match g.storedBy? i with
      | some symbol => symbols.insert symbol v
      | none => symbols := by
  unfold storedBy? Node.received
  rw [input]
  simp only [node]
  cases n.kind with
  | var symbol write read enter exit =>
      by_cases own : i = write
      · simp [own]
      · simp [own]
  | entry _ _ _ | finish _ _ _ | branch _ _ _ _ | whileLoop _ _ | forLoop _ _ _ _ _
  | forOfLoop _ _ _ | expression _ _ _ _ _ _ => rfl

end Graph

namespace Flow

variable {g : Graph} {ctx : Context}

/-- Delivering a value to inputs of the graph stores it, input after input, in the symbols they
store in; nothing else changes. -/
theorem deliver_run (v : Value) :
    ∀ {targets : List InputId}, (∀ i ∈ targets, ∃ p n, g.input? i = some p ∧ g.node? p.node = some n) →
      ∀ ctx : Context, (deliver g v targets).run.run ctx =
        (.ok (), { ctx with symbols :=
          (targets.filterMap g.storedBy?).foldl (fun m s => m.insert s v) ctx.symbols })
  | [], _, ctx => rfl
  | i :: rest, resolved, ctx => by
      obtain ⟨p, n, input, node⟩ := resolved i List.mem_cons_self
      simp only [deliver, run_bind, Graph.resolveInput_eq_ok input, Graph.resolveNode_eq_ok node,
        run_lift_ok, run_modify, Graph.received_eq_storedBy input node]
      rw [deliver_run v (fun j member => resolved j (List.mem_cons_of_mem i member))]
      cases stored : g.storedBy? i <;> simp [stored]

/-- On a well-formed graph, sending a value on an output logs it for that output and stores it
in the symbols of the inputs the output feeds, in the order of the output's list. -/
theorem output_run (wf : g.WellFormed) {o : OutputId} {q : OutputPort}
    (found : g.output? o = some q) (v : Value) (ctx : Context) :
    (output g o v).run.run ctx =
      (.ok (), { ctx with ports := ctx.ports.insert o v, symbols :=
        (q.targets.filterMap g.storedBy?).foldl (fun m s => m.insert s v) ctx.symbols }) := by
  have resolved : ∀ i ∈ q.targets, ∃ p n, g.input? i = some p ∧ g.node? p.node = some n := by
    intro i member
    obtain ⟨p, input, _⟩ := wf.target_bound found member
    obtain ⟨n, node⟩ := wf.node_of_input input
    exact ⟨p, n, input, node⟩
  simp only [output, run_bind, Graph.resolveOutput_eq_ok found, run_lift_ok, run_modify,
    deliver_run v resolved]
  rfl

/-- Sending on an output of a well-formed graph succeeds and leaves the stack as it was. -/
theorem output_run_ok (wf : g.WellFormed) {o : OutputId} {q : OutputPort}
    (found : g.output? o = some q) (v : Value) (ctx : Context) :
    ∃ after, (output g o v).run.run ctx = (.ok (), after) ∧ after.stack = ctx.stack :=
  ⟨_, output_run wf found v ctx, rfl⟩

end Flow

namespace Interpreter

/-- In a graph built by any sequence of edits, sending a value on one of its outputs succeeds,
from any context. The inputs it is delivered to are exactly the inputs bound to the output, each
once, in the order of the attach calls that established their bindings: a rebinding to the same
output keeps an input's place, and a binding away and back puts it last. Sending logs the value
for this output alone and delivers it to those inputs one after another; it stores the value in
the symbol of each variable whose write port is among them, in that order, so that a symbol new
to the table is appended in turn. The stack and the values logged for other outputs are left
as they were. -/
theorem output_delivers_in_binding_order (tag : Nat) (name : String) (edits : List Graph.Edit)
    {o : OutputId} {q : OutputPort} (found : (Graph.build tag name edits).output? o = some q)
    (v : Value) (ctx : Context) :
    let g := Graph.build tag name edits
    let bound := Graph.fanOut (Graph.buildHistory tag name edits) o
    let stored := bound.filterMap g.storedBy?
    -- the inputs the output feeds: those bound to it, once each, in the order of their bindings
    q.targets = bound ∧ bound.Nodup ∧
      (∀ i, i ∈ bound ↔ ∃ p, g.input? i = some p ∧ p.target = some o) ∧
    -- sending logs the value and delivers it to exactly those inputs, in that order
    (Flow.output g o v).run.run ctx = (Flow.deliver g v bound).run.run (ctx.logPort o v) ∧
    (Flow.output g o v).run.run ctx =
      (.ok (), { ctx with ports := ctx.ports.insert o v
                          symbols := stored.foldl (fun m s => m.insert s v) ctx.symbols }) ∧
    -- new symbols join the table in that order
    (stored.foldl (fun m s => m.insert s v) ctx.symbols).keys =
      stored.foldl (fun acc s => if s ∈ acc then acc else acc ++ [s]) ctx.symbols.keys := by
  intro g bound stored
  have wf : g.WellFormed := Graph.build_wellFormed tag name edits
  have found : g.output? o = some q := found
  have listed : q.targets = bound := Graph.build_targets_eq_fanOut tag name edits found
  refine ⟨listed, listed ▸ wf.targets_nodup found, fun i => ?_, ?_, ?_,
    OrderedMap.keys_foldl_insert stored v ctx.symbols⟩
  · rw [← listed]
    constructor
    · intro member
      exact wf.target_bound found member
    · rintro ⟨p, input, bound⟩
      exact (wf.target_eq_some_iff input found).mp bound
  · simp only [Flow.output, run_bind, Graph.resolveOutput_eq_ok found, run_lift_ok, run_modify,
      listed]
  · rw [Flow.output_run wf found, listed]

/-- Three variables, the second and third bound to the first's read port in turn; the second is
bound there again, which keeps its place, then moved to the third's read port and bound back:
the first now feeds the third and then the second, and a value sent on it is stored in their
symbols in that order. -/
theorem rebound_input_moves_last :
    let edits : List Graph.Edit := [.addVar "a", .addVar "b", .addVar "c",
      .attach ⟨0, 1⟩ ⟨0, 0⟩, .attach ⟨0, 2⟩ ⟨0, 0⟩, .attach ⟨0, 1⟩ ⟨0, 0⟩,
      .attach ⟨0, 1⟩ ⟨0, 2⟩, .attach ⟨0, 1⟩ ⟨0, 0⟩]
    ∃ q, (Graph.build 0 "main" edits).output? ⟨0, 0⟩ = some q ∧ q.targets = [⟨0, 2⟩, ⟨0, 1⟩] ∧
      (Flow.output (Graph.build 0 "main" edits) ⟨0, 0⟩ (.bool true)).run.run {} =
        (.ok (), { ports := OrderedMap.empty.insert ⟨0, 0⟩ (.bool true)
                   symbols := ⟨[("c", .bool true), ("b", .bool true)]⟩ }) := by
  intro edits
  have order : Graph.fanOut (Graph.buildHistory 0 "main" edits) ⟨0, 0⟩ = [⟨0, 2⟩, ⟨0, 1⟩] := by
    decide
  obtain ⟨q, found⟩ : ∃ q, (Graph.build 0 "main" edits).output? ⟨0, 0⟩ = some q := ⟨_, rfl⟩
  obtain ⟨listed, -, -, -, sent, -⟩ :=
    output_delivers_in_binding_order 0 "main" edits found (.bool true) {}
  refine ⟨q, found, listed.trans order, ?_⟩
  rw [sent, order]
  rfl

end Interpreter

end Blueprint
