import Blueprint.Proofs.Flow.Effects

/-!
# Evaluation only reads

Evaluating an expression reads inputs, and reading an input changes the context in one way
only: when the read output belongs to a variable whose symbol has a value, that value is
stored in the port log (`Graph.pulled?`). The flow stack and the symbol table are never
touched, and the port log changes by such stores alone (`Graph.Pulls`).

Because the symbols stay, an output that offers a value offers the same one on every read, and
a log entry that no variable offers is never written. So a second evaluation right after the
first takes the same branches, reads the same values, stores what is already stored, and ends
with the same value or the same failure and the context unchanged. The second run only needs a
context that `Graph.Covers` the one the first run left; `FlowM.Rereads` packages both facts for
a computation, holds of reads, failures, results and their sequences, and so of every
evaluation (`Expr.evaluate_rereads`). The main statement is `evaluate_pulls_and_repeats`.
-/

namespace Blueprint

namespace OrderedMap

variable {κ α : Type} [BEq κ] [LawfulBEq κ]

theorem store_of_lookup_eq {k : κ} {v : α} :
    ∀ {es : List (κ × α)}, lookup k es = some v → store k v es = es
  | [], held => by cases held
  | e :: rest, held => by
      by_cases first : e.1 == k
      · have key : e.1 = k := beq_iff_eq.mp first
        simp only [lookup, first, if_true, Option.some.injEq] at held
        simp only [store, first, if_true]
        rw [← key, ← held]
      · simp only [lookup, first, Bool.false_eq_true, if_false] at held
        simp only [store, first, Bool.false_eq_true, if_false, store_of_lookup_eq held]

/-- After a sequence of stores, a key keeps its value or holds one that was stored under it. -/
theorem get?_foldl_insert (k : κ) :
    ∀ (stores : List (κ × α)) (m : OrderedMap κ α),
      (stores.foldl (fun m e => m.insert e.1 e.2) m).get? k = m.get? k ∨
        ∃ v, (k, v) ∈ stores ∧ (stores.foldl (fun m e => m.insert e.1 e.2) m).get? k = some v
  | [], _ => .inl rfl
  | e :: rest, m => by
      simp only [List.foldl_cons, List.mem_cons]
      rcases get?_foldl_insert k rest (m.insert e.1 e.2) with kept | ⟨v, member, stored⟩
      · by_cases same : e.1 = k
        · subst same
          exact .inr ⟨e.2, .inl rfl, by rw [kept, get?_insert_self]⟩
        · exact .inl (by rw [kept, get?_insert_of_ne _ _ same])
      · exact .inr ⟨v, .inr member, stored⟩

/-- Storing the value a key already has changes nothing. -/
theorem insert_of_get?_eq {m : OrderedMap κ α} {k : κ} {v : α} (held : m.get? k = some v) :
    m.insert k v = m := by
  cases m with
  | mk entries => exact congrArg mk (store_of_lookup_eq held)

end OrderedMap

namespace Graph

variable {g : Graph}

theorem output?_of_resolveOutput {id : OutputId} {o : OutputPort}
    (resolved : g.resolveOutput id = .ok o) : g.output? id = some o := by
  unfold resolveOutput at resolved
  split at resolved
  · next found => rw [found, Except.ok.inj resolved]
  · cases resolved

/-- The value a read of an output pulls from the output's owner: a variable offers its
symbol's value on its read port, and no other node offers anything. -/
def pulled? (g : Graph) (symbols : OrderedMap String Value) (source : OutputId) : Option Value :=
  (g.output? source).bind fun o => (g.node? o.node).bind fun owner => owner.offered symbols source

/-- An output offers a value exactly when it is the read port of the variable that owns it and
the variable's symbol has that value. -/
theorem pulled?_eq_some {symbols : OrderedMap String Value} {source : OutputId} {v : Value} :
    g.pulled? symbols source = some v ↔
      ∃ o owner symbol write enter exit, g.output? source = some o ∧ g.node? o.node = some owner ∧
        owner.kind = .var symbol write source enter exit ∧ symbols.get? symbol = some v := by
  constructor
  · intro pulled
    simp only [pulled?, Option.bind_eq_some_iff] at pulled
    obtain ⟨o, output, owner, node, offered⟩ := pulled
    obtain ⟨symbol, write, enter, exit, kind, value⟩ := Node.offered_eq_some offered
    exact ⟨o, owner, symbol, write, enter, exit, output, node, kind, value⟩
  · rintro ⟨o, owner, symbol, write, enter, exit, output, node, kind, value⟩
    simp only [pulled?, output, node, Option.bind_some, Node.offered, kind, if_pos, value]

/-- How reading changes a context: the stack and the symbol table stay, and the port log
changes by storing, one after another, values that outputs offer under these symbols. -/
structure Pulls (g : Graph) (before after : Context) : Prop where
  stack : after.stack = before.stack
  symbols : after.symbols = before.symbols
  ports : ∃ stores : List (OutputId × Value),
    after.ports = stores.foldl (fun m e => m.insert e.1 e.2) before.ports ∧
      ∀ e ∈ stores, g.pulled? before.symbols e.1 = some e.2

/-- What a second run needs of the context it starts from, given the context `c` the first
run left: the same symbols, the same log entries at outputs that offer nothing, and the
offered values that `c` already holds. -/
structure Covers (g : Graph) (c c' : Context) : Prop where
  symbols : c'.symbols = c.symbols
  quiet : ∀ o, g.pulled? c.symbols o = none → c'.ports.get? o = c.ports.get? o
  held : ∀ o v, g.pulled? c.symbols o = some v → c.ports.get? o = some v → c'.ports.get? o = some v

variable {ctx ctx' ctx'' : Context}

namespace Pulls

theorem refl (ctx : Context) : g.Pulls ctx ctx :=
  ⟨rfl, rfl, [], rfl, fun _ member => by cases member⟩

theorem trans (first : g.Pulls ctx ctx') (second : g.Pulls ctx' ctx'') : g.Pulls ctx ctx'' := by
  obtain ⟨stores, ports, offered⟩ := first.ports
  obtain ⟨stores', ports', offered'⟩ := second.ports
  refine ⟨second.stack.trans first.stack, second.symbols.trans first.symbols,
    stores ++ stores', ?_, ?_⟩
  · rw [ports', ports, List.foldl_append]
  · intro e member
    rcases List.mem_append.mp member with earlier | later
    · exact offered e earlier
    · rw [← first.symbols]
      exact offered' e later

/-- After pulls, each output holds its old log entry or the value it offers. -/
theorem get? (pulls : g.Pulls ctx ctx') (o : OutputId) :
    ctx'.ports.get? o = ctx.ports.get? o ∨
      ∃ v, g.pulled? ctx.symbols o = some v ∧ ctx'.ports.get? o = some v := by
  obtain ⟨stores, ports, offered⟩ := pulls.ports
  rw [ports]
  rcases OrderedMap.get?_foldl_insert o stores ctx.ports with kept | ⟨v, member, stored⟩
  · exact .inl kept
  · exact .inr ⟨v, offered (o, v) member, stored⟩

/-- Logging the value an output offers is a pull. -/
theorem logPort {source : OutputId} {v : Value} (offered : g.pulled? ctx.symbols source = some v) :
    g.Pulls ctx (ctx.logPort source v) :=
  ⟨rfl, rfl, [(source, v)], rfl, by simpa using offered⟩

end Pulls

instance : Std.Refl g.Pulls := ⟨Pulls.refl⟩

instance : IsTrans Context g.Pulls := ⟨fun _ _ _ => Pulls.trans⟩

namespace Covers

theorem refl (ctx : Context) : g.Covers ctx ctx :=
  ⟨rfl, fun _ _ => rfl, fun _ _ _ held => held⟩

/-- A context that covers the end of some pulls covers their start. -/
theorem of_pulls (pulls : g.Pulls ctx ctx') (covers : g.Covers ctx' ctx'') : g.Covers ctx ctx'' := by
  have symbols : ctx'.symbols = ctx.symbols := pulls.symbols
  refine ⟨covers.symbols.trans symbols, fun o quiet => ?_, fun o v offered held => ?_⟩
  · rw [covers.quiet o (symbols ▸ quiet)]
    rcases pulls.get? o with kept | ⟨v, offered, _⟩
    · exact kept
    · rw [quiet] at offered
      cases offered
  · refine covers.held o v (symbols ▸ offered) ?_
    rcases pulls.get? o with kept | ⟨v', offered', stored⟩
    · rw [kept, held]
    · rw [stored, ← offered', offered]

end Covers

end Graph

namespace FlowM

variable {α β : Type} {g : Graph}

/-- A computation that changes a context only by pulls, and that, run again from any context
covering the one it left, returns the same and leaves that context as it is. -/
structure Rereads (g : Graph) (m : FlowM α) : Prop where
  within : Within g.Pulls m
  again : ∀ ctx ctx', g.Covers (m.run.run ctx).2 ctx' →
    m.run.run ctx' = ((m.run.run ctx).1, ctx')

theorem rereads_pure (a : α) : Rereads g (pure a : FlowM α) :=
  ⟨within_pure a, fun _ _ _ => rfl⟩

theorem rereads_throw (e : Fault) : Rereads g (throw e : FlowM α) :=
  ⟨within_throw e, fun _ _ _ => rfl⟩

theorem rereads_lift (x : Except Fault α) : Rereads g (lift x) := by
  cases x with
  | ok a => exact rereads_pure a
  | error e => exact rereads_throw e

/-- Sequencing keeps rereading: the second run of the first computation starts from a context
that covers its first end, since what follows only pulls. -/
theorem Rereads.bind {x : FlowM α} {f : α → FlowM β} (first : Rereads g x)
    (rest : ∀ a, Rereads g (f a)) : Rereads g (x >>= f) := by
  refine ⟨first.within.bind fun a => (rest a).within, fun ctx ctx' covers => ?_⟩
  have again := first.again ctx ctx'
  cases ran : x.run.run ctx with
  | mk r c =>
      rw [ran] at again
      simp only [run_bind, ran] at covers ⊢
      cases r with
      | error e => rw [again covers]
      | ok a =>
          simp only at covers ⊢
          rw [again (covers.of_pulls ((rest a).within c))]
          exact (rest a).again c ctx' covers

/-- A computation that rereads changes a context only by pulls, and run again right afterwards
it gives the same result and leaves the context as it is. -/
theorem Rereads.repeats {m : FlowM α} (rereads : Rereads g m) (ctx : Context) :
    g.Pulls ctx (m.run.run ctx).2 ∧ m.run.run (m.run.run ctx).2 = m.run.run ctx :=
  ⟨rereads.within ctx, rereads.again ctx _ (Graph.Covers.refl _)⟩

/-- A look-up that does not touch the context, followed by computations that reread. -/
theorem rereads_lift_bind {x : Except Fault α} {f : α → FlowM β}
    (rest : ∀ a, x = .ok a → Rereads g (f a)) : Rereads g (lift x >>= f) := by
  cases x with
  | ok a => exact rest a rfl
  | error e => exact rereads_throw e

end FlowM

open FlowM

namespace Flow

variable {g : Graph}

/-- Reading an input rereads. When the owner of its output offers a value, the second read
offers the same one, which the covering context already holds; when it offers nothing, the
covering context has the same log entry. -/
theorem input_rereads (port : InputId) : Rereads g (input g port) := by
  unfold input
  refine rereads_lift_bind fun p _ => ?_
  cases p.target with
  | none =>
      cases p.default with
      | some v => exact rereads_pure _
      | none => exact rereads_throw _
  | some source =>
      refine rereads_lift_bind fun o output => ?_
      refine rereads_lift_bind fun owner node => ?_
      have pulled : ∀ symbols, g.pulled? symbols source = owner.offered symbols source := by
        intro symbols
        simp only [Graph.pulled?, Graph.output?_of_resolveOutput output,
          Graph.node?_of_resolveNode node, Option.bind_some]
      refine ⟨fun ctx => ?_, fun ctx ctx' => ?_⟩
      · simp only [run_bind, run_get]
        cases offered : owner.offered ctx.symbols source with
        | some v => exact Graph.Pulls.logPort ((pulled _).trans offered)
        | none => exact Graph.Pulls.refl ctx
      · intro covers
        simp only [run_bind, run_get] at covers ⊢
        cases offered : owner.offered ctx.symbols source with
        | some v =>
            simp only [offered, run_bind, run_set, run_pure] at covers
            have logged : (ctx.logPort source v).ports.get? source = some v := by
              simp [Context.logPort]
            have held := covers.held source v ((pulled _).trans offered) logged
            have same : ctx'.symbols = ctx.symbols := covers.symbols
            rw [same, offered]
            simp only [run_bind, run_set, run_pure, Context.logPort,
              OrderedMap.insert_of_get?_eq held]
        | none =>
            simp only [offered, run_pure] at covers
            have quiet := covers.quiet source ((pulled _).trans offered)
            have same : ctx'.symbols = ctx.symbols := covers.symbols
            rw [same, offered]
            simp only [run_pure, quiet]

end Flow

namespace Expr

variable {s : Scope} {inputs : List (String × InputId)}

mutual

/-- Evaluating an expression rereads: it is reads, failures and results in sequence. -/
theorem evaluate_rereads : ∀ e : Expr, Rereads s.graph (e.evaluate s inputs)
  | .const v => rereads_pure v
  | .input symbol => by
      simp only [evaluate]
      split
      · exact rereads_throw _
      · next port _ =>
          refine (Flow.input_rereads port).bind fun v => ?_
          cases v with
          | some v => exact rereads_pure v
          | none => exact rereads_throw _
  | .unary _ none => by
      simp only [evaluate]
      exact rereads_throw _
  | .unary op (some e) => by
      simp only [evaluate]
      exact (evaluate_rereads e).bind fun v => rereads_lift (op.apply v)
  | .binary op (some l) (some r) => by
      simp only [evaluate]
      exact (evaluate_rereads l).bind fun a =>
        (evaluate_rereads r).bind fun b => rereads_lift (op.apply a b)
  | .binary _ none _ | .binary _ (some _) none => by
      simp only [evaluate]
      exact rereads_throw _
  | .call symbol args => by
      simp only [evaluate]
      exact (evaluateAll_rereads args).bind fun vs => rereads_lift (s.builtins.call symbol vs)

theorem evaluateAll_rereads : ∀ es : List Expr, Rereads s.graph (evaluateAll s inputs es)
  | [] => rereads_pure []
  | e :: rest => by
      simp only [evaluateAll]
      exact (evaluate_rereads e).bind fun v =>
        (evaluateAll_rereads rest).bind fun vs => rereads_pure (v :: vs)

end

end Expr

/-- Evaluating an expression, and reading an input, change a context only by pulls: the stack
and the symbol table stay, and the port log only stores, at the read ports of variables, the
current values of their symbols (`Graph.pulled?_eq_some`). Run again right afterwards, each
gives the same value or the same failure and leaves the context as it is. -/
theorem evaluate_pulls_and_repeats (s : Scope) (inputs : List (String × InputId)) (e : Expr)
    (port : InputId) (ctx : Context) :
    (s.graph.Pulls ctx ((e.evaluate s inputs).run.run ctx).2 ∧
      (e.evaluate s inputs).run.run ((e.evaluate s inputs).run.run ctx).2 =
        (e.evaluate s inputs).run.run ctx) ∧
    (s.graph.Pulls ctx ((Flow.input s.graph port).run.run ctx).2 ∧
      (Flow.input s.graph port).run.run ((Flow.input s.graph port).run.run ctx).2 =
        (Flow.input s.graph port).run.run ctx) :=
  ⟨(Expr.evaluate_rereads e).repeats ctx, (Flow.input_rereads port).repeats ctx⟩

end Blueprint
