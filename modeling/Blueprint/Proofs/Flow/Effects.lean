import Blueprint.Proofs.Flow.Runs

/-!
# What running a node does to a context

`FlowM.Spec` is a weakest precondition for `FlowM` that, unlike `FlowM.Clean`, also speaks of
the context a failure leaves: the snapshot of a failed call is that context, so a property of
every context a call passes through must hold there too. `FlowM.Within` says that every run of
a computation, ending in a value or a failure, changes the context only as a relation allows.

The relation here is `Graph.NodeEffect`: running a node adds or removes no frame and changes no
frame's node, loses no symbol, and gives a variable's read port a value only when the
variable's symbol has one (`Graph.DataFlow`). Every part of executing and resuming a node of a
well-formed graph stays within it, on every path. Steps move frames, but they too keep to
`Graph.DataFlow`, and the node a step hands control to is a node of the graph
(`Control.Owned`).
-/

namespace Blueprint

namespace FlowM

variable {α β : Type} {ctx : Context}

/-- Run from `ctx`, the computation returns a value that satisfies `ok` with the context it
leaves, or fails with a fault that satisfies `err` with the context it leaves. -/
def Spec (m : FlowM α) (ctx : Context) (ok : α → Context → Prop)
    (err : Fault → Context → Prop) : Prop :=
  match m.run.run ctx with
  | (.ok a, after) => ok a after
  | (.error e, after) => err e after

section Rules

variable {ok : α → Context → Prop} {err : Fault → Context → Prop}

@[simp] theorem spec_pure (a : α) : Spec (pure a) ctx ok err ↔ ok a ctx := Iff.rfl

@[simp] theorem spec_throw (e : Fault) : Spec (throw e : FlowM α) ctx ok err ↔ err e ctx :=
  Iff.rfl

@[simp] theorem spec_get {ok : Context → Context → Prop} : Spec get ctx ok err ↔ ok ctx ctx :=
  Iff.rfl

@[simp] theorem spec_set (c : Context) {ok : PUnit → Context → Prop} :
    Spec (set c) ctx ok err ↔ ok () c := Iff.rfl

@[simp] theorem spec_modify (f : Context → Context) {ok : PUnit → Context → Prop} :
    Spec (modify f) ctx ok err ↔ ok () (f ctx) := Iff.rfl

@[simp] theorem spec_lift_ok (a : α) : Spec (lift (.ok a)) ctx ok err ↔ ok a ctx := Iff.rfl

@[simp] theorem spec_lift_error (e : Fault) :
    Spec (lift (.error e) : FlowM α) ctx ok err ↔ err e ctx := Iff.rfl

@[simp] theorem spec_bind (x : FlowM α) (f : α → FlowM β) {ok : β → Context → Prop} :
    Spec (x >>= f) ctx ok err ↔ Spec x ctx (fun a c => Spec (f a) c ok err) err := by
  unfold Spec
  rw [run_bind]
  rcases x.run.run ctx with ⟨_ | a, c⟩ <;> rfl

theorem spec_of_run_ok {m : FlowM α} {a : α} {after : Context}
    (ran : m.run.run ctx = (.ok a, after)) : Spec m ctx ok err ↔ ok a after := by
  unfold Spec
  rw [ran]

theorem spec_of_run_error {m : FlowM α} {e : Fault} {after : Context}
    (ran : m.run.run ctx = (.error e, after)) : Spec m ctx ok err ↔ err e after := by
  unfold Spec
  rw [ran]

theorem Spec.mono {m : FlowM α} {ok' : α → Context → Prop} {err' : Fault → Context → Prop}
    (spec : Spec m ctx ok err) (okWeaker : ∀ a c, ok a c → ok' a c)
    (errWeaker : ∀ e c, err e c → err' e c) : Spec m ctx ok' err' := by
  unfold Spec at spec ⊢
  revert spec
  rcases m.run.run ctx with ⟨e | a, c⟩
  · exact errWeaker e c
  · exact okWeaker a c

/-- A specification whose two conditions are one condition on the context left holds of that
context. -/
theorem Spec.after {m : FlowM α} {P : Context → Prop}
    (spec : Spec m ctx (fun _ c => P c) (fun _ c => P c)) : P (m.run.run ctx).2 := by
  unfold Spec at spec
  revert spec
  rcases m.run.run ctx with ⟨e | a, c⟩ <;> exact id

end Rules

/-- Every run of `m`, whether it returns or fails, leaves a context that `R` relates to the one
it started from. -/
def Within (R : Context → Context → Prop) (m : FlowM α) : Prop :=
  ∀ ctx, R ctx (m.run.run ctx).2

section Within

variable {R : Context → Context → Prop}

theorem Within.spec {m : FlowM α} (within : Within R m) (ctx : Context) :
    Spec m ctx (fun _ c => R ctx c) (fun _ c => R ctx c) := by
  have moved := within ctx
  unfold Spec
  revert moved
  rcases m.run.run ctx with ⟨e | a, c⟩ <;> exact id

theorem within_of_spec {m : FlowM α}
    (spec : ∀ ctx, Spec m ctx (fun _ c => R ctx c) (fun _ c => R ctx c)) : Within R m :=
  fun ctx => (spec ctx).after

theorem within_modify {f : Context → Context} (moves : ∀ c, R c (f c)) : Within R (modify f) :=
  moves

/-- A computation that changes the context as `R` allows, followed by ones that do, is one that
does. -/
theorem Within.bind [IsTrans Context R] {x : FlowM α} {f : α → FlowM β} (first : Within R x)
    (rest : ∀ a, Within R (f a)) : Within R (x >>= f) := by
  refine within_of_spec fun ctx => ?_
  rw [spec_bind]
  refine (first.spec ctx).mono (fun a c moved => ?_) (fun _ _ moved => moved)
  exact ((rest a).spec c).mono (fun _ _ next => trans_of R moved next)
    (fun _ _ next => trans_of R moved next)

variable [Std.Refl R]

theorem within_pure (a : α) : Within R (pure a : FlowM α) := fun ctx => refl_of R ctx

theorem within_throw (e : Fault) : Within R (throw e : FlowM α) := fun ctx => refl_of R ctx

/-- What follows a failure never runs. -/
theorem within_throw_bind (e : Fault) (f : α → FlowM β) : Within R (throw e >>= f) :=
  fun ctx => refl_of R ctx

theorem within_lift (x : Except Fault α) : Within R (lift x) := by
  intro ctx
  cases x with
  | ok a => exact refl_of R ctx
  | error e => exact refl_of R ctx

/-- A look-up that does not touch the context, followed by computations that stay within `R`
for what it finds. -/
theorem within_lift_bind {x : Except Fault α} {f : α → FlowM β}
    (rest : ∀ a, x = .ok a → Within R (f a)) : Within R (lift x >>= f) := by
  intro ctx
  cases x with
  | ok a => exact rest a rfl ctx
  | error e => exact refl_of R ctx

end Within

end FlowM

open FlowM

namespace OrderedMap

variable {κ α : Type} [BEq κ] [LawfulBEq κ]

/-- Storing a value loses no key. -/
theorem isSome_get?_insert {m : OrderedMap κ α} {k k' : κ} (v : α)
    (present : (m.get? k').isSome) : ((m.insert k v).get? k').isSome := by
  by_cases same : k = k'
  · rw [same, get?_insert_self]
    rfl
  · rw [get?_insert_of_ne m v same]
    exact present

end OrderedMap

namespace Graph

/-- A variable node of the graph, by its symbol and its read port. -/
def VarRead (g : Graph) (symbol : String) (read : OutputId) : Prop :=
  ∃ m n write enter exit, g.node? m = some n ∧ n.kind = .var symbol write read enter exit

/-- How data flow may change a context: no symbol loses its value, and a variable's read port
gets a value only when the variable's symbol has one. -/
structure DataFlow (g : Graph) (before after : Context) : Prop where
  symbols : ∀ symbol, (before.symbols.get? symbol).isSome → (after.symbols.get? symbol).isSome
  reads : ∀ {symbol read}, g.VarRead symbol read → (after.ports.get? read).isSome →
    (before.ports.get? read).isSome ∨ (after.symbols.get? symbol).isSome

/-- What running a node may do to a context: change it as data flow does, and leave every frame
on its node, so that frames are at most marked, never added or removed. -/
structure NodeEffect (g : Graph) (before after : Context) : Prop where
  flow : g.DataFlow before after
  frames : after.stack.map (·.node) = before.stack.map (·.node)

variable {g : Graph} {ctx ctx' ctx'' : Context}

namespace DataFlow

theorem refl (ctx : Context) : g.DataFlow ctx ctx :=
  ⟨fun _ present => present, fun _ logged => .inl logged⟩

theorem trans (first : g.DataFlow ctx ctx') (second : g.DataFlow ctx' ctx'') :
    g.DataFlow ctx ctx'' := by
  constructor
  · intro symbol present
    exact second.symbols symbol (first.symbols symbol present)
  · intro symbol read isVar logged
    rcases second.reads isVar logged with earlier | defined
    · rcases first.reads isVar earlier with earliest | definedBefore
      · exact .inl earliest
      · exact .inr (second.symbols symbol definedBefore)
    · exact .inr defined

/-- A change that keeps the port log and the symbol table is data flow, whatever it does to
the stack. -/
theorem of_data (ports : ctx'.ports = ctx.ports) (symbols : ctx'.symbols = ctx.symbols) :
    g.DataFlow ctx ctx' := by
  constructor
  · intro symbol present
    rw [symbols]
    exact present
  · intro symbol read _ logged
    rw [ports] at logged
    exact .inl logged

end DataFlow

instance : Std.Refl g.DataFlow := ⟨DataFlow.refl⟩

instance : IsTrans Context g.DataFlow := ⟨fun _ _ _ => DataFlow.trans⟩

namespace NodeEffect

theorem refl (ctx : Context) : g.NodeEffect ctx ctx :=
  ⟨.refl ctx, rfl⟩

theorem trans (first : g.NodeEffect ctx ctx') (second : g.NodeEffect ctx' ctx'') :
    g.NodeEffect ctx ctx'' :=
  ⟨first.flow.trans second.flow, second.frames.trans first.frames⟩

/-- A change of the symbol table alone in which no symbol loses its value. -/
theorem of_symbols {symbols : OrderedMap String Value}
    (kept : ∀ symbol, (ctx.symbols.get? symbol).isSome → (symbols.get? symbol).isSome) :
    g.NodeEffect ctx { ctx with symbols } := by
  refine ⟨⟨kept, ?_⟩, rfl⟩
  intro symbol read _ logged
  exact .inl logged

/-- Logging a value on a port that is no variable's read port, or one whose variable has a
value. -/
theorem logPort {port : OutputId} (v : Value)
    (legit : ∀ symbol, g.VarRead symbol port → (ctx.symbols.get? symbol).isSome) :
    g.NodeEffect ctx (ctx.logPort port v) := by
  refine ⟨⟨fun _ present => present, ?_⟩, rfl⟩
  intro symbol read isVar logged
  by_cases same : port = read
  · subst same
    exact .inr (legit symbol isVar)
  · left
    simpa only [Context.logPort, OrderedMap.get?_insert_of_ne _ v same] using logged

end NodeEffect

instance : Std.Refl g.NodeEffect := ⟨NodeEffect.refl⟩

instance : IsTrans Context g.NodeEffect := ⟨fun _ _ _ => NodeEffect.trans⟩

theorem node?_of_resolveNode {id : NodeId} {n : Node} (resolved : g.resolveNode id = .ok n) :
    g.node? id = some n := by
  unfold resolveNode at resolved
  split at resolved
  · next found => rw [found, Except.ok.inj resolved]
  · cases resolved

/-- A port that a node of a well-formed graph lists among its outputs and that is a variable's
read port is that node's: the node is the variable. -/
theorem WellFormed.varRead_of_output (wf : g.WellFormed) {symbol : String} {read : OutputId}
    {m : NodeId} {n : Node} (isVar : g.VarRead symbol read) (found : g.node? m = some n)
    (member : read ∈ n.kind.outputs) : ∃ write enter exit, n.kind = .var symbol write read enter exit := by
  obtain ⟨m', n', write, enter, exit, found', kind'⟩ := isVar
  have member' : read ∈ n'.kind.outputs := by simp [kind', NodeKind.outputs]
  have same : m = m' := wf.listed_unique (r := .output) found found' member member'
  rw [← same, found] at found'
  cases found'
  exact ⟨write, enter, exit, kind'⟩

end Graph

namespace Node

/-- A node offers a value on a port only as a variable offers its symbol's value on its read
port. -/
theorem offered_eq_some {n : Node} {symbols : OrderedMap String Value} {port : OutputId}
    {v : Value} (offered : n.offered symbols port = some v) :
    ∃ symbol write enter exit, n.kind = .var symbol write port enter exit ∧
      symbols.get? symbol = some v := by
  unfold Node.offered at offered
  split at offered
  · next symbol write read enter exit kind =>
      split at offered
      · next same =>
          subst same
          exact ⟨symbol, write, enter, exit, kind, offered⟩
      · cases offered
  · cases offered

/-- Delivering a value to a node loses no symbol. -/
theorem isSome_received (n : Node) (port : InputId) (v : Value)
    {symbols : OrderedMap String Value} {symbol : String} (present : (symbols.get? symbol).isSome) :
    ((n.received port v symbols).get? symbol).isSome := by
  unfold received
  split
  · split
    · exact OrderedMap.isSome_get?_insert v present
    · exact present
  · exact present

end Node

/-- A node's effect is in particular a change that data flow makes. -/
theorem FlowM.Within.flow {g : Graph} {α : Type} {m : FlowM α} (within : Within g.NodeEffect m) :
    Within g.DataFlow m :=
  fun ctx => (within ctx).flow

/-! ## Reading and sending values -/

namespace Flow

variable {g : Graph}

open Blueprint.Graph

/-- Reading an input logs at most a value that a variable offers on its own read port, from its
symbol, so it stays within a node's effect on every path. -/
theorem input_within (wf : g.WellFormed) (port : InputId) : Within g.NodeEffect (input g port) := by
  unfold input
  refine within_lift_bind fun p _ => ?_
  split
  · split
    · exact within_pure _
    · exact within_throw _
  · next source _ =>
      refine within_lift_bind fun o _ => within_lift_bind fun owner resolved => ?_
      refine within_of_spec fun ctx => ?_
      simp only [spec_bind, spec_get]
      split
      · next v offered =>
          obtain ⟨symbol, write, enter, exit, kind, value⟩ := Node.offered_eq_some offered
          have legit : ∀ s, g.VarRead s source → (ctx.symbols.get? s).isSome := by
            intro s isVar
            obtain ⟨write', enter', exit', kind'⟩ := wf.varRead_of_output isVar
              (node?_of_resolveNode resolved) (by simp [kind, NodeKind.outputs])
            rw [kind] at kind'
            cases kind'
            simp [value]
          simp only [spec_bind, spec_set, spec_pure]
          exact NodeEffect.logPort v legit
      · exact NodeEffect.refl ctx

/-- Delivering a value to inputs only stores it in variables. -/
theorem deliver_within (v : Value) : ∀ targets : List InputId, Within g.NodeEffect (deliver g v targets)
  | [] => within_pure ()
  | target :: rest => by
      unfold deliver
      refine within_lift_bind fun p _ => within_lift_bind fun n _ => ?_
      refine (within_modify fun c => ?_).bind fun _ => deliver_within v rest
      exact NodeEffect.of_symbols fun _ present => n.isSome_received target v present

/-- Sending a value on a port that is no variable's read port, or whose variable has a value,
logs it and delivers it. -/
theorem output_spec {ctx : Context} {port : OutputId} (v : Value)
    (legit : ∀ symbol, g.VarRead symbol port → (ctx.symbols.get? symbol).isSome) :
    Spec (output g port v) ctx (fun _ c => g.NodeEffect ctx c) (fun _ c => g.NodeEffect ctx c) := by
  unfold output
  simp only [spec_bind]
  cases resolved : g.resolveOutput port with
  | error e => exact NodeEffect.refl ctx
  | ok o =>
      simp only [spec_lift_ok, spec_modify]
      refine ((deliver_within v o.targets).spec _).mono (fun _ c moved => ?_)
        (fun _ c moved => ?_)
      · exact (NodeEffect.logPort v legit).trans moved
      · exact (NodeEffect.logPort v legit).trans moved

/-- Sending a value on a port that no variable reads from. -/
theorem output_within {port : OutputId} (notVar : ∀ symbol, ¬ g.VarRead symbol port) (v : Value) :
    Within g.NodeEffect (output g port v) :=
  within_of_spec fun _ => output_spec v fun symbol isVar => absurd isVar (notVar symbol)

section Reads

variable (wf : g.WellFormed) (port : InputId)
include wf

theorem readCondition_within : Within g.NodeEffect (readCondition g port) := by
  unfold readCondition
  refine (input_within wf port).bind fun v => ?_
  rcases v with _ | (_ | _ | _ | _ | _)
  · exact within_pure false
  · exact within_pure _
  all_goals exact within_throw _

theorem readRequired_within : Within g.NodeEffect (readRequired g port) := by
  unfold readRequired
  refine (input_within wf port).bind fun v => ?_
  cases v with
  | some v => exact within_pure v
  | none => exact within_throw _

theorem readNumber_within : Within g.NodeEffect (readNumber g port) := by
  unfold readNumber
  refine (readRequired_within wf port).bind fun v => ?_
  cases v with
  | number x => exact within_pure x
  | bool _ | text _ | array _ | entity _ => exact within_throw _

end Reads

end Flow

namespace Expr

variable {s : Scope} {inputs : List (String × InputId)}

mutual

/-- Evaluating an expression reads inputs and calls functions, which stays within a node's
effect. -/
theorem evaluate_within (wf : s.graph.WellFormed) :
    ∀ e : Expr, Within s.graph.NodeEffect (e.evaluate s inputs)
  | .const v => within_pure v
  | .input symbol => by
      simp only [evaluate]
      split
      · exact within_throw _
      · next port _ =>
          refine (Flow.input_within wf port).bind fun v => ?_
          cases v with
          | some v => exact within_pure v
          | none => exact within_throw _
  | .unary _ none => by
      simp only [evaluate]
      exact within_throw _
  | .unary op (some e) => by
      simp only [evaluate]
      exact (evaluate_within wf e).bind fun v => within_lift (op.apply v)
  | .binary op (some l) (some r) => by
      simp only [evaluate]
      exact (evaluate_within wf l).bind fun a =>
        (evaluate_within wf r).bind fun b => within_lift (op.apply a b)
  | .binary _ none _ | .binary _ (some _) none => by
      simp only [evaluate]
      exact within_throw _
  | .call symbol args => by
      simp only [evaluate]
      exact (evaluateAll_within wf args).bind fun vs => within_lift (s.builtins.call symbol vs)

theorem evaluateAll_within (wf : s.graph.WellFormed) :
    ∀ es : List Expr, Within s.graph.NodeEffect (evaluateAll s inputs es)
  | [] => within_pure []
  | e :: rest => by
      simp only [evaluateAll]
      exact (evaluate_within wf e).bind fun v =>
        (evaluateAll_within wf rest).bind fun vs => within_pure (v :: vs)

end

end Expr

/-! ## Executing and resuming nodes -/

namespace Graph.WellFormed

variable {g : Graph}

/-- A port that a node other than a variable lists among its outputs is no variable's read
port. -/
theorem not_varRead (wf : g.WellFormed) {m : NodeId} {n : Node} {port : OutputId}
    (found : g.node? m = some n) (member : port ∈ n.kind.outputs)
    (notVar : ∀ symbol write read enter exit, n.kind ≠ .var symbol write read enter exit)
    (symbol : String) : ¬ g.VarRead symbol port := by
  intro isVar
  obtain ⟨write, enter, exit, kind⟩ := wf.varRead_of_output isVar found member
  exact notVar symbol write port enter exit kind

end Graph.WellFormed

namespace Flow

variable {g : Graph}

open Blueprint.Graph

/-- What a variable node sends goes out on its read port, which is legit when the value sent
is the symbol's; with nothing to send it only looks the port up. -/
theorem executeVar_emit_spec {symbol : String} {read : OutputId} {exit : ExitId}
    {emitted : Option Value} {ctx : Context}
    (legit : ∀ v, emitted = some v → ∀ s, g.VarRead s read → (ctx.symbols.get? s).isSome) :
    Spec (match emitted with
      | some v => do output g read v; pure (Continuation.exit exit)
      | none => do
        let r ← lift (g.resolveOutput read)
        if (!r.targets.isEmpty) = true then do
          throw (Fault.variableEmpty symbol)
          pure (Continuation.exit exit)
        else pure (Continuation.exit exit)) ctx
      (fun _ c => g.NodeEffect ctx c) (fun _ c => g.NodeEffect ctx c) := by
  cases emitted with
  | some v =>
      simp only [spec_bind, spec_pure]
      exact (output_spec v (legit v rfl)).mono (fun _ _ moved => moved) (fun _ _ moved => moved)
  | none =>
      exact (within_lift_bind (R := g.NodeEffect) fun r _ => by
        split
        · exact within_throw_bind _ _
        · exact within_pure _).spec ctx

/-- A variable node stores what it reads and sends its symbol's value on its read port, which
no other node sends on. -/
theorem executeVar_within (wf : g.WellFormed) {m : NodeId} {n : Node} {symbol : String}
    {write : InputId} {read : OutputId} {enter : EnterId} {exit : ExitId}
    (found : g.node? m = some n) (kind : n.kind = .var symbol write read enter exit) :
    Within g.NodeEffect (Node.executeVar g symbol write read exit) := by
  -- the read port is this variable's alone, so sending on it is legit once the symbol has a value
  have legit : ∀ c : Context, (c.symbols.get? symbol).isSome →
      ∀ s, g.VarRead s read → (c.symbols.get? s).isSome := by
    intro c defined s isVar
    obtain ⟨_, _, _, kind'⟩ := wf.varRead_of_output isVar found (by simp [kind, NodeKind.outputs])
    rw [kind] at kind'
    cases kind'
    exact defined
  -- with nothing written, the value sent is the symbol's own
  have kept : ∀ c : Context, Spec (do
      let current ← get
      let emitted ← pure (current.symbols.get? symbol)
      match emitted with
      | some v => do output g read v; pure (Continuation.exit exit)
      | none => do
        let r ← lift (g.resolveOutput read)
        if (!r.targets.isEmpty) = true then do
          throw (Fault.variableEmpty symbol)
          pure (Continuation.exit exit)
        else pure (Continuation.exit exit)) c
      (fun _ c' => g.NodeEffect c c') (fun _ c' => g.NodeEffect c c') := by
    intro c
    simp only [spec_bind, spec_get, spec_pure]
    refine executeVar_emit_spec fun v current => legit c ?_
    rw [current]
    rfl
  refine within_of_spec fun ctx => ?_
  unfold Node.executeVar
  simp only [spec_bind]
  cases resolved : g.resolveInput write with
  | error e => exact NodeEffect.refl ctx
  | ok w =>
      simp only [spec_lift_ok]
      split
      · rw [spec_bind]
        refine ((input_within wf write).spec ctx).mono (fun written c moved => ?_)
          (fun _ _ moved => moved)
        cases written with
        | some v =>
            simp only [spec_bind, spec_modify, spec_pure]
            have stored : g.NodeEffect c (c.store symbol v) :=
              NodeEffect.of_symbols fun _ present => OrderedMap.isSome_get?_insert v present
            have defined : ((c.store symbol v).symbols.get? symbol).isSome := by
              simp [Context.store]
            exact (output_spec v (legit _ defined)).mono
              (fun _ _ sent => moved.trans (stored.trans sent))
              (fun _ _ sent => moved.trans (stored.trans sent))
        | none =>
            exact (kept c).mono (fun _ _ sent => moved.trans sent) (fun _ _ sent => moved.trans sent)
      · simp only [spec_bind, spec_pure]
        exact kept ctx

/-- Marking a break changes at most the state of the top frame. -/
theorem markBreak_within (id : NodeId) : Within g.NodeEffect (markBreak id) := by
  refine within_of_spec fun ctx => ?_
  simp only [markBreak, spec_bind, spec_get]
  split
  · next f rest stack =>
      split
      · split
        · simp only [spec_bind, spec_set, spec_pure]
          exact ⟨.of_data rfl rfl, by simp [stack]⟩
        · exact NodeEffect.refl ctx
      · exact NodeEffect.refl ctx
  · exact NodeEffect.refl ctx

theorem breakLoop_within (id : NodeId) : Within g.NodeEffect (breakLoop id) := by
  unfold breakLoop
  refine (markBreak_within id).bind fun marked => ?_
  cases marked with
  | true => exact within_pure _
  | false => exact within_throw _

section Nodes

variable (wf : g.WellFormed) {m : NodeId} {n : Node} (found : g.node? m = some n)
include wf found

/-- An output of a node that is no variable is no variable's read port. -/
theorem output_within_of_mem {port : OutputId} (member : port ∈ n.kind.outputs)
    (notVar : ∀ symbol write read enter exit, n.kind ≠ .var symbol write read enter exit)
    (v : Value) : Within g.NodeEffect (output g port v) :=
  output_within (wf.not_varRead found member notVar) v

theorem enterFor_within {start stop step : InputId} {index : OutputId} {loop : LoopPorts}
    (kind : n.kind = .forLoop start stop step index loop) :
    Within g.NodeEffect (Node.enterFor g n.id start stop step index loop) := by
  have sends : ∀ v, Within g.NodeEffect (output g index v) :=
    output_within_of_mem wf found (by simp [kind, NodeKind.outputs]) (by
      intro _ _ _ _ _ same
      rw [kind] at same
      cases same)
  unfold Node.enterFor
  refine (readNumber_within wf start).bind fun first => ?_
  refine (readNumber_within wf stop).bind fun last => ?_
  refine (readNumber_within wf step).bind fun increment => ?_
  dsimp only
  split
  · exact within_throw_bind _ _
  · split
    · exact within_pure _
    · exact (sends _).bind fun _ => within_pure _

theorem enterForOf_within {array : InputId} {item : OutputId} {loop : LoopPorts}
    (kind : n.kind = .forOfLoop array item loop) :
    Within g.NodeEffect (Node.enterForOf g n.id array item loop) := by
  have sends : ∀ v, Within g.NodeEffect (output g item v) :=
    output_within_of_mem wf found (by simp [kind, NodeKind.outputs]) (by
      intro _ _ _ _ _ same
      rw [kind] at same
      cases same)
  unfold Node.enterForOf
  refine (readRequired_within wf array).bind fun v => ?_
  split
  · split
    · exact within_pure _
    · exact (sends _).bind fun _ => within_pure _
  · exact within_throw _

end Nodes

section Scoped

variable {s : Scope} (wf : s.graph.WellFormed) {m : NodeId} {n : Node}
  (found : s.graph.node? m = some n)
include wf found

/-- Executing a node of the graph through any port stays within a node's effect, on every
path. -/
theorem execute_within (port : EnterId) : Within s.graph.NodeEffect (n.execute s port) := by
  have notVar : ∀ {k : NodeKind}, n.kind = k → (∀ symbol write read enter exit,
      k ≠ .var symbol write read enter exit) →
      ∀ symbol write read enter exit, n.kind ≠ .var symbol write read enter exit := by
    intro k kind other symbol write read enter exit same
    exact other symbol write read enter exit (kind.symm.trans same)
  unfold Node.execute
  cases kind : n.kind with
  | var symbol write read enter exit => exact executeVar_within wf found kind
  | branch condition enter whenTrue whenFalse =>
      dsimp only
      refine (readCondition_within wf condition).bind fun go => ?_
      cases go with
      | true => exact within_pure _
      | false => exact within_pure _
  | whileLoop condition loop =>
      dsimp only
      split
      · refine (readCondition_within wf condition).bind fun go => ?_
        cases go with
        | true => exact within_pure _
        | false => exact within_pure _
      · split
        · exact breakLoop_within n.id
        · exact within_throw _
  | forLoop start stop step index loop =>
      dsimp only
      split
      · exact breakLoop_within n.id
      · split
        · exact within_throw _
        · exact enterFor_within wf found kind
  | forOfLoop array item loop =>
      dsimp only
      split
      · exact breakLoop_within n.id
      · split
        · exact within_throw _
        · exact enterForOf_within wf found kind
  | expression expr inputs ports result enter exit =>
      dsimp only
      unfold Node.executeExpression
      dsimp only
      split
      · exact within_throw_bind _ _
      · cases expr with
        | none => exact within_throw _
        | some e =>
            refine (Expr.evaluate_within wf e).bind fun v => ?_
            refine (output_within_of_mem wf found (by simp [kind, NodeKind.outputs])
              (notVar kind (by intro _ _ _ _ _ same; cases same)) v).bind fun _ => ?_
            exact within_pure _
  | entry params args exit => exact within_throw _
  | finish returnType input enter => exact within_throw _

/-- Resuming a node of the graph with any state stays within a node's effect, on every path. -/
theorem resume_within (state : FlowState) : Within s.graph.NodeEffect (n.resume s state) := by
  unfold Node.resume
  cases kind : n.kind with
  | whileLoop condition loop =>
      dsimp only
      refine within_lift_bind fun go _ => ?_
      split
      · refine (readCondition_within wf condition).bind fun again => ?_
        cases again with
        | true => exact within_pure _
        | false => exact within_pure _
      · exact within_pure _
  | forLoop start stop step index loop =>
      dsimp only
      refine within_lift_bind fun go _ => ?_
      split
      · exact within_pure _
      · split
        · split
          · refine (output_within_of_mem wf found (by simp [kind, NodeKind.outputs]) (by
              intro _ _ _ _ _ same
              rw [kind] at same
              cases same) _).bind fun _ => ?_
            exact within_pure _
          · exact within_pure _
        · exact within_throw _
  | forOfLoop array item loop =>
      dsimp only
      refine within_lift_bind fun go _ => ?_
      split
      · exact within_pure _
      · split
        · split
          · refine (output_within_of_mem wf found (by simp [kind, NodeKind.outputs]) (by
              intro _ _ _ _ _ same
              rw [kind] at same
              cases same) _).bind fun _ => ?_
            exact within_pure _
          · exact within_pure _
        · exact within_throw _
  | entry _ _ _ | finish _ _ _ | var _ _ _ _ _ | branch _ _ _ _ | expression _ _ _ _ _ _ =>
      exact within_throw _

end Scoped

/-- Reading an end node's return value only reads an input. -/
theorem returnValue_within (wf : g.WellFormed) (n : Node) : Within g.NodeEffect (n.returnValue g) := by
  unfold Node.returnValue
  split
  · next returnType port enter kind =>
      refine (input_within wf port).bind fun v => ?_
      cases v with
      | some v => exact within_pure _
      | none => exact within_throw _
  · exact within_pure none

/-! ## Steps -/

/-- Unwinding only pops frames. -/
theorem unwind_within : Within g.DataFlow unwind := by
  refine within_of_spec fun ctx => ?_
  simp only [unwind, spec_bind, spec_get]
  split
  · simp only [spec_bind, spec_set, spec_pure]
    exact .of_data rfl rfl
  · simp only [spec_bind, spec_set, spec_throw]
    exact .of_data rfl rfl

end Flow

/-- The node that control is handed back from is a node of the graph. -/
def Control.Owned (g : Graph) : Control → Prop
  | .arrive _ => True
  | .handBack n _ => g.node? n.id = some n

namespace Flow

variable {s : Scope}

open Blueprint.Graph

/-- What a step leads to: a change that data flow makes, and, if the run goes on, a control
owned by the graph. -/
def Moves (g : Graph) (ctx : Context) (r : Step) (after : Context) : Prop :=
  g.DataFlow ctx after ∧ ∀ c, r = .next c → c.Owned g

theorem moves_next {g : Graph} {ctx after : Context} {c : Control} (flow : g.DataFlow ctx after)
    (owned : c.Owned g) : Moves g ctx (.next c) after :=
  ⟨flow, fun _ same => by cases same; exact owned⟩

/-- Resuming the node of the nearest live frame hands control back from a node of the graph. -/
theorem resumeParent_spec (wf : s.graph.WellFormed) (ctx : Context) :
    Spec (resumeParent s) ctx (Moves s.graph ctx) (fun _ after => s.graph.DataFlow ctx after) := by
  unfold resumeParent
  simp only [spec_bind]
  refine ((unwind_within (g := s.graph)).spec ctx).mono (fun f c popped => ?_)
    (fun _ _ popped => popped)
  cases resolved : s.graph.resolveNode f.node with
  | error e => exact popped
  | ok n =>
      simp only [spec_lift_ok]
      have found := node?_of_resolveNode resolved
      have owned : s.graph.node? n.id = some n := by rw [wf.node_id found]; exact found
      refine ((resume_within wf found f.state).flow.spec c).mono (fun next c' resumed => ?_)
        (fun _ _ resumed => popped.trans resumed)
      exact moves_next (popped.trans resumed) owned

/-- A step from a control owned by the graph changes the context as data flow does, on every
path, and goes on to a control owned by the graph. -/
theorem step_spec (wf : s.graph.WellFormed) {c : Control} (owned : c.Owned s.graph)
    (ctx : Context) :
    Spec (step s c) ctx (Moves s.graph ctx) (fun _ after => s.graph.DataFlow ctx after) := by
  cases c with
  | arrive port =>
      simp only [step, spec_bind]
      cases enter : s.graph.resolveEnter port with
      | error e => exact .refl ctx
      | ok p =>
          simp only [spec_lift_ok]
          cases resolved : s.graph.resolveNode p.node with
          | error e => exact .refl ctx
          | ok n =>
              simp only [spec_lift_ok]
              have found := node?_of_resolveNode resolved
              have owns : s.graph.node? n.id = some n := by rw [wf.node_id found]; exact found
              split
              · rw [spec_bind]
                refine ((returnValue_within wf n).flow.spec ctx).mono (fun v c₁ read => ?_)
                  (fun _ _ read => read)
                simp only [spec_bind, spec_modify, spec_pure]
                refine ⟨read.trans (.of_data rfl rfl), fun _ never => ?_⟩
                cases never
              · rw [spec_bind]
                refine ((execute_within wf found port).flow.spec ctx).mono
                  (fun _ _ executed => moves_next executed owns) (fun _ _ executed => executed)
  | handBack n next =>
      cases next with
      | subline port state =>
          simp only [step, spec_bind]
          cases exit : s.graph.resolveExit port with
          | error e => exact .refl ctx
          | ok x =>
              simp only [spec_lift_ok]
              split
              · simp only [push, spec_bind, spec_modify, spec_pure]
                exact moves_next (.of_data rfl rfl) trivial
              · rw [spec_bind]
                exact ((resume_within wf owned state).flow.spec ctx).mono
                  (fun _ _ resumed => moves_next resumed owned) (fun _ _ resumed => resumed)
      | exit port =>
          simp only [step, spec_bind]
          cases exit : s.graph.resolveExit port with
          | error e => exact .refl ctx
          | ok x =>
              simp only [spec_lift_ok]
              split
              · next target _ =>
                  unfold transfer
                  simp only [spec_bind]
                  cases enter : s.graph.resolveEnter target with
                  | error e => exact .refl ctx
                  | ok q =>
                      simp only [spec_lift_ok, spec_get]
                      split
                      · exact .refl ctx
                      · exact moves_next (.refl ctx) trivial
              · exact resumeParent_spec wf ctx
      | interrupt => exact resumeParent_spec wf ctx

/-- Sending arguments on ports that no variable reads from. -/
theorem sendArguments_within {g : Graph} :
    ∀ {outs : List OutputId} (vs : List Value), (∀ p ∈ outs, ∀ symbol, ¬ g.VarRead symbol p) →
      Within g.NodeEffect (sendArguments g outs vs)
  | port :: ports, v :: vs, notVar => by
      rw [sendArguments]
      exact (output_within (notVar port List.mem_cons_self) v).bind fun _ =>
        sendArguments_within vs fun p member => notVar p (List.mem_cons_of_mem _ member)
  | [], _, _ => within_pure ()
  | _ :: _, [], _ => within_pure ()

/-- Preparing a call sends the arguments on the entry's outputs, which no variable reads from,
so it stays within a node's effect on every path: it touches no frame. -/
theorem prepare_effect (wf : s.graph.WellFormed) (validate : Bool) (f : FlowFunction)
    (args : List Value) : Within s.graph.NodeEffect (prepare s validate f args) := by
  unfold prepare
  refine within_lift_bind fun n resolved => ?_
  have found := node?_of_resolveNode resolved
  split
  · next params outs exit kind =>
      have notVar : ∀ p ∈ outs, ∀ symbol, ¬ s.graph.VarRead symbol p := by
        intro p member
        refine wf.not_varRead found (by rw [kind]; exact member) ?_
        intro _ _ _ _ _ same
        rw [kind] at same
        cases same
      dsimp only
      split
      · exact within_throw_bind _ _
      · -- the arguments are checked only when asked to; what follows is the same either way
        split
        on_goal 1 => refine within_lift_bind fun _ _ => ?_
        all_goals
          refine (sendArguments_within args notVar).bind fun _ =>
            within_lift_bind fun _ _ => ?_
          split
          · exact within_pure _
          · exact within_throw _
  · exact within_throw _

/-- Preparing a call changes the fresh context as data flow does, on every path. -/
theorem prepare_within (wf : s.graph.WellFormed) (validate : Bool) (f : FlowFunction)
    (args : List Value) : Within s.graph.DataFlow (prepare s validate f args) :=
  (prepare_effect wf validate f args).flow

end Flow

end Blueprint
