import Blueprint.Proofs.Flow.Effects
import Blueprint.Proofs.Graph.Branch

/-!
# Running on a larger graph

A computation of the run looks nodes and ports up in the graph by their handles. When every
handle it looks up is one of a well-formed graph `g`, it does the same on any graph `g'` that
`Graph.Extends` `g`: the look-ups find the same nodes and ports. The handles a computation looks
up are those of the ports of the node it runs, and those the ports lead to, all of them of `g`;
so reading inputs, sending values, evaluating expressions, executing and resuming nodes,
preparing a call and stepping are the same computations on `g'` as on `g`. The one exception is
the exit whose target `g'` may change: a step that leaves through it is the same only where
`g'` keeps that exit as it is.

A failure reports its frames by the names of their nodes. A stack whose frames are all opened by
nodes of `g` (`Graph.Hosts`) is reported alike on both graphs, and a step from a sound state
only ever fails over such a stack (`Flow.step_hosts`).
-/

namespace Blueprint

open FlowM

namespace Graph.Extends

variable {g g' : Graph} {body : ExitId} (ext : g.Extends g' body)
include ext

theorem resolveNode {h : NodeId} {n : Node} (found : g.node? h = some n) :
    g'.resolveNode h = g.resolveNode h := by
  rw [resolveNode_eq_ok found, resolveNode_eq_ok (ext.node found)]

theorem resolveInput {h : InputId} {p : InputPort} (found : g.input? h = some p) :
    g'.resolveInput h = g.resolveInput h := by
  rw [resolveInput_eq_ok found, resolveInput_eq_ok (ext.input found)]

theorem resolveOutput {h : OutputId} {q : OutputPort} (found : g.output? h = some q) :
    g'.resolveOutput h = g.resolveOutput h := by
  rw [resolveOutput_eq_ok found, resolveOutput_eq_ok (ext.output found)]

theorem resolveEnter {h : EnterId} {p : EnterPort} (found : g.enter? h = some p) :
    g'.resolveEnter h = g.resolveEnter h := by
  rw [resolveEnter_eq_ok found, resolveEnter_eq_ok (ext.enter found)]

theorem resolveExit {h : ExitId} {x : ExitPort} (found : g.exit? h = some x) (other : h ≠ body) :
    g'.resolveExit h = g.resolveExit h := by
  rw [resolveExit_eq_ok found, resolveExit_eq_ok (ext.exit found other)]

end Graph.Extends

namespace Flow

variable {g g' : Graph} {body : ExitId} (wf : g.WellFormed) (ext : g.Extends g' body)

/-! ## Data flow -/

section Data

include wf ext

theorem input_extends {port : InputId} {p : InputPort} (found : g.input? port = some p) :
    input g' port = input g port := by
  unfold input
  rw [ext.resolveInput found, Graph.resolveInput_eq_ok found]
  simp only [FlowM.lift, pure_bind]
  cases target : p.target with
  | none => rfl
  | some source =>
      -- a bound input names an output of the graph, whose node is one of the graph's
      obtain ⟨q, output, _⟩ := wf.input_target found target
      obtain ⟨n, node⟩ := wf.node_of_output output
      simp only [ext.resolveOutput output, Graph.resolveOutput_eq_ok output, pure_bind,
        ext.resolveNode node, Graph.resolveNode_eq_ok node]

theorem deliver_extends (v : Value) :
    ∀ {targets : List InputId}, (∀ i ∈ targets, ∃ p, g.input? i = some p) →
      deliver g' v targets = deliver g v targets
  | [], _ => rfl
  | target :: rest, exist => by
      obtain ⟨p, found⟩ := exist target List.mem_cons_self
      obtain ⟨n, node⟩ := wf.node_of_input found
      simp only [deliver, ext.resolveInput found, Graph.resolveInput_eq_ok found, FlowM.lift,
        pure_bind, ext.resolveNode node, Graph.resolveNode_eq_ok node,
        deliver_extends v fun i member => exist i (List.mem_cons_of_mem _ member)]

theorem output_extends {port : OutputId} {q : OutputPort} (found : g.output? port = some q)
    (v : Value) : output g' port v = output g port v := by
  have targets : ∀ i ∈ q.targets, ∃ p, g.input? i = some p := fun i member =>
    (wf.target_bound found member).imp fun _ => And.left
  simp only [output, ext.resolveOutput found, Graph.resolveOutput_eq_ok found, FlowM.lift,
    pure_bind, deliver_extends wf ext v targets]

variable {port : InputId} {p : InputPort} (found : g.input? port = some p)
include found

theorem readCondition_extends : readCondition g' port = readCondition g port := by
  simp only [readCondition, input_extends wf ext found]

theorem readRequired_extends : readRequired g' port = readRequired g port := by
  simp only [readRequired, input_extends wf ext found, ext.input found, found]

theorem readNumber_extends : readNumber g' port = readNumber g port := by
  simp only [readNumber, readRequired_extends wf ext found]

end Data

end Flow

namespace Expr

variable {g g' : Graph} {body : ExitId} {builtins : Registry} {inputs : List (String × InputId)}

mutual

/-- Evaluating an expression whose declared inputs are ports of the graph. -/
theorem evaluate_extends (wf : g.WellFormed) (ext : g.Extends g' body)
    (declared : ∀ entry ∈ inputs, ∃ p, g.input? entry.2 = some p) :
    ∀ e : Expr, e.evaluate ⟨g', builtins⟩ inputs = e.evaluate ⟨g, builtins⟩ inputs
  | .const _ => rfl
  | .input symbol => by
      simp only [evaluate]
      cases found : lookupInput inputs symbol with
      | none => rfl
      | some port =>
          obtain ⟨name, member⟩ := lookupInput_mem found
          obtain ⟨p, resolved⟩ := declared _ member
          simp only [Flow.input_extends wf ext resolved]
  | .unary _ none => rfl
  | .unary op (some e) => by
      simp only [evaluate, evaluate_extends wf ext declared e]
  | .binary op (some l) (some r) => by
      simp only [evaluate, evaluate_extends wf ext declared l, evaluate_extends wf ext declared r]
  | .binary _ none _ | .binary _ (some _) none => rfl
  | .call symbol args => by
      simp only [evaluate, evaluateAll_extends wf ext declared args]

theorem evaluateAll_extends (wf : g.WellFormed) (ext : g.Extends g' body)
    (declared : ∀ entry ∈ inputs, ∃ p, g.input? entry.2 = some p) :
    ∀ es : List Expr,
      evaluateAll ⟨g', builtins⟩ inputs es = evaluateAll ⟨g, builtins⟩ inputs es
  | [] => rfl
  | e :: rest => by
      simp only [evaluateAll, evaluate_extends wf ext declared e,
        evaluateAll_extends wf ext declared rest]

end

end Expr

/-! ## Nodes

A node of the graph reads and sends on its own ports only, so executing, resuming and reading
the return value of such a node is the same computation on the larger graph. -/

namespace Node

open Blueprint.Flow

variable {g g' : Graph} {body : ExitId} (wf : g.WellFormed) (ext : g.Extends g' body)
  {builtins : Registry} {m : NodeId} {n : Node} (found : g.node? m = some n)
include wf ext found

theorem executeVar_extends {symbol : String} {write : InputId} {read : OutputId}
    {enter : EnterId} {exit : ExitId} (kind : n.kind = .var symbol write read enter exit) :
    executeVar g' symbol write read exit = executeVar g symbol write read exit := by
  obtain ⟨_, written, _⟩ := wf.input_of_mem found (i := write) (by simp [kind, NodeKind.inputs])
  obtain ⟨_, sent, _⟩ := wf.output_of_mem found (o := read) (by simp [kind, NodeKind.outputs])
  simp only [executeVar, ext.resolveInput written, input_extends wf ext written,
    ext.resolveOutput sent, output_extends wf ext sent]

theorem executeExpression_extends {expr : Option Expr} {inputs : List (String × InputId)}
    {ports : List InputId} {result : OutputId} {enter : EnterId} {exit : ExitId}
    (kind : n.kind = .expression expr inputs ports result enter exit) :
    executeExpression ⟨g', builtins⟩ expr inputs result exit =
      executeExpression ⟨g, builtins⟩ expr inputs result exit := by
  have declared : ∀ entry ∈ inputs, ∃ p, g.input? entry.2 = some p := fun entry member =>
    wf.input_of_declared found (s := entry.1) (by rw [kind]; exact member)
  obtain ⟨_, sent, _⟩ := wf.output_of_mem found (o := result) (by simp [kind, NodeKind.outputs])
  simp only [executeExpression, Expr.evaluate_extends wf ext declared, output_extends wf ext sent]

theorem enterFor_extends {start stop step : InputId} {index : OutputId} {loop : LoopPorts}
    (kind : n.kind = .forLoop start stop step index loop) :
    enterFor g' n.id start stop step index loop = enterFor g n.id start stop step index loop := by
  obtain ⟨_, first, _⟩ := wf.input_of_mem found (i := start) (by simp [kind, NodeKind.inputs])
  obtain ⟨_, last, _⟩ := wf.input_of_mem found (i := stop) (by simp [kind, NodeKind.inputs])
  obtain ⟨_, increment, _⟩ :=
    wf.input_of_mem found (i := step) (by simp [kind, NodeKind.inputs])
  obtain ⟨_, sent, _⟩ := wf.output_of_mem found (o := index) (by simp [kind, NodeKind.outputs])
  simp only [enterFor, readNumber_extends wf ext first, readNumber_extends wf ext last,
    readNumber_extends wf ext increment, output_extends wf ext sent]

theorem enterForOf_extends {array : InputId} {item : OutputId} {loop : LoopPorts}
    (kind : n.kind = .forOfLoop array item loop) :
    enterForOf g' n.id array item loop = enterForOf g n.id array item loop := by
  obtain ⟨_, items, _⟩ := wf.input_of_mem found (i := array) (by simp [kind, NodeKind.inputs])
  obtain ⟨_, sent, _⟩ := wf.output_of_mem found (o := item) (by simp [kind, NodeKind.outputs])
  simp only [enterForOf, readRequired_extends wf ext items, output_extends wf ext sent]

theorem execute_extends (port : EnterId) :
    n.execute ⟨g', builtins⟩ port = n.execute ⟨g, builtins⟩ port := by
  unfold Node.execute
  cases kind : n.kind with
  | var symbol write read enter exit => exact executeVar_extends wf ext found kind
  | branch condition enter whenTrue whenFalse =>
      obtain ⟨_, read, _⟩ :=
        wf.input_of_mem found (i := condition) (by simp [kind, NodeKind.inputs])
      simp only [readCondition_extends wf ext read]
  | whileLoop condition loop =>
      obtain ⟨_, read, _⟩ :=
        wf.input_of_mem found (i := condition) (by simp [kind, NodeKind.inputs])
      simp only [readCondition_extends wf ext read]
  | forLoop start stop step index loop =>
      simp only [enterFor_extends wf ext found kind]
  | forOfLoop array item loop =>
      simp only [enterForOf_extends wf ext found kind]
  | expression expr inputs ports result enter exit => exact executeExpression_extends wf ext found kind
  | entry params args exit => rfl
  | finish returnType input enter => rfl

theorem resume_extends (state : FlowState) :
    n.resume ⟨g', builtins⟩ state = n.resume ⟨g, builtins⟩ state := by
  unfold Node.resume
  cases kind : n.kind with
  | whileLoop condition loop =>
      obtain ⟨_, read, _⟩ :=
        wf.input_of_mem found (i := condition) (by simp [kind, NodeKind.inputs])
      simp only [readCondition_extends wf ext read]
  | forLoop start stop step index loop =>
      obtain ⟨_, sent, _⟩ :=
        wf.output_of_mem found (o := index) (by simp [kind, NodeKind.outputs])
      simp only [output_extends wf ext sent]
  | forOfLoop array item loop =>
      obtain ⟨_, sent, _⟩ :=
        wf.output_of_mem found (o := item) (by simp [kind, NodeKind.outputs])
      simp only [output_extends wf ext sent]
  | entry _ _ _ | finish _ _ _ | var _ _ _ _ _ | branch _ _ _ _ | expression _ _ _ _ _ _ => rfl

theorem returnValue_extends : n.returnValue g' = n.returnValue g := by
  unfold Node.returnValue
  cases kind : n.kind with
  | finish returnType input enter =>
      cases input with
      | none => rfl
      | some port =>
          obtain ⟨_, read, _⟩ :=
        wf.input_of_mem found (i := port) (by simp [kind, NodeKind.inputs])
          simp only [input_extends wf ext read]
  | entry _ _ _ | var _ _ _ _ _ | branch _ _ _ _ | whileLoop _ _ | forLoop _ _ _ _ _
    | forOfLoop _ _ _ | expression _ _ _ _ _ _ => rfl

end Node

/-! ## Frames

The stack holds frames opened by nodes. When each of them is a node of the graph, resuming the
nearest live one resumes a node of the graph, and a failure names its frames alike on both
graphs. -/

/-- Every frame of the stack was opened by a node of the graph. -/
def Graph.Hosts (g : Graph) (stack : List Frame) : Prop :=
  ∀ f ∈ stack, ∃ n, g.node? f.node = some n

namespace Graph

variable {g : Graph} {stack : List Frame} {ctx : Context}

theorem hosts_nil : g.Hosts [] :=
  fun _ member => absurd member List.not_mem_nil

theorem Unbroken.hosts (unbroken : g.Unbroken stack) : g.Hosts stack := by
  intro f member
  obtain ⟨n, _, node, _⟩ := unbroken f member
  exact ⟨n, node⟩

/-- Whatever a node does to the stack keeps the nodes of its frames. -/
theorem Hosts.of_effect {g' : Graph} {before after : Context} (hosted : g.Hosts before.stack)
    (effect : g'.NodeEffect before after) : g.Hosts after.stack := by
  intro f member
  have listed : f.node ∈ after.stack.map (·.node) := List.mem_map_of_mem member
  rw [effect.frames] at listed
  obtain ⟨f', member', same⟩ := List.mem_map.mp listed
  rw [← same]
  exact hosted f' member'

/-- Unwinding a hosted stack comes to a frame of a node of the graph and leaves a hosted stack;
failing, it leaves none. -/
theorem Hosts.unwind (hosted : g.Hosts ctx.stack) :
    Spec Flow.unwind ctx (fun f after => (∃ n, g.node? f.node = some n) ∧ g.Hosts after.stack)
      (fun _ after => g.Hosts after.stack) := by
  simp only [Flow.unwind, spec_bind, spec_get]
  split
  · next f rest dropped =>
      simp only [spec_bind, spec_set, spec_pure]
      have suffix : f :: rest <:+ ctx.stack := dropped ▸ List.dropWhile_suffix _
      exact ⟨hosted f (suffix.subset List.mem_cons_self),
        fun f' member => hosted f' (suffix.subset (List.mem_cons_of_mem _ member))⟩
  · simp only [spec_bind, spec_set, spec_throw]
    exact hosts_nil

end Graph

/-- Between two steps of a sound run, every frame was opened by a node of the graph. -/
theorem Control.Sound.hosts {g : Graph} {c : Control} {ctx : Context} (sound : c.Sound g ctx) :
    g.Hosts ctx.stack := by
  cases c with
  | arrive port => exact sound.2.hosts
  | handBack n next =>
      obtain ⟨_, ⟨_, unbroken⟩ | ⟨_, top, rest, stack, opened, unbroken⟩⟩ := sound
      · exact unbroken.hosts
      · intro f member
        rw [stack] at member
        rcases List.mem_cons.mp member with rfl | later
        · obtain ⟨n, _, node, _⟩ := opened
          exact ⟨n, node⟩
        · exact unbroken.hosts f later

/-- A node that hands back anything but an interrupt continues with it: an interrupt is all
that a break hands back. -/
theorem Node.HandsBack.continues {g : Graph} {n : Node} {next : Continuation} {ctx : Context}
    (handsBack : n.HandsBack g next ctx) (other : next ≠ .interrupt) : n.Continues g next := by
  rcases handsBack with ⟨continues, _⟩ | ⟨never, _⟩
  · exact continues
  · exact absurd never other

/-- The exit a control leaves through, if it leaves through one. -/
def Control.exitPort? : Control → Option ExitId
  | .handBack _ (.subline port _) | .handBack _ (.exit port) => some port
  | _ => none

/-- A failure reports the frames of a hosted stack by the names the graph gives their nodes, and
so the larger graph gives the same. -/
theorem Context.failure_extends {g g' : Graph} {body : ExitId} (ext : g.Extends g' body)
    {ctx : Context} (hosted : g.Hosts ctx.stack) (e : Fault) :
    ctx.failure g' e = ctx.failure g e := by
  have named : ∀ f ∈ ctx.stack.reverse,
      (⟨f.node, ((g'.node? f.node).map (·.name)).getD "", f.state⟩ : FrameView) =
        ⟨f.node, ((g.node? f.node).map (·.name)).getD "", f.state⟩ := by
    intro f member
    obtain ⟨n, node⟩ := hosted f (List.mem_reverse.mp member)
    rw [node, ext.node node]
  simp only [Context.failure, List.map_congr_left named]

namespace Flow

variable {ctx : Context}

/-! ## Failures over a hosted stack -/

section Hosted

variable {s : Scope} (wf : s.graph.WellFormed)
include wf

theorem resumeParent_hosts (hosted : s.graph.Hosts ctx.stack) :
    Spec (resumeParent s) ctx (fun _ _ => True) (fun _ after => s.graph.Hosts after.stack) := by
  unfold resumeParent
  simp only [spec_bind]
  refine hosted.unwind.mono (fun f c popped => ?_) (fun _ _ left => left)
  cases resolved : s.graph.resolveNode f.node with
  | error e => exact popped.2
  | ok n =>
      simp only [spec_lift_ok]
      refine ((resume_within wf (Graph.node?_of_resolveNode resolved) f.state).spec c).mono
        (fun _ _ _ => ?_) (fun _ _ effect => popped.2.of_effect effect)
      exact trivial

/-- A step from a sound state that fails leaves a hosted stack: it only pops, or marks, the
frames it found. -/
theorem step_hosts {c : Control} (sound : c.Sound s.graph ctx) :
    Spec (step s c) ctx (fun _ _ => True) (fun _ after => s.graph.Hosts after.stack) := by
  have hosted := sound.hosts
  cases c with
  | arrive port =>
      simp only [step, spec_bind]
      cases enter : s.graph.resolveEnter port with
      | error e => exact hosted
      | ok p =>
          simp only [spec_lift_ok]
          cases resolved : s.graph.resolveNode p.node with
          | error e => exact hosted
          | ok n =>
              simp only [spec_lift_ok]
              have found := Graph.node?_of_resolveNode resolved
              split
              · rw [spec_bind]
                refine ((returnValue_within wf n).spec ctx).mono (fun _ _ _ => ?_)
                  (fun _ _ effect => hosted.of_effect effect)
                simp only [spec_bind, spec_modify, spec_pure]
              · rw [spec_bind]
                refine ((execute_within wf found port).spec ctx).mono (fun _ _ _ => ?_)
                  (fun _ _ effect => hosted.of_effect effect)
                exact trivial
  | handBack n next =>
      cases next with
      | subline port state =>
          simp only [step, spec_bind]
          cases exit : s.graph.resolveExit port with
          | error e => exact hosted
          | ok x =>
              simp only [spec_lift_ok]
              split
              · simp only [push, spec_bind, spec_modify, spec_pure]
              · rw [spec_bind]
                refine ((resume_within wf sound.1 state).spec ctx).mono (fun _ _ _ => ?_)
                  (fun _ _ effect => hosted.of_effect effect)
                exact trivial
      | exit port =>
          simp only [step, spec_bind]
          cases exit : s.graph.resolveExit port with
          | error e => exact hosted
          | ok x =>
              simp only [spec_lift_ok]
              split
              · unfold transfer
                simp only [spec_bind]
                cases enter : s.graph.resolveEnter _ with
                | error e => exact hosted
                | ok q =>
                    simp only [spec_lift_ok, spec_get]
                    split
                    · exact hosted
                    · exact trivial
              · exact resumeParent_hosts wf hosted
      | interrupt => exact resumeParent_hosts wf hosted

end Hosted

/-! ## Steps on the larger graph -/

variable {g g' : Graph} {body : ExitId} (wf : g.WellFormed) (ext : g.Extends g' body)
  {builtins : Registry}
include wf ext

omit wf in
theorem transfer_extends {target : EnterId} {q : EnterPort} (found : g.enter? target = some q) :
    transfer ⟨g', builtins⟩ target = transfer ⟨g, builtins⟩ target := by
  simp only [transfer, ext.resolveEnter found]

/-- Resuming the nearest live frame of a hosted stack. -/
theorem resumeParent_extends (hosted : g.Hosts ctx.stack) :
    (resumeParent ⟨g', builtins⟩).run.run ctx =
      (resumeParent ⟨g, builtins⟩).run.run ctx := by
  unfold resumeParent
  rw [run_bind, run_bind]
  cases unwound : unwind.run.run ctx with
  | mk r after =>
      cases r with
      | error e => rfl
      | ok f =>
          obtain ⟨⟨n, found⟩, _⟩ := (spec_of_run_ok unwound).mp hosted.unwind
          simp only [ext.resolveNode found, Graph.resolveNode_eq_ok found, FlowM.lift, pure_bind,
            Node.resume_extends wf ext found]

/-- A step from a sound state is the same step on the larger graph when the exit it leaves
through, if any, is one the larger graph keeps as it is. -/
theorem step_extends {c : Control} (sound : c.Sound g ctx)
    (kept : ∀ port x, c.exitPort? = some port → g.exit? port = some x →
      g'.exit? port = some x) :
    (step ⟨g', builtins⟩ c).run.run ctx = (step ⟨g, builtins⟩ c).run.run ctx := by
  have hosted := sound.hosts
  cases c with
  | arrive port =>
      obtain ⟨⟨p, entered⟩, _⟩ := sound
      obtain ⟨n, node, _⟩ := wf.node_of_enter entered
      simp only [step, ext.resolveEnter entered, Graph.resolveEnter_eq_ok entered, FlowM.lift,
        pure_bind, ext.resolveNode node, Graph.resolveNode_eq_ok node,
        Node.returnValue_extends wf ext node, Node.execute_extends wf ext node]
  | handBack n next =>
      obtain ⟨owned, handsBack⟩ := sound
      -- a node hands back its own exits; an interrupt comes only after a break
      cases next with
      | subline port state =>
          obtain ⟨x, exits, _⟩ :=
            wf.exit_of_mem owned (handsBack.continues (by intro never; cases never)).1
          simp only [step, Graph.resolveExit_eq_ok (kept port x rfl exits),
            Graph.resolveExit_eq_ok exits, FlowM.lift, pure_bind, Node.resume_extends wf ext owned]
      | exit port =>
          obtain ⟨x, exits, _⟩ :=
            wf.exit_of_mem owned (handsBack.continues (by intro never; cases never))
          simp only [step, Graph.resolveExit_eq_ok (kept port x rfl exits),
            Graph.resolveExit_eq_ok exits, FlowM.lift, pure_bind]
          cases target : x.target with
          | some t =>
              obtain ⟨q, entered⟩ := wf.exit_target exits target
              simp only [transfer_extends ext entered]
          | none => exact resumeParent_extends wf ext hosted
      | interrupt => exact resumeParent_extends wf ext hosted

/-! ## Calls -/

theorem sendArguments_extends :
    ∀ {outs : List OutputId} (vs : List Value), (∀ o ∈ outs, ∃ q, g.output? o = some q) →
      sendArguments g' outs vs = sendArguments g outs vs
  | port :: ports, v :: vs, sent => by
      obtain ⟨q, found⟩ := sent port List.mem_cons_self
      simp only [sendArguments, output_extends wf ext found,
        sendArguments_extends vs fun o member => sent o (List.mem_cons_of_mem _ member)]
  | [], _, _ => rfl
  | _ :: _, [], _ => rfl

/-- Preparing a call at an entry node of the graph whose exit the larger graph keeps. -/
theorem prepare_extends {validate : Bool} {f : FlowFunction} {args : List Value} {n : Node}
    {params : List DataType} {outs : List OutputId} {exit : ExitId}
    (found : g.node? f.entry = some n) (kind : n.kind = .entry params outs exit)
    (other : exit ≠ body) :
    prepare ⟨g', builtins⟩ validate f args = prepare ⟨g, builtins⟩ validate f args := by
  have sent : ∀ o ∈ outs, ∃ q, g.output? o = some q := fun o member =>
    (wf.output_of_mem found (by rw [kind]; exact member)).imp fun _ => And.left
  obtain ⟨x, exits, _⟩ := wf.exit_of_mem found (x := exit) (by simp [kind, NodeKind.exits])
  simp only [prepare, ext.resolveNode found, Graph.resolveNode_eq_ok found, FlowM.lift, pure_bind,
    kind, sendArguments_extends wf ext args sent, ext.resolveExit exits other,
    Graph.resolveExit_eq_ok exits]

end Flow

end Blueprint
