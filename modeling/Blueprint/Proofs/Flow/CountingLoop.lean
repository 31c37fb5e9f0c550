import Blueprint.Proofs.Flow.ArrayLoop
import Blueprint.Proofs.Number.ExactIntegers

/-!
# Counting loops

A counting loop reads its start, end and step when it is entered, in that order and once each,
and fails there, before it sends anything, when a read fails or the step is zero. Its place is
the counter in the cursor of the frame it pushes, so nothing its body does to the sources of the
three inputs reaches it. The counter starts at the start and moves by the step, added as a
double, while it stays on the start's side of the end.

With integers of magnitude at most `2^52`, every addition is exact (`Number.ofInt_add_ofInt`),
so the loop sends `start + j * step` for `j` below `⌈(end - start) / step⌉` and runs its body once
after each (`for_counts_integer_range`). In general the loop leaves exactly when its counter
leaves the range, whatever the body does; a step lost in rounding, where `start + step` is
`start` again, keeps the counter in place for ever (`for_leaves_iff_counter_runs_out`).
-/

namespace Blueprint

open FlowM

namespace Flow

variable {s : Scope} {ctx : Context}

/-- Entering a counting loop from `ctx` reads its start, end and step, in that order, as the
numbers `a`, `b` and `t`, and leaves `read`. -/
def ReadsBounds (g : Graph) (start stop step : InputId) (ctx : Context) (a b t : Float)
    (read : Context) : Prop :=
  ∃ c₁ c₂, (readNumber g start).run.run ctx = (.ok a, c₁) ∧
    (readNumber g stop).run.run c₁ = (.ok b, c₂) ∧ (readNumber g step).run.run c₂ = (.ok t, read)

/-- Reading the three bounds leaves the stack as it was. -/
theorem ReadsBounds.stack {g : Graph} (wf : g.WellFormed) {start stop step : InputId}
    {p₁ p₂ p₃ : InputPort} (first : g.input? start = some p₁) (second : g.input? stop = some p₂)
    (third : g.input? step = some p₃) {a b t : Float} {read : Context}
    (reads : ReadsBounds g start stop step ctx a b t read) : read.stack = ctx.stack := by
  obtain ⟨c₁, c₂, got₁, got₂, got₃⟩ := reads
  calc read.stack = c₂.stack := (readNumber_calm wf third c₂).of_ok got₃
    _ = c₁.stack := (readNumber_calm wf second c₁).of_ok got₂
    _ = ctx.stack := (readNumber_calm wf first ctx).of_ok got₁

/-- Reading an input as a number fails with a missing input naming the port when the input gives
no value, and with a type mismatch when it gives another value. -/
theorem readNumber_of_input {g : Graph} {port : InputId} {p : InputPort}
    (found : g.input? port = some p) {after : Context} :
    ((input g port).run.run ctx = (.ok none, after) →
      (readNumber g port).run.run ctx = (.error (.missingInput p.name), after)) ∧
    (∀ {v : Value}, (∀ y, v ≠ .number y) → (input g port).run.run ctx = (.ok (some v), after) →
      (readNumber g port).run.run ctx = (.error (.typeMismatch "number" v.kindName), after)) := by
  refine ⟨fun none => ?_, fun other got => readNumber_of_other other (readRequired_of_some got)⟩
  have failed := readNumber_of_error (readRequired_of_none none)
  simpa only [found, Option.map_some, Option.getD_some] using failed

/-! ## Entering the loop -/

section Enter

variable {m : NodeId} {F : Node} {start stop step : InputId} {index : OutputId}
  {lp : LoopPorts}
  (wf : s.graph.WellFormed) (found : s.graph.node? m = some F)
  (kind : F.kind = .forLoop start stop step index lp)
include wf found kind

/-- Arriving at the enter port of a counting loop runs the loop's entry. -/
theorem step_for_enter :
    (Flow.step s (.arrive lp.enter)).run.run ctx =
      (Node.enterFor s.graph F.id start stop step index lp >>= fun c =>
        pure (Step.next (.handBack F c))).run.run ctx := by
  have loop : F.kind.loop? = some lp := by rw [kind]; rfl
  -- the enter port is not the break port, so the entry runs rather than a break
  have distinct : lp.enter ≠ lp.breakIn := (wf.breakIn_ne_enter found loop).symm
  rw [step_loop_enter wf found loop]
  simp only [Node.execute, kind, if_neg distinct, ne_eq, not_true_eq_false, if_false]

theorem step_for_enter_start_error {e : Fault} {after : Context}
    (got : (readNumber s.graph start).run.run ctx = (.error e, after)) :
    (Flow.step s (.arrive lp.enter)).run.run ctx = (.error e, after) := by
  rw [step_for_enter wf found kind]
  simp only [Node.enterFor, run_bind, got]

theorem step_for_enter_stop_error {a : Float} {c₁ after : Context} {e : Fault}
    (first : (readNumber s.graph start).run.run ctx = (.ok a, c₁))
    (got : (readNumber s.graph stop).run.run c₁ = (.error e, after)) :
    (Flow.step s (.arrive lp.enter)).run.run ctx = (.error e, after) := by
  rw [step_for_enter wf found kind]
  simp only [Node.enterFor, run_bind, first, got]

theorem step_for_enter_step_error {a b : Float} {c₁ c₂ after : Context} {e : Fault}
    (first : (readNumber s.graph start).run.run ctx = (.ok a, c₁))
    (second : (readNumber s.graph stop).run.run c₁ = (.ok b, c₂))
    (got : (readNumber s.graph step).run.run c₂ = (.error e, after)) :
    (Flow.step s (.arrive lp.enter)).run.run ctx = (.error e, after) := by
  rw [step_for_enter wf found kind]
  simp only [Node.enterFor, run_bind, first, second, got]

section Bounds

variable {a b t : Float} {read : Context}
  (reads : ReadsBounds s.graph start stop step ctx a b t read)
include reads

/-- A zero step fails the entry, once the three numbers are read. -/
theorem step_for_enter_zero (zero : (t == 0.0) = true) :
    (Flow.step s (.arrive lp.enter)).run.run ctx = (.error .zeroStep, read) := by
  obtain ⟨c₁, c₂, first, second, third⟩ := reads
  rw [step_for_enter wf found kind]
  simp only [Node.enterFor, run_bind, first, second, third, zero, if_true, run_throw]

/-- A start outside the range leaves the loop at once. -/
theorem step_for_enter_outside (nonzero : (t == 0.0) = false)
    (outside : inRange a b t = false) :
    (Flow.step s (.arrive lp.enter)).run.run ctx =
      (.ok (.next (.handBack F (.exit lp.exit))), read) := by
  obtain ⟨c₁, c₂, first, second, third⟩ := reads
  rw [step_for_enter wf found kind]
  simp only [Node.enterFor, run_bind, first, second, third, nonzero, outside,
    Bool.false_eq_true, if_false, run_pure, Bool.not_false, if_true]

/-- A start in range is sent on the index output, and the body opens with the counter at it. -/
theorem step_for_enter_inside (nonzero : (t == 0.0) = false) (inside : inRange a b t = true)
    {emitted : Context}
    (sent : (output s.graph index (.number a)).run.run read = (.ok (), emitted)) :
    (Flow.step s (.arrive lp.enter)).run.run ctx =
      (.ok (.next (.handBack F (.subline lp.body (.looping F.id (.counter a b t))))),
        emitted) := by
  obtain ⟨c₁, c₂, first, second, third⟩ := reads
  rw [step_for_enter wf found kind]
  simp only [Node.enterFor, run_bind, first, second, third, nonzero, inside,
    Bool.false_eq_true, if_false, run_pure, Bool.not_true, sent]

end Bounds

end Enter

/-! ## Counting over integers -/

/-- The integer form of `inRange`: whether a counter is still on the start's side of the end. -/
def intInRange (x stop step : Int) : Bool :=
  if 0 < step then decide (x < stop) else decide (stop < x)

/-- How many times a counting loop over integers runs its body: `⌈(stop - start) / step⌉`, and
none when that is not positive. -/
def countRuns (start stop step : Int) : Nat :=
  ⌈((stop - start : Int) : ℚ) / step⌉.toNat

/-- Over integers below `2^53` in magnitude the range test of doubles is that of integers. -/
theorem inRange_ofInt {x stop step : Int} (smallX : x.natAbs < 2 ^ 53)
    (smallStop : stop.natAbs < 2 ^ 53) (smallStep : step.natAbs < 2 ^ 53) :
    inRange (Float.ofInt x) (Float.ofInt stop) (Float.ofInt step) = intInRange x stop step := by
  have smallZero : (0 : Int).natAbs < 2 ^ 53 := by decide
  unfold inRange intInRange
  rw [Number.zero_eq_ofInt]
  simp only [gt_iff_lt, Number.ofInt_lt_ofInt smallZero smallStep,
    Number.ofInt_lt_ofInt smallX smallStop, Number.ofInt_lt_ofInt smallStop smallX]

/-- The counter `start + j * step` is in range exactly for the first `countRuns` values of `j`. -/
theorem intInRange_iff_lt_countRuns {start stop step : Int} (nonzero : step ≠ 0) (j : Nat) :
    intInRange (start + j * step) stop step = true ↔ j < countRuns start stop step := by
  unfold intInRange countRuns
  rw [Int.lt_toNat, Int.lt_ceil]
  rcases lt_or_gt_of_ne nonzero with negative | positive
  · -- a negative step: past the end means below it, and dividing by the step turns it round
    have negative' : (step : ℚ) < 0 := by exact_mod_cast negative
    simp only [not_lt.mpr negative.le, if_false, decide_eq_true_eq, lt_div_iff_of_neg negative']
    qify
    constructor <;> intro h <;> linarith
  · have positive' : (0 : ℚ) < step := by exact_mod_cast positive
    simp only [positive, if_true, decide_eq_true_eq, lt_div_iff₀ positive']
    qify
    constructor <;> intro h <;> linarith

/-- The values a counting loop over integers sends: `start + j * step` for each `j` below
`countRuns`, as doubles. -/
def countedValues (start stop step : Int) : List Value :=
  (List.range (countRuns start stop step)).map fun (j : Nat) =>
    .number (Float.ofInt (start + (j : Int) * step))

theorem length_countedValues (start stop step : Int) :
    (countedValues start stop step).length = countRuns start stop step := by
  unfold countedValues
  rw [List.length_map, List.length_range]

/-- A loop over integers that runs its body sends its start first. -/
theorem countedValues_eq_cons {start stop step : Int} (positive : 0 < countRuns start stop step) :
    countedValues start stop step =
      .number (Float.ofInt start) :: (countedValues start stop step).drop 1 := by
  obtain ⟨k, runs⟩ : ∃ k, countRuns start stop step = k + 1 :=
    ⟨_, (Nat.succ_pred_eq_of_pos positive).symm⟩
  simp only [countedValues, runs, List.range_succ_eq_map, List.map_cons, List.drop_succ_cons,
    List.drop_zero, Nat.cast_zero, zero_mul, add_zero]

section Integers

variable {start stop step : Int} (smallStart : start.natAbs ≤ 2 ^ 52)
  (smallStop : stop.natAbs ≤ 2 ^ 52) (smallStep : step.natAbs ≤ 2 ^ 52) (nonzero : step ≠ 0)

include smallStart smallStop smallStep nonzero in
/-- Every counter a loop over integers of magnitude at most `2^52` reaches, the one that ends it
included, is below `2^53` in magnitude: one step past a value in range is at most one step past
the end. -/
theorem natAbs_counter_lt {j : Nat} (within : j ≤ countRuns start stop step) :
    (start + j * step).natAbs < 2 ^ 53 := by
  cases j with
  | zero => simp only [Nat.cast_zero, zero_mul, add_zero]; omega
  | succ k =>
      have inside : intInRange (start + k * step) stop step = true :=
        (intInRange_iff_lt_countRuns nonzero k).mpr (by omega)
      have next : start + ((k + 1 : Nat) : Int) * step = start + k * step + step := by
        push_cast
        ring
      rw [next]
      unfold intInRange at inside
      rcases lt_or_gt_of_ne nonzero with negative | positive
      · have onward : (k : Int) * step ≤ 0 := Int.mul_nonpos_of_nonneg_of_nonpos (by omega)
          negative.le
        simp only [not_lt.mpr negative.le, if_false, decide_eq_true_eq] at inside
        generalize (k : Int) * step = moved at onward inside ⊢
        omega
      · have onward : 0 ≤ (k : Int) * step := Int.mul_nonneg (by omega) positive.le
        simp only [positive, if_true, decide_eq_true_eq] at inside
        generalize (k : Int) * step = moved at onward inside ⊢
        omega

include smallStep nonzero in
/-- A nonzero integer step is not zero as a double. -/
theorem ofInt_beq_zero : (Float.ofInt step == 0.0) = false := by
  rw [Number.zero_eq_ofInt, Number.ofInt_beq_ofInt (by omega) (by decide)]
  exact decide_eq_false nonzero

include smallStart smallStop smallStep nonzero in
/-- A loop over integers starts in range exactly when it runs its body at least once. -/
theorem inRange_start_iff :
    inRange (Float.ofInt start) (Float.ofInt stop) (Float.ofInt step) = true ↔
      0 < countRuns start stop step := by
  have first : intInRange (start + ((0 : Nat) : Int) * step) stop step = true ↔
      0 < countRuns start stop step :=
    intInRange_iff_lt_countRuns nonzero 0
  rw [Nat.cast_zero, zero_mul, add_zero] at first
  rw [inRange_ofInt (by omega) (by omega) (by omega), first]

include smallStart smallStop smallStep nonzero in
/-- A counter over integers `k` steps in, still in range, advances by exactly one step: to the
next value while that is in range, and to nothing once it is not. -/
theorem advance_counter_ofInt {k : Nat} (within : k < countRuns start stop step) :
    (Cursor.counter (Float.ofInt (start + k * step)) (Float.ofInt stop) (Float.ofInt step)).advance =
      if k + 1 < countRuns start stop step then
        some (.number (Float.ofInt (start + (k + 1 : Nat) * step)),
          .counter (Float.ofInt (start + (k + 1 : Nat) * step)) (Float.ofInt stop)
            (Float.ofInt step))
      else none := by
  have next : start + k * step + step = start + ((k + 1 : Nat) : Int) * step := by
    push_cast
    ring
  have smallHere := natAbs_counter_lt smallStart smallStop smallStep nonzero within.le
  have smallNext : (start + ((k + 1 : Nat) : Int) * step).natAbs < 2 ^ 53 :=
    natAbs_counter_lt smallStart smallStop smallStep nonzero within
  -- the addition is exact: both terms and the sum are below `2^53`
  have added : Float.ofInt (start + k * step) + Float.ofInt step =
      Float.ofInt (start + ((k + 1 : Nat) : Int) * step) := by
    rw [Number.ofInt_add_ofInt smallHere (by omega) (by rw [next]; exact smallNext), next]
  have inside : inRange (Float.ofInt (start + ((k + 1 : Nat) : Int) * step)) (Float.ofInt stop)
      (Float.ofInt step) = true ↔ k + 1 < countRuns start stop step := by
    rw [inRange_ofInt smallNext (by omega) (by omega), intInRange_iff_lt_countRuns nonzero]
  simp only [Cursor.advance, added, inside]

include smallStart smallStop smallStep nonzero in
/-- A counter over integers `k` steps in gives the values of `countedValues` after the `k`-th. -/
theorem walk_counter_ofInt {k : Nat} (within : k < countRuns start stop step) (r : Nat) :
    (Cursor.counter (Float.ofInt (start + k * step)) (Float.ofInt stop) (Float.ofInt step)).walk r =
      ((countedValues start stop step).drop (k + 1)).take r := by
  induction r generalizing k with
  | zero => rfl
  | succ r ih =>
      have advanced := advance_counter_ofInt smallStart smallStop smallStep nonzero within
      by_cases more : k + 1 < countRuns start stop step
      · have listed : k + 1 < (countedValues start stop step).length := by
          rw [length_countedValues]
          exact more
        rw [Cursor.walk_succ_of_some (advanced.trans (if_pos more)), ih more,
          List.drop_eq_getElem_cons listed, List.take_succ_cons]
        simp only [countedValues, List.getElem_map, List.getElem_range]
      · have past : (countedValues start stop step).length ≤ k + 1 := by
          rw [length_countedValues]
          omega
        rw [Cursor.walk_succ_of_none (advanced.trans (if_neg more)), List.drop_eq_nil_of_le past,
          List.take_nil]

include smallStart smallStop smallStep nonzero in
/-- The counter a loop over integers opens its body with gives the values after the start. -/
theorem walk_counter_start (positive : 0 < countRuns start stop step) (r : Nat) :
    (Cursor.counter (Float.ofInt start) (Float.ofInt stop) (Float.ofInt step)).walk r =
      ((countedValues start stop step).drop 1).take r := by
  have walked := walk_counter_ofInt smallStart smallStop smallStep nonzero positive r
  simp only [Nat.cast_zero, zero_mul, add_zero, Nat.zero_add] at walked
  exact walked

include smallStart smallStop smallStep nonzero in
/-- A counter over integers runs out within `countRuns` advances. -/
theorem counter_ofInt_exhausted (positive : 0 < countRuns start stop step) :
    ((Cursor.counter (Float.ofInt start) (Float.ofInt stop) (Float.ofInt step)).walk
      (countRuns start stop step + 1)).length ≤ countRuns start stop step := by
  rw [walk_counter_start smallStart smallStop smallStep nonzero positive]
  simp only [List.length_take, List.length_drop, length_countedValues]
  omega

end Integers

/-! ## A step lost in rounding -/

/-- A counter whose step is lost in rounding, `current + step = current`, advances to itself for
as long as it is in range. -/
theorem advance_counter_of_lost {a b t : Float} (lost : a + t = a) (inside : inRange a b t = true) :
    (Cursor.counter a b t).advance = some (.number a, .counter a b t) := by
  simp only [Cursor.advance, lost, inside, if_true]

/-- Adding one to `2^53` as a double gives `2^53` again: the sum lies halfway between `2^53` and
the next double, `2^53 + 2`, and rounds to the even one. -/
theorem two_pow_53_add_one : (9007199254740992 : Float) + 1 = 9007199254740992 := by
  have rounded : (9007199254740992 : Float).toModel + (1 : Float).toModel =
      (9007199254740992 : Float).toModel := by
    decide
  show Float.ofModel ((9007199254740992 : Float).toModel + (1 : Float).toModel) = _
  rw [rounded]

end Flow

namespace Interpreter

/-- A counting loop of a function on a built graph reads its start, end and step when it is
entered, in that order, each once: a read fails with a missing input naming its port when the
input gives no value and with a type mismatch when it gives something other than a number, the
first read that fails fails the entry, and a zero step fails it once the three are read, each
before anything is sent. With integer bounds of magnitude at most `2^52` and a nonzero step, the
loop sends `start + j * step` for each `j` below `⌈(end - start) / step⌉`, none when that is not
positive: the first on entry, each next one when the loop is resumed, and it opens its body after
each, so that the body's `j`-th run follows the `j`-th value. The values are those of the counter
in the loop's frame, so nothing the body writes reaches them. A body that always comes back makes
the loop run out this way; it leaves through its exit on the stack it was entered on, and no other
run starts there. -/
theorem for_counts_integer_range (tag : Nat) (name : String) (edits : List Graph.Edit)
    {i : Interpreter} {f : FlowFunction} (built : f.graph = Graph.build tag name edits)
    {m : NodeId} {F : Node} {start stop step : InputId} {index : OutputId} {lp : LoopPorts}
    (found : f.graph.node? m = some F) (kind : F.kind = .forLoop start stop step index lp) :
    let s : Scope := ⟨f.graph, i.builtins⟩
    ∃ x, f.graph.exit? lp.body = some x ∧
      -- each bound is read as a number, and a read that fails names its port
      (∀ port ∈ [start, stop, step], ∃ p, f.graph.input? port = some p ∧ ∀ {ctx after : Context},
        ((Flow.input f.graph port).run.run ctx = (.ok none, after) →
          (Flow.readNumber f.graph port).run.run ctx = (.error (.missingInput p.name), after)) ∧
        (∀ {v : Value}, (∀ y, v ≠ .number y) →
          (Flow.input f.graph port).run.run ctx = (.ok (some v), after) →
          (Flow.readNumber f.graph port).run.run ctx =
            (.error (.typeMismatch "number" v.kindName), after))) ∧
      -- entering reads start, end and step in that order and fails with the first failed read
      (∀ {ctx after : Context} {e : Fault},
        (Flow.readNumber f.graph start).run.run ctx = (.error e, after) →
        (Flow.step s (.arrive lp.enter)).run.run ctx = (.error e, after)) ∧
      (∀ {ctx c₁ after : Context} {a : Float} {e : Fault},
        (Flow.readNumber f.graph start).run.run ctx = (.ok a, c₁) →
        (Flow.readNumber f.graph stop).run.run c₁ = (.error e, after) →
        (Flow.step s (.arrive lp.enter)).run.run ctx = (.error e, after)) ∧
      (∀ {ctx c₁ c₂ after : Context} {a b : Float} {e : Fault},
        (Flow.readNumber f.graph start).run.run ctx = (.ok a, c₁) →
        (Flow.readNumber f.graph stop).run.run c₁ = (.ok b, c₂) →
        (Flow.readNumber f.graph step).run.run c₂ = (.error e, after) →
        (Flow.step s (.arrive lp.enter)).run.run ctx = (.error e, after)) ∧
      -- a zero step fails the entry once the three are read
      (∀ {ctx read : Context} {a b t : Float},
        Flow.ReadsBounds f.graph start stop step ctx a b t read → (t == 0.0) = true →
        (Flow.step s (.arrive lp.enter)).run.run ctx = (.error .zeroStep, read)) ∧
      ∀ {ctx read : Context} {a b t : Int}, a.natAbs ≤ 2 ^ 52 → b.natAbs ≤ 2 ^ 52 →
        t.natAbs ≤ 2 ^ 52 → t ≠ 0 →
        Flow.ReadsBounds f.graph start stop step ctx (Float.ofInt a) (Float.ofInt b)
          (Float.ofInt t) read →
        -- no run: the loop leaves at once
        (Flow.countRuns a b t = 0 → (Flow.step s (.arrive lp.enter)).run.run ctx =
          (.ok (.next (.handBack F (.exit lp.exit))), read)) ∧
        -- otherwise the start is sent and the body opens with the counter at it
        (0 < Flow.countRuns a b t →
          ∃ emitted, (Flow.output f.graph index (.number (Float.ofInt a))).run.run read =
            (.ok (), emitted) ∧
          (Flow.step s (.arrive lp.enter)).run.run ctx =
            (.ok (.next (.handBack F (.subline lp.body
              (.looping F.id (.counter (Float.ofInt a) (Float.ofInt b) (Float.ofInt t)))))),
              emitted) ∧
          -- a body that always comes back makes the loop run out
          ((∀ cursor c, ∃ ran, Flow.BodyPass s F x.target cursor c ran) →
            ∃ vs after, Flow.OpenRun s F index lp x.target
              (.counter (Float.ofInt a) (Float.ofInt b) (Float.ofInt t)) emitted vs false after) ∧
          ∀ {vs : List Value} {after : Context},
            Flow.OpenRun s F index lp x.target
              (.counter (Float.ofInt a) (Float.ofInt b) (Float.ofInt t)) emitted vs false after →
            -- the values sent, one before each run of the body
            .number (Float.ofInt a) :: vs = Flow.countedValues a b t ∧
            -- the loop leaves through its exit on the stack it was entered on
            after.stack = ctx.stack ∧
            (∃ n, ∀ fuel, (Flow.runFrom s (fuel + n) (.arrive lp.enter)).run.run ctx =
              (Flow.runFrom s fuel (.handBack F (.exit lp.exit))).run.run after) ∧
            -- and no other run starts there
            ∀ {vs' : List Value} {broken' : Bool} {after' : Context},
              Flow.OpenRun s F index lp x.target
                (.counter (Float.ofInt a) (Float.ofInt b) (Float.ofInt t)) emitted vs' broken'
                after' →
              vs = vs' ∧ false = broken' ∧ after = after') := by
  intro s
  have wf : f.graph.WellFormed := built ▸ Graph.build_wellFormed tag name edits
  have wf : s.graph.WellFormed := wf
  have found : s.graph.node? m = some F := found
  have bound : ∀ port ∈ [start, stop, step], port ∈ F.kind.inputs := by
    intro port listed
    rw [kind]
    exact listed
  obtain ⟨p₁, startInput, _⟩ := wf.input_of_mem found (bound start (by simp))
  obtain ⟨p₂, stopInput, _⟩ := wf.input_of_mem found (bound stop (by simp))
  obtain ⟨p₃, stepInput, _⟩ := wf.input_of_mem found (bound step (by simp))
  have outlet : F.kind.outlet? = some (index, lp) := by rw [kind]; rfl
  obtain ⟨⟨q, outFound⟩, x, bodyExit⟩ := wf.outlet_ports found outlet
  refine ⟨x, bodyExit, fun port listed => ?_,
    fun got => Flow.step_for_enter_start_error wf found kind got,
    fun got₁ got₂ => Flow.step_for_enter_stop_error wf found kind got₁ got₂,
    fun got₁ got₂ got₃ => Flow.step_for_enter_step_error wf found kind got₁ got₂ got₃,
    fun reads zero => Flow.step_for_enter_zero wf found kind reads zero,
    fun {ctx read a b t} smallA smallB smallT nonzero reads => ⟨fun none => ?_, fun positive => ?_⟩⟩
  · obtain ⟨p, input, _⟩ := wf.input_of_mem found (bound port listed)
    exact ⟨p, input, fun {ctx after} => Flow.readNumber_of_input (g := s.graph) input⟩
  · -- no run: the start is already out of range
    have outside : Flow.inRange (Float.ofInt a) (Float.ofInt b) (Float.ofInt t) = false := by
      rw [Bool.eq_false_iff]
      intro inside
      rw [Flow.inRange_start_iff smallA smallB smallT nonzero] at inside
      omega
    exact Flow.step_for_enter_outside wf found kind reads (Flow.ofInt_beq_zero smallT nonzero)
      outside
  · obtain ⟨emitted, sent, kept⟩ := Flow.output_run_ok wf outFound (.number (Float.ofInt a)) read
    have entered := Flow.step_for_enter_inside wf found kind reads
      (Flow.ofInt_beq_zero smallT nonzero)
      ((Flow.inRange_start_iff smallA smallB smallT nonzero).mpr positive) sent
    have walks : F.kind.Walks (.counter (Float.ofInt a) (Float.ofInt b) (Float.ofInt t)) := by
      rw [kind]
      trivial
    have walked := Flow.walk_counter_start smallA smallB smallT nonzero positive
    refine ⟨emitted, sent, entered, fun passes => ?_, fun run => ?_⟩
    · exact Flow.OpenRun.exists_of_exhausted wf outFound passes _
        (Flow.counter_ofInt_exhausted smallA smallB smallT nonzero positive) emitted
    · have calm : read.stack = ctx.stack := reads.stack wf startInput stopInput stepInput
      obtain ⟨stack, leads⟩ :=
        run.leaves_entry wf found outlet bodyExit outFound walks entered (kept.trans calm)
      refine ⟨?_, stack, leads, fun second => run.deterministic wf found outlet outFound walks second⟩
      rw [run.sent_of_walk walked, ← Flow.countedValues_eq_cons positive]

/-- A counting loop from zero to three by one, with a body that leads nowhere, sends zero, one
and two, and leaves on the stack it was entered on. -/
theorem for_zero_to_three_sends_three :
    let f : FlowFunction :=
      { symbol := "main", entry := ⟨0, 0⟩,
        graph := Graph.build 0 "main" [.addFor, .setDefault ⟨0, 0⟩ (.number 0),
          .setDefault ⟨0, 1⟩ (.number 3), .setDefault ⟨0, 2⟩ (.number 1)] }
    let s : Scope := ⟨f.graph, standard.builtins⟩
    ∃ F lp emitted vs after, f.graph.node? ⟨0, 0⟩ = some F ∧ F.kind.loop? = some lp ∧
      Flow.OpenRun s F ⟨0, 0⟩ lp none (.counter 0 3 1) emitted vs false after ∧
      .number 0 :: vs = [.number 0, .number 1, .number 2] ∧ after.stack = [] := by
  intro f s
  have reads : Flow.ReadsBounds f.graph ⟨0, 0⟩ ⟨0, 1⟩ ⟨0, 2⟩ {} (Float.ofInt 0) (Float.ofInt 3)
      (Float.ofInt 1) {} :=
    ⟨{}, {}, rfl, rfl, rfl⟩
  have runs : Flow.countRuns 0 3 1 = 3 := by
    norm_num [Flow.countRuns]
    decide
  obtain ⟨x, bodyExit, -, -, -, -, -, integers⟩ :=
    for_counts_integer_range 0 "main" _ (i := standard) (f := f) rfl (m := ⟨0, 0⟩) rfl rfl
  -- the body's exit leads nowhere
  cases bodyExit
  obtain ⟨-, opened⟩ := integers (by decide) (by decide) (by decide) (by decide) reads
  obtain ⟨emitted, -, -, exists_run, sent⟩ := opened (by rw [runs]; decide)
  obtain ⟨vs, after, run⟩ := exists_run fun _ c => ⟨c, rfl⟩
  obtain ⟨values, stack, -, -⟩ := sent run
  refine ⟨_, _, emitted, vs, after, rfl, rfl, run, values.trans ?_, stack⟩
  rw [Flow.countedValues, runs]
  rfl

/-- A counting loop of a function on a built graph, entered with a nonzero step and a start in
range, sends the start and opens its body with the counter at it. With a body that always comes
back it leaves exactly when its counter runs out, that is when adding the step, as a double,
takes the counter out of range within finitely many additions, whatever the body does. The
counter runs out for integer bounds of magnitude at most `2^52`, but not in general: a step lost
in rounding, where `start + step` is `start` again, keeps it in range for ever, so the loop never
leaves, and with a body that leads nowhere it runs without end, neither failing nor finishing,
however many steps it is given. -/
theorem for_leaves_iff_counter_runs_out (tag : Nat) (name : String) (edits : List Graph.Edit)
    {i : Interpreter} {f : FlowFunction} (built : f.graph = Graph.build tag name edits)
    {m : NodeId} {F : Node} {start stop step : InputId} {index : OutputId} {lp : LoopPorts}
    (found : f.graph.node? m = some F) (kind : F.kind = .forLoop start stop step index lp) :
    let s : Scope := ⟨f.graph, i.builtins⟩
    ∃ x, f.graph.exit? lp.body = some x ∧
      ∀ {ctx read : Context} {a b t : Float},
        Flow.ReadsBounds f.graph start stop step ctx a b t read → (t == 0.0) = false →
        Flow.inRange a b t = true →
        ∃ emitted, (Flow.output f.graph index (.number a)).run.run read = (.ok (), emitted) ∧
          (Flow.step s (.arrive lp.enter)).run.run ctx =
            (.ok (.next (.handBack F (.subline lp.body (.looping F.id (.counter a b t))))),
              emitted) ∧
          -- with a body that always comes back, the loop leaves when its counter runs out
          ((∀ cursor c, ∃ ran, Flow.BodyPass s F x.target cursor c ran) →
            ((∃ vs after, Flow.OpenRun s F index lp x.target (.counter a b t) emitted vs false
                after) ↔
              ∃ n, ((Cursor.counter a b t).walk (n + 1)).length ≤ n)) ∧
          -- which it does over integers of magnitude at most 2^52
          (∀ {A B T : Int}, A.natAbs ≤ 2 ^ 52 → B.natAbs ≤ 2 ^ 52 → T.natAbs ≤ 2 ^ 52 →
            a = Float.ofInt A → b = Float.ofInt B → t = Float.ofInt T →
            ∃ n, ((Cursor.counter a b t).walk (n + 1)).length ≤ n) ∧
          -- a step lost in rounding keeps the counter in range for ever
          (a + t = a → ∀ {vs : List Value} {after : Context},
            ¬ Flow.OpenRun s F index lp x.target (.counter a b t) emitted vs false after) ∧
          (a + t = a → x.target = none → ∀ fuel, ∃ after,
            (Flow.runFrom s fuel (.arrive lp.enter)).run.run ctx = (.ok none, after)) := by
  intro s
  have wf : f.graph.WellFormed := built ▸ Graph.build_wellFormed tag name edits
  have wf : s.graph.WellFormed := wf
  have found : s.graph.node? m = some F := found
  have outlet : F.kind.outlet? = some (index, lp) := by rw [kind]; rfl
  obtain ⟨⟨q, outFound⟩, x, bodyExit⟩ := wf.outlet_ports found outlet
  refine ⟨x, bodyExit, fun {ctx read a b t} reads nonzero inside => ?_⟩
  obtain ⟨emitted, sent, -⟩ := Flow.output_run_ok wf outFound (.number a) read
  have entered := Flow.step_for_enter_inside wf found kind reads nonzero inside sent
  have walks : F.kind.Walks (.counter a b t) := by
    rw [kind]
    trivial
  refine ⟨emitted, sent, entered,
    fun passes => Flow.OpenRun.exists_iff_exhausted wf outFound passes _ emitted,
    fun {A B T} smallA smallB smallT ofA ofB ofT => ?_, fun lost vs after run => ?_,
    fun lost unwired fuel => ?_⟩
  · subst ofA ofB ofT
    -- an integer step that is not zero as a double is not zero
    have nonzeroT : T ≠ 0 := by
      rintro rfl
      rw [Number.zero_eq_ofInt, Number.ofInt_beq_ofInt (by decide) (by decide)] at nonzero
      exact absurd nonzero (by decide)
    have positive := (Flow.inRange_start_iff smallA smallB smallT nonzeroT).mp inside
    exact ⟨_, Flow.counter_ofInt_exhausted smallA smallB smallT nonzeroT positive⟩
  · exact run.not_of_stalled (Flow.advance_counter_of_lost lost inside)
  · -- after the entry, each step sends the start again and opens the body at the same counter
    cases fuel with
    | zero => exact ⟨ctx, rfl⟩
    | succ fuel =>
        rw [Flow.runFrom_succ_of_next fuel entered]
        exact Flow.runFrom_stalled wf outlet bodyExit outFound walks unwired
          (Flow.advance_counter_of_lost lost inside) fuel emitted

/-- A counting loop from `2^53` to `2^53 + 2` by one, with a body that leads nowhere, runs for
ever: one added to `2^53` is lost in rounding. -/
theorem for_from_two_pow_53_runs_forever :
    let f : FlowFunction :=
      { symbol := "main", entry := ⟨0, 0⟩,
        graph := Graph.build 0 "main" [.addFor,
          .setDefault ⟨0, 0⟩ (.number 9007199254740992),
          .setDefault ⟨0, 1⟩ (.number 9007199254740994), .setDefault ⟨0, 2⟩ (.number 1)] }
    let s : Scope := ⟨f.graph, standard.builtins⟩
    ∀ fuel, ∃ after, (Flow.runFrom s fuel (.arrive ⟨0, 0⟩)).run.run {} = (.ok none, after) := by
  intro f s
  have reads : Flow.ReadsBounds f.graph ⟨0, 0⟩ ⟨0, 1⟩ ⟨0, 2⟩ {} 9007199254740992 9007199254740994
      1 {} :=
    ⟨{}, {}, rfl, rfl, rfl⟩
  obtain ⟨x, bodyExit, leaves⟩ :=
    for_leaves_iff_counter_runs_out 0 "main" _ (i := standard) (f := f) rfl (m := ⟨0, 0⟩) rfl rfl
  have unwired : x.target = none := by
    cases bodyExit
    rfl
  obtain ⟨-, -, -, -, -, -, forever⟩ := leaves reads (by decide) (by decide)
  exact forever Flow.two_pow_53_add_one unwired

/-- A call whose run, from where its preparation sends control, ends neither with a result nor
with a failure within the fuel runs out of steps. -/
theorem executeWithin_of_runFrom_none {i : Interpreter} {f : FlowFunction} {args : List Value}
    {fuel : Nat} {first : EnterId} {ctx after : Context}
    (prepared : (Flow.prepare ⟨f.graph, i.builtins⟩ i.settings.validateArguments f args).run.run
      (Context.start f.locals) = (.ok first, ctx))
    (ran : (Flow.runFrom ⟨f.graph, i.builtins⟩ fuel (.arrive first)).run.run ctx =
      (.ok none, after)) :
    i.executeWithin fuel f args = .exhausted := by
  unfold executeWithin
  dsimp only
  rw [Flow.invoke_run_of_prepared fuel prepared, ran]

/-- A call whose entry leads to a counting loop from `2^53` to `2^53 + 2` by one, with a body that
leads nowhere and an end after the loop, never returns: the loop's counter stays at `2^53`, and
the call runs out of steps. -/
theorem for_past_two_pow_53_exhausts :
    let f : FlowFunction :=
      { symbol := "main", entry := ⟨0, 0⟩,
        graph := Graph.build 0 "main" [.addEntry [], .addFor, .addEnd none,
          .connectNodes ⟨0, 0⟩ 0 ⟨0, 1⟩ 0, .connectNodes ⟨0, 1⟩ 1 ⟨0, 2⟩ 0,
          .setDefault ⟨0, 0⟩ (.number 9007199254740992),
          .setDefault ⟨0, 1⟩ (.number 9007199254740994), .setDefault ⟨0, 2⟩ (.number 1)] }
    standard.execute f [] = .exhausted := by
  intro f
  let s : Scope := ⟨f.graph, standard.builtins⟩
  have wf : s.graph.WellFormed := Graph.build_wellFormed 0 "main" _
  have prepared : (Flow.prepare s standard.settings.validateArguments f []).run.run
      (Context.start f.locals) = (.ok ⟨0, 0⟩, Context.start f.locals) := rfl
  obtain ⟨F, found, kind⟩ : ∃ F, s.graph.node? ⟨0, 1⟩ = some F ∧
      F.kind = .forLoop ⟨0, 0⟩ ⟨0, 1⟩ ⟨0, 2⟩ ⟨0, 0⟩ ⟨⟨0, 0⟩, ⟨0, 1⟩, ⟨0, 1⟩, ⟨0, 2⟩⟩ :=
    ⟨_, rfl, rfl⟩
  obtain ⟨x, bodyExit, unwired⟩ : ∃ x, s.graph.exit? ⟨0, 1⟩ = some x ∧ x.target = none :=
    ⟨_, rfl, rfl⟩
  have outlet : F.kind.outlet? = some (⟨0, 0⟩, ⟨⟨0, 0⟩, ⟨0, 1⟩, ⟨0, 1⟩, ⟨0, 2⟩⟩) := by
    rw [kind]
    rfl
  obtain ⟨⟨q, outFound⟩, -⟩ := wf.outlet_ports found outlet
  have reads : Flow.ReadsBounds s.graph ⟨0, 0⟩ ⟨0, 1⟩ ⟨0, 2⟩ (Context.start f.locals)
      9007199254740992 9007199254740994 1 (Context.start f.locals) :=
    ⟨_, _, rfl, rfl, rfl⟩
  have inside : Flow.inRange 9007199254740992 9007199254740994 1 = true := by decide
  obtain ⟨emitted, sent, -⟩ :=
    Flow.output_run_ok wf outFound (.number 9007199254740992) (Context.start f.locals)
  have entered := Flow.step_for_enter_inside wf found kind reads (by decide) inside sent
  have walks : F.kind.Walks (.counter 9007199254740992 9007199254740994 1) := by
    rw [kind]
    trivial
  -- the entry opens the body at `2^53`, and from there the loop turns at the same counter
  obtain ⟨after, ran⟩ := Flow.runFrom_stalled wf outlet bodyExit outFound walks unwired
    (Flow.advance_counter_of_lost Flow.two_pow_53_add_one inside) (stepBudget - 1) emitted
  have budget : stepBudget = (stepBudget - 1) + 1 := (Nat.sub_add_cancel (by decide)).symm
  have exhausted : (Flow.runFrom s stepBudget (.arrive ⟨0, 0⟩)).run.run (Context.start f.locals) =
      (.ok none, after) := by
    rw [budget, Flow.runFrom_succ_of_next _ entered, ran]
  exact executeWithin_of_runFrom_none prepared exhausted

end Interpreter

end Blueprint
