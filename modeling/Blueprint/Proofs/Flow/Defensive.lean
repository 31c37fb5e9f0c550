import Blueprint.Flow.Run

/-!
# Defensive failures

Four failures guard a run against states that a graph built by its own operations should
never produce: popping an empty stack, resuming a node that opens no sub-flow, entering a
node through a port it does not own, and meeting a handle or a flow state that the run did
not make. This module names them and shows that the parts of a run that look neither at the
graph nor at the stack never raise them: an operator fails only on an operand it does not
support, and the functions of the standard registry only on arguments of the wrong kind.
-/

namespace Blueprint

/-- Whether a failure is one of the four that guard against a corrupt graph or stack. -/
def Fault.isDefensive : Fault → Bool
  | .emptyStack | .notResumable _ | .invalidEnter _ | .foreignObject _ => true
  | _ => false

/-- A result that is no defensive failure. -/
def Mild {α : Type} : Except Fault α → Prop
  | .ok _ => True
  | .error e => e.isDefensive = false

section Results

variable {α β : Type} {e : Fault}

theorem mild_bind {x : Except Fault α} {f : α → Except Fault β} (first : Mild x)
    (rest : ∀ a, x = .ok a → Mild (f a)) : Mild (x >>= f) := by
  cases x with
  | error e => exact first
  | ok a => exact rest a rfl

/-- A bind whose continuation cannot fail fails only where its first part does. -/
theorem eq_error_of_bind {x : Except Fault α} {f : α → Except Fault β}
    (failed : x >>= f = .error e) (succeeds : ∀ a, ∃ b, f a = .ok b) : x = .error e := by
  cases x with
  | error e' => exact congrArg Except.error (Except.error.inj failed)
  | ok a =>
      obtain ⟨b, ok⟩ := succeeds a
      exact absurd (ok.symm.trans failed) nofun

end Results

/-! ## Operators -/

section Operators

variable {e : Fault}

theorem UnaryOp.numberOf_eq_error {op : UnaryOp} {v : Value}
    (failed : op.numberOf v = .error e) : e = op.unsupported v := by
  unfold UnaryOp.numberOf at failed
  split at failed
  · exact nomatch failed
  · exact nomatch failed
  · exact nomatch failed
  · exact (Except.error.inj failed).symm

/-- A unary operator fails only on an operand it does not support. -/
theorem UnaryOp.apply_eq_error {op : UnaryOp} {v : Value}
    (failed : op.apply v = .error e) : ∃ w, e = op.unsupported w := by
  cases op with
  | toText | toBoolean => exact nomatch failed
  | toNumber | toInteger =>
      exact ⟨v, UnaryOp.numberOf_eq_error (eq_error_of_bind failed fun _ => ⟨_, rfl⟩)⟩
  | logicalNot =>
      cases v with
      | bool _ => exact nomatch failed
      | number _ | text _ | array _ | entity _ => exact ⟨_, (Except.error.inj failed).symm⟩
  | bitNot | negate =>
      cases v with
      | number _ => exact nomatch failed
      | bool _ | text _ | array _ | entity _ => exact ⟨_, (Except.error.inj failed).symm⟩

theorem BinaryOp.numbers_eq_error {op : BinaryOp} {a b : Value}
    (failed : op.numbers a b = .error e) : ∃ w, e = op.unsupported w := by
  unfold BinaryOp.numbers at failed
  split at failed
  · exact nomatch failed
  · exact ⟨_, (Except.error.inj failed).symm⟩
  · exact ⟨_, (Except.error.inj failed).symm⟩

theorem BinaryOp.texts_eq_error {op : BinaryOp} {a b : Value}
    (failed : op.texts a b = .error e) : ∃ w, e = op.unsupported w := by
  unfold BinaryOp.texts at failed
  split at failed
  · exact nomatch failed
  · exact ⟨_, (Except.error.inj failed).symm⟩
  · exact ⟨_, (Except.error.inj failed).symm⟩

theorem BinaryOp.booleans_eq_error {op : BinaryOp} {a b : Value}
    (failed : op.booleans a b = .error e) : ∃ w, e = op.unsupported w := by
  unfold BinaryOp.booleans at failed
  split at failed
  · exact nomatch failed
  · exact ⟨_, (Except.error.inj failed).symm⟩
  · exact ⟨_, (Except.error.inj failed).symm⟩

/-- A binary operator fails only on an operand it does not support: equality and
concatenation take any two values, the others fail where their operands are read. -/
theorem BinaryOp.apply_eq_error {op : BinaryOp} {a b : Value}
    (failed : op.apply a b = .error e) : ∃ w, e = op.unsupported w := by
  cases op with
  | equal | notEqual | concat => exact nomatch failed
  | add | subtract | multiply | divide | intDivide | modulus | power | bitAnd | bitOr | bitXor
  | lessThan | lessEqual | greaterThan | greaterEqual =>
      exact BinaryOp.numbers_eq_error (eq_error_of_bind failed fun _ => ⟨_, rfl⟩)
  | textLessThan | textLessEqual | textGreaterThan | textGreaterEqual =>
      exact BinaryOp.texts_eq_error (eq_error_of_bind failed fun _ => ⟨_, rfl⟩)
  | logicalAnd | logicalOr =>
      exact BinaryOp.booleans_eq_error (eq_error_of_bind failed fun _ => ⟨_, rfl⟩)

theorem UnaryOp.apply_mild (op : UnaryOp) (v : Value) : Mild (op.apply v) := by
  cases applied : op.apply v with
  | ok _ => trivial
  | error e =>
      obtain ⟨_, rfl⟩ := UnaryOp.apply_eq_error applied
      rfl

theorem BinaryOp.apply_mild (op : BinaryOp) (a b : Value) : Mild (op.apply a b) := by
  cases applied : op.apply a b with
  | ok _ => trivial
  | error e =>
      obtain ⟨_, rfl⟩ := BinaryOp.apply_eq_error applied
      rfl

end Operators

/-! ## Builtin functions -/

/-- A builtin function that never fails defensively. -/
def Builtin.Tame (b : Builtin) : Prop :=
  ∀ args, Mild (b.run args)

/-- A registry all of whose functions are tame. -/
def Registry.Tame (r : Registry) : Prop :=
  ∀ entry ∈ r.entries, entry.2.Tame

namespace Builtin

theorem numberArg_mild (args : List Value) (index : Nat) : Mild (numberArg args index) := by
  unfold numberArg
  split <;> trivial

theorem textArg_mild (args : List Value) (index : Nat) : Mild (textArg args index) := by
  unfold textArg
  split <;> trivial

theorem pi_tame : pi.Tame := fun _ => trivial

theorem abs_tame : abs.Tame := fun args =>
  mild_bind (numberArg_mild args 0) fun _ _ => trivial

theorem min_tame : min.Tame := fun args =>
  mild_bind (numberArg_mild args 0) fun _ _ => mild_bind (numberArg_mild args 1) fun _ _ => trivial

theorem max_tame : max.Tame := fun args =>
  mild_bind (numberArg_mild args 0) fun _ _ => mild_bind (numberArg_mild args 1) fun _ _ => trivial

theorem indexOf_tame : indexOf.Tame := fun args =>
  mild_bind (textArg_mild args 0) fun _ _ => mild_bind (textArg_mild args 1) fun _ _ => trivial

theorem slice_tame : slice.Tame := fun args =>
  mild_bind (textArg_mild args 0) fun _ _ => mild_bind (numberArg_mild args 1) fun _ _ =>
    mild_bind (numberArg_mild args 2) fun _ _ => trivial

theorem split_tame : split.Tame := fun args =>
  mild_bind (textArg_mild args 0) fun _ _ => mild_bind (textArg_mild args 1) fun _ _ => trivial

theorem length_tame : length.Tame := by
  intro args
  unfold length
  dsimp only
  split <;> trivial

end Builtin

namespace Registry

theorem empty_tame : empty.Tame := nofun

/-- Registering a tame function keeps a registry tame, whether it replaces an earlier one
or comes last. -/
theorem Tame.register {r : Registry} (tame : r.Tame) (symbol : String) {b : Builtin}
    (fresh : b.Tame) : (r.register symbol b).Tame := by
  intro entry member
  unfold Registry.register at member
  split at member
  · obtain ⟨old, listed, rfl⟩ := List.mem_map.mp member
    split
    · exact fresh
    · exact tame old listed
  · rcases List.mem_append.mp member with listed | added
    · exact tame entry listed
    · rw [List.mem_singleton.mp added]
      exact fresh

theorem standard_tame : standard.Tame :=
  empty_tame
    |>.register "PI" Builtin.pi_tame
    |>.register "abs" Builtin.abs_tame
    |>.register "min" Builtin.min_tame
    |>.register "max" Builtin.max_tame
    |>.register "indexOf" Builtin.indexOf_tame
    |>.register "slice" Builtin.slice_tame
    |>.register "split" Builtin.split_tame
    |>.register "length" Builtin.length_tame

/-- The two registries a call may be given, the standard one and the empty one, are tame. -/
theorem tame_of_standard_or_empty {r : Registry} (registry : r = standard ∨ r = empty) :
    r.Tame := by
  rcases registry with rfl | rfl
  · exact standard_tame
  · exact empty_tame

/-- A call into a tame registry fails only as an unknown symbol, a wrong number of
arguments, or a function that rejects its arguments, never defensively. -/
theorem Tame.call_mild {r : Registry} (tame : r.Tame) (symbol : String) (args : List Value) :
    Mild (r.call symbol args) := by
  unfold Registry.call
  cases found : r.get? symbol with
  | none => rfl
  | some b =>
      obtain ⟨entry, first, rfl⟩ := Option.map_eq_some_iff.mp found
      show Mild (if args.length ≠ entry.2.arity then _ else entry.2.run args)
      split
      · rfl
      · exact tame entry (List.mem_of_find?_eq_some first) args

end Registry

end Blueprint
