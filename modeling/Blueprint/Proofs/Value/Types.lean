import Blueprint.Value.Basic

/-!
# The type a value carries, and the values it admits

`Value.dataType` reads the item type of an array off its first item, while `DataType.accepts`
admits an array only when the item type admits every item. A value is therefore admitted by
its own type when its arrays are uniform, every item carrying the type of the others at every
depth (`accepts_dataType_of_uniform`). An array whose later items carry another type than the
first is not admitted by its own type (`dataType_rejects_mixed_array`).
-/

namespace Blueprint

namespace DataType

/-- A type admits a list of values when it admits each of them. -/
theorem acceptsAll_iff (t : DataType) (vs : List Value) :
    acceptsAll t vs = true ↔ ∀ v ∈ vs, t.accepts v = true := by
  induction vs with
  | nil => simp [acceptsAll]
  | cons v vs ih => simp [acceptsAll, ih]

@[simp] theorem accepts_array (item : DataType) (items : List Value) :
    (array item).accepts (.array items) = true ↔ ∀ v ∈ items, item.accepts v = true := by
  rw [accepts, acceptsAll_iff]

end DataType

namespace Value

/-- A value whose arrays are uniform: at every depth, the items of an array all carry one type
and are uniform themselves. -/
inductive Uniform : Value → Prop
  | bool (b : Bool) : Uniform (.bool b)
  | number (x : Float) : Uniform (.number x)
  | text (s : String) : Uniform (.text s)
  | entity (e : EntityRef) : Uniform (.entity e)
  | array (items : List Value) (same : ∀ v ∈ items, ∀ w ∈ items, v.dataType = w.dataType)
      (each : ∀ v ∈ items, Uniform v) : Uniform (.array items)

/-- A uniform value is admitted by its own type. The induction follows `Uniform`; at an array,
the type of the first item is the type of every item, so each item is admitted by it as by its
own type. -/
theorem accepts_dataType_of_uniform {v : Value} (uniform : v.Uniform) :
    v.dataType.accepts v = true := by
  induction uniform with
  | bool b => rfl
  | number x => rfl
  | text s => rfl
  | entity e => simp [dataType, DataType.accepts]
  | array items same each ih =>
    cases items with
    | nil => rfl
    | cons first rest =>
      rw [dataType, DataType.accepts_array]
      intro w member
      rw [same first List.mem_cons_self w member]
      exact ih w member

/-- An array of two numbers is uniform, and so admitted by its type. -/
theorem accepts_dataType_of_two_numbers :
    (Value.array [.number 1, .number 2]).Uniform ∧
      (Value.array [.number 1, .number 2]).dataType.accepts (.array [.number 1, .number 2]) =
        true :=
  have uniform : (Value.array [.number 1, .number 2]).Uniform :=
    .array _ (by decide) (by
      intro v member
      simp only [List.mem_cons, List.not_mem_nil, or_false] at member
      rcases member with rfl | rfl <;> exact .number _)
  ⟨uniform, accepts_dataType_of_uniform uniform⟩

/-- An array is typed by its first item: `[1, "a"]` has the type of arrays of numbers, which
does not admit the text `"a"`, so the array is not admitted by its own type. -/
theorem dataType_rejects_mixed_array :
    (Value.array [.number 1, .text "a"]).dataType.accepts (.array [.number 1, .text "a"]) =
      false := by
  decide

end Value

end Blueprint
