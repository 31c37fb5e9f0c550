/-!
# Maps in arrival order

A finite map that lists its keys in the order they first arrived. Storing a key that
is already present replaces its value and keeps its place; a new key goes last. Both
the values a run leaves on output ports and the symbol table are kept this way, since
their order shows in a failure's snapshot.

The lemmas say what storing does to a look-up and to the list of keys.
-/

namespace Blueprint

/-- A finite map listing its keys in order of first arrival. -/
structure OrderedMap (κ : Type) (α : Type) where
  entries : List (κ × α)
deriving Repr, Inhabited

namespace OrderedMap

variable {κ α : Type} [BEq κ]

/-- The value of the first entry with a key. -/
def lookup (k : κ) : List (κ × α) → Option α
  | [] => none
  | e :: rest => if e.1 == k then some e.2 else lookup k rest

/-- Entries with a value stored under a key: in the place of the first entry with that
key, or else last. -/
def store (k : κ) (v : α) : List (κ × α) → List (κ × α)
  | [] => [(k, v)]
  | e :: rest => if e.1 == k then (k, v) :: rest else e :: store k v rest

/-- The map without keys. -/
def empty : OrderedMap κ α := ⟨[]⟩

/-- Whether a key is present. -/
def contains (m : OrderedMap κ α) (k : κ) : Bool :=
  m.entries.any (·.1 == k)

/-- The value stored under a key. -/
def get? (m : OrderedMap κ α) (k : κ) : Option α :=
  lookup k m.entries

/-- Stores a value under a key: in the key's place if it is present, else last. -/
def insert (m : OrderedMap κ α) (k : κ) (v : α) : OrderedMap κ α :=
  ⟨store k v m.entries⟩

/-- The keys in order of first arrival. -/
def keys (m : OrderedMap κ α) : List κ :=
  m.entries.map (·.1)

/-- The map of a list of pairs, stored one after another; a repeated key keeps its
first place and takes its last value. -/
def ofList (pairs : List (κ × α)) : OrderedMap κ α :=
  pairs.foldl (fun m e => m.insert e.1 e.2) empty

section Lemmas

variable [LawfulBEq κ]

theorem lookup_store_self (k : κ) (v : α) (es : List (κ × α)) :
    lookup k (store k v es) = some v := by
  induction es with
  | nil => simp [store, lookup]
  | cons e rest ih =>
    by_cases h : e.1 == k
    · simp [store, lookup, h]
    · simp [store, lookup, h, ih]

theorem lookup_store_of_ne {k k' : κ} (v : α) (h : k ≠ k') (es : List (κ × α)) :
    lookup k' (store k v es) = lookup k' es := by
  induction es with
  | nil => simp [store, lookup, h]
  | cons e rest ih =>
    by_cases he : e.1 == k
    · have hk : e.1 = k := beq_iff_eq.mp he
      simp [store, lookup, hk, h]
    · simp [store, lookup, he, ih]

theorem keys_store (k : κ) (v : α) (es : List (κ × α)) :
    (store k v es).map (·.1) = if es.any (·.1 == k) then es.map (·.1) else es.map (·.1) ++ [k] := by
  induction es with
  | nil => simp [store]
  | cons e rest ih =>
    by_cases h : e.1 == k
    · simp [store, beq_iff_eq.mp h]
    · simp only [store, h, Bool.false_eq_true, if_false, List.map_cons, List.any_cons,
        Bool.false_or, ih]
      split <;> simp

/-- A look-up of the key just stored finds its value. -/
@[simp] theorem get?_insert_self (m : OrderedMap κ α) (k : κ) (v : α) :
    (m.insert k v).get? k = some v :=
  lookup_store_self k v m.entries

/-- Storing under one key leaves the look-up of another alone. -/
@[simp] theorem get?_insert_of_ne (m : OrderedMap κ α) {k k' : κ} (v : α) (h : k ≠ k') :
    (m.insert k v).get? k' = m.get? k' :=
  lookup_store_of_ne v h m.entries

/-- Storing keeps the keys and their order, and puts a new key last. -/
theorem keys_insert (m : OrderedMap κ α) (k : κ) (v : α) :
    (m.insert k v).keys = if m.contains k then m.keys else m.keys ++ [k] :=
  keys_store k v m.entries

end Lemmas

end OrderedMap

end Blueprint
