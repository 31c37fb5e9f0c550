/-!
# Values and data types

The values that flow through data ports: booleans, double-precision numbers, text,
arrays of values and references to entities of the game model. A data type describes
which values a port admits. This module holds both, together with the kind of a value,
the type a value carries, truthiness and the language's equality, under which numbers
compare as doubles (NaN differs from itself, and the two zeros are equal).
-/

namespace Blueprint

/-- The type of values a port admits. -/
inductive DataType where
  | boolean
  | number
  | text
  /-- no value at all; only a function's return type uses it -/
  | void
  | array (item : DataType)
  | entity (kind : String)
  | any
deriving Repr, DecidableEq, Inhabited

/-- A reference to an entity of a named kind, by its identifier within that kind. -/
structure EntityRef where
  kind : String
  id : UInt64
deriving Repr, DecidableEq, Inhabited

/-- A value that flows through a data port. -/
inductive Value where
  | bool (b : Bool)
  | number (x : Float)
  | text (s : String)
  | array (items : List Value)
  | entity (e : EntityRef)
deriving Repr, Inhabited

namespace Value

/-- The name of a value's kind, as error messages write it. -/
def kindName : Value → String
  | .bool _ => "boolean"
  | .number _ => "number"
  | .text _ => "text"
  | .array _ => "array"
  | .entity _ => "entity"

/-- The type a value carries; an array takes the type of its first item, or `any` when
it is empty. -/
def dataType : Value → DataType
  | .bool _ => .boolean
  | .number _ => .number
  | .text _ => .text
  | .array [] => .array .any
  | .array (first :: _) => .array first.dataType
  | .entity e => .entity e.kind

/-- Whether a value counts as true: `true`, a number other than zero and NaN, a
non-empty text, and every array and entity. -/
def truthy : Value → Bool
  | .bool b => b
  | .number x => x != 0.0 && !x.isNaN
  | .text s => !s.isEmpty
  | .array _ => true
  | .entity _ => true

/-- The boolean of a boolean value. -/
def asBool? : Value → Option Bool
  | .bool b => some b
  | _ => none

/-- The number of a number value. -/
def asNumber? : Value → Option Float
  | .number x => some x
  | _ => none

/-- The text of a text value. -/
def asText? : Value → Option String
  | .text s => some s
  | _ => none

/-- The items of an array value. -/
def asArray? : Value → Option (List Value)
  | .array items => some items
  | _ => none

mutual

/-- The language's equality: same kind and same contents, numbers compared as doubles,
arrays item by item. -/
def beq : Value → Value → Bool
  | .bool a, .bool b => a == b
  | .number a, .number b => a == b
  | .text a, .text b => a == b
  | .array as, .array bs => beqItems as bs
  | .entity a, .entity b => a == b
  | _, _ => false

/-- Item-by-item equality of two lists of values of the same length. -/
def beqItems : List Value → List Value → Bool
  | [], [] => true
  | a :: as, b :: bs => beq a b && beqItems as bs
  | _, _ => false

end

instance : BEq Value := ⟨beq⟩

end Value

namespace DataType

mutual

/-- Whether a type admits a value: `any` admits all, an array type the arrays whose
items it all admits, an entity type the entities of its kind, `void` nothing. -/
def accepts : DataType → Value → Bool
  | .any, _ => true
  | .boolean, .bool _ => true
  | .number, .number _ => true
  | .text, .text _ => true
  | .array item, .array items => acceptsAll item items
  | .entity kind, .entity e => kind == e.kind
  | _, _ => false

/-- Whether a type admits every value of a list. -/
def acceptsAll : DataType → List Value → Bool
  | _, [] => true
  | t, v :: vs => accepts t v && acceptsAll t vs

end

end DataType

end Blueprint
