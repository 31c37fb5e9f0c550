import Blueprint.Ron.Number

/-!
# Values in RON text

A value is one of these, tried in this order: a boolean; an optional value `Some(v)`, with
an optional trailing comma; one of the words `None`, `inf` and `NaN` (the latter two with
an optional width suffix) or the unit `()`; an identifier, alone or followed by a
parenthesised group; a parenthesised group, a list in brackets or a map in braces; a
number; a text or byte text, plain or raw; a byte or a character literal.

A parenthesised group holds named fields when an identifier and a colon open it, and
plain values otherwise. Items are separated by commas, and a comma may follow the last.

Nesting is bounded. Every group takes one level for itself and one more for each item,
key and value inside it, and `Some` takes one; a value that needs more than
`nestingLimit` levels is refused.

The order of trials, the look-ahead inside `Some` and the count of levels are those of the
`ron` library, version 0.9, whose reading of a value these readers follow.
-/

namespace Blueprint.Ron

/-- The extensions that change how values are read: with `implicitSome` an optional value
may stand without `Some(...)` around it; with `unwrapVariantNewtypes` the parentheses of
`Some(...)` may hold named fields or several values directly; and with
`explicitStructNames` a record must carry its name. -/
structure Extensions where
  implicitSome : Bool := false
  unwrapVariantNewtypes : Bool := false
  explicitStructNames : Bool := false
deriving Repr, DecidableEq

/-- How many nested levels a value may take. -/
def nestingLimit : Nat := 128

/-- One nesting level further down, unless the limit is reached. -/
def deeper (depth : Nat) : Option Nat :=
  if depth < nestingLimit then some (depth + 1) else none

/-- Reads an optional comma between blanks, answering whether there was one. -/
def comma (cs : List Char) : Option (Bool × List Char) := do
  match ← skipBlanks cs with
  | ',' :: rest => pure (true, ← skipBlanks rest)
  | rest => pure (false, rest)

/-- Reads the colon between a key and its value, with the blanks around it. -/
def colon (cs : List Char) : Option (List Char) := do
  match ← skipBlanks cs with
  | ':' :: rest => skipBlanks rest
  | _ => none

/-- Whether the inside of a parenthesised group opens with an identifier and a colon,
so that it holds named fields. -/
def opensNamedFields (inner : List Char) : Option Bool := do
  let cs ← skipBlanks inner
  match skipIdentifier? cs with
  | some rest => pure ((← skipBlanks rest).head? == some ':')
  | none => pure false

/-- The words that are whole values: the booleans, the absent value, and the infinite
and undefined decimals, alone or with a width suffix. -/
def valueWords : List String :=
  ["true", "false", "None", "inf", "inff64", "inff32", "NaN", "NaNf64", "NaNf32"]

/-- Skips a word that is a whole value, or the unit value `()`. -/
def skipWordValue? (cs : List Char) : Option (List Char) :=
  if opens "()" cs then some (cs.drop 2) else valueWords.findSome? (word? · cs)

/-- Skips a text, raw text or character literal where one starts, and nothing elsewhere. -/
def skipLiteralAhead (cs : List Char) : Option (List Char) :=
  match cs with
  | '\'' :: rest => skipCharacter rest
  | '"' :: rest => skipQuoted false rest
  | 'r' :: '"' :: _ | 'r' :: '#' :: _ => skipRaw cs.tail
  | _ => some cs

/-- Looks ahead, character by character, for a comma at the outermost bracket level
`depth` before the closing bracket, answering whether another item follows it. Blanks
and comments are skipped before each character, and a text or character literal that
starts there is skipped whole; the character right after a literal is taken as it is,
even where it opens a comment. -/
def scanSeveral : Nat → Nat → List Char → Option Bool
  | 0, _, _ => none
  | fuel + 1, depth, cs => do
    match ← skipLiteralAhead (← skipBlanks cs) with
    | [] => none
    | c :: rest =>
      if c = '(' || c = '[' || c = '{' then scanSeveral fuel (depth + 1) rest
      else if c = ')' || c = ']' || c = '}' then
        if depth ≤ 1 then pure false else scanSeveral fuel (depth - 1) rest
      else if c = ',' && depth = 1 then do
        pure ((← skipBlanks rest).head? != some ')')
      else scanSeveral fuel depth rest

/-- What the parentheses of `Some(...)` hold under the extension `unwrapVariantNewtypes`:
nothing, named fields, several values, or a single value. -/
inductive Unwrapped where
  | empty
  | fields
  | several
  | single

/-- Decides what the parentheses of `Some(...)` hold, from the text after the opening
parenthesis and its blanks. A leading identifier decides at once when a colon, a comma or
the closing parenthesis follows it; otherwise the look-ahead of `scanSeveral` does. -/
def unwrappedShape? (cs : List Char) : Option Unwrapped := do
  if cs.head? == some ')' then return .empty
  let cs ← skipBlanks cs
  let ahead (r : List Char) : Option Unwrapped :=
    (fun more => if more then Unwrapped.several else Unwrapped.single) <$>
      scanSeveral (r.length + 1) 1 r
  match skipIdentifier? cs with
  | some afterName =>
    match ← skipBlanks afterName with
    | ':' :: _ => pure .fields
    | ',' :: more => pure (if (← skipBlanks more).head? == some ')' then .single else .several)
    | ')' :: _ => pure .single
    | r => ahead r
  | none => ahead cs

/-- What the items of a group are: plain values, keys with values, or named fields. -/
inductive Items where
  | values
  | entries
  | fields

mutual

/-- Skips one value of any shape at nesting level `depth`. Every reading below takes one
unit of `fuel`. -/
def skipValue (ext : Extensions) : Nat → Nat → List Char → Option (List Char)
  | 0, _, _ => none
  | fuel + 1, depth, cs =>
    match word? "Some" cs with
    | some rest => skipSome ext fuel depth rest
    | none =>
    match skipWordValue? cs with
    | some rest => some rest
    | none =>
    match skipIdentifier? cs with
    | some rest => do skipAfterName ext fuel depth (← skipBlanks rest)
    | none =>
    match cs with
    | '(' :: _ => skipAfterName ext fuel depth cs
    | '[' :: rest => skipGroup ext fuel depth .values ']' rest
    | '{' :: rest => skipGroup ext fuel depth .entries '}' rest
    | '"' :: rest => skipQuoted false rest
    | 'r' :: rest => skipRaw rest
    | 'b' :: '\'' :: _ => skipNumber? cs
    | 'b' :: '"' :: rest => skipQuoted true rest
    | 'b' :: 'r' :: rest => skipRaw rest
    | '\'' :: rest => skipCharacter rest
    | c :: _ =>
      if c.isDigit || c = '+' || c = '-' || c = '.' then skipNumber? cs else none
    | [] => none

/-- Skips an optional value after the word `Some`: a value in parentheses with an
optional trailing comma, or with the extension `implicitSome` a bare value. -/
def skipSome (ext : Extensions) : Nat → Nat → List Char → Option (List Char)
  | 0, _, _ => none
  | fuel + 1, depth, cs => do
    let inner ← deeper depth
    match ← skipBlanks cs with
    | '(' :: rest =>
      let rest ← skipBlanks rest
      let rest ←
        if ext.unwrapVariantNewtypes then skipUnwrapped ext fuel inner rest
        else skipValue ext fuel inner rest
      let (_, rest) ← comma rest
      match rest with
      | ')' :: rest => pure rest
      | _ => none
    | rest => if ext.implicitSome then skipValue ext fuel inner rest else none

/-- Skips what the parentheses of `Some(...)` hold under the extension
`unwrapVariantNewtypes`, stopping before the closing parenthesis. Named fields and several
values form a group of their own, which takes its nesting levels; a single value is read
as it stands. -/
def skipUnwrapped (ext : Extensions) : Nat → Nat → List Char → Option (List Char)
  | 0, _, _ => none
  | fuel + 1, depth, cs => do
    match ← unwrappedShape? cs with
    | .empty => pure cs
    | .fields => skipBlanks (← skipItems ext fuel (← deeper depth) .fields ')' true cs)
    | .several => skipBlanks (← skipItems ext fuel (← deeper depth) .values ')' true cs)
    | .single => skipValue ext fuel depth cs

/-- Skips what may follow a name: a parenthesised group of named fields or of values,
or nothing, where the name alone is the value. -/
def skipAfterName (ext : Extensions) : Nat → Nat → List Char → Option (List Char)
  | 0, _, _ => none
  | fuel + 1, depth, cs =>
    match cs with
    | '(' :: inner => do
      let items := if ← opensNamedFields inner then Items.fields else Items.values
      skipGroup ext fuel depth items ')' inner
    | _ => some cs

/-- Skips a group after its opening bracket, up to and with the bracket `close`. -/
def skipGroup (ext : Extensions) : Nat → Nat → Items → Char → List Char → Option (List Char)
  | 0, _, _, _, _ => none
  | fuel + 1, depth, items, close, cs => do
    let inner ← deeper depth
    match ← skipBlanks (← skipItems ext fuel inner items close true cs) with
    | c :: rest => if c = close then some rest else none
    | [] => none

/-- Skips the items of a group, stopping before its closing bracket `close`; `hadComma`
says whether a comma, or the opening bracket, came last, so that an item may follow. -/
def skipItems (ext : Extensions) :
    Nat → Nat → Items → Char → Bool → List Char → Option (List Char)
  | 0, _, _, _, _, _ => none
  | fuel + 1, depth, items, close, hadComma, cs => do
    let cs ← skipBlanks cs
    if cs.head? == some close then pure cs
    else if !hadComma then none
    else
      let itemDepth ← deeper depth
      let rest ← match items with
        | .values => skipValue ext fuel itemDepth cs
        | .entries => do
          skipValue ext fuel itemDepth (← colon (← skipValue ext fuel itemDepth cs))
        | .fields => do
          let (_, afterName) ← identifier? cs
          skipValue ext fuel itemDepth (← colon afterName)
      let (hadComma, rest) ← comma rest
      skipItems ext fuel depth items close hadComma rest

end

/-- Fuel enough to skip a value in a text: every reading starts at its own character or
goes on to the next item of a group. -/
def valueFuel (cs : List Char) : Nat :=
  8 * cs.length + 8

end Blueprint.Ron
