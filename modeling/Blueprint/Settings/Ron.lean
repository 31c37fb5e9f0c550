import Blueprint.Settings.Basic
import Blueprint.Ron.Value

/-!
# Settings as RON text

Settings are written as a named record, one field a line:

    InterpreterConfig(
        log_steps: false,
        validate_arguments: true,
    )

Reading takes the record with or without its name, after any number of attributes
`#![enable(...)]` that turn on extensions of the notation; with `explicit_struct_names`
the name must stand. Fields come in any order, each known one at most once with a
boolean value; a field of another name is skipped if its value is well formed. Blanks
and comments may stand between all tokens, a comma may follow the last field, and
nothing but blanks and comments may follow the record. A missing field keeps its
default.

Reading and writing follow the `ron` library, version 0.9, with the field rules of a record
read through it: a known field given twice is an error, an unknown one is skipped, a missing
one keeps its default. The readers of `Blueprint.Ron` stand for that library's parser.
-/

namespace Blueprint

namespace Ron

/-- The names of the extensions that an attribute may turn on. -/
def extensionNames : List String :=
  ["unwrap_newtypes", "implicit_some", "unwrap_variant_newtypes", "explicit_struct_names"]

/-- Turns on an extension by its name; those that change nothing in reading settings
leave them as they are. -/
def Extensions.enable (ext : Extensions) (name : String) : Extensions :=
  if name = "implicit_some" then { ext with implicitSome := true }
  else if name = "unwrap_variant_newtypes" then { ext with unwrapVariantNewtypes := true }
  else if name = "explicit_struct_names" then { ext with explicitStructNames := true }
  else ext

/-- Reads fixed tokens, each followed by blanks. -/
def tokens? : List String → List Char → Option (List Char)
  | [], cs => some cs
  | t :: ts, cs => if opens t cs then do tokens? ts (← skipBlanks (cs.drop t.length)) else none

/-- Reads the names of extensions in an attribute, separated by commas with an optional
trailing one, and turns each on. -/
def extensionList : Nat → Extensions → List Char → Option (Extensions × List Char)
  | 0, _, _ => none
  | fuel + 1, ext, cs => do
    let (name, rest) ← identifier? cs
    if !extensionNames.contains name then none
    let (hadComma, rest) ← comma rest
    let another := match rest with
      | c :: _ => Text.isIdentContinue c
      | [] => false
    if hadComma && another then extensionList fuel (ext.enable name) rest
    else if another then none
    else pure (ext.enable name, rest)

/-- Reads one attribute `#![enable(...)]`, with blanks allowed between its tokens. -/
def attribute? (ext : Extensions) (cs : List Char) : Option (Extensions × List Char) := do
  let cs ← tokens? ["#", "!", "[", "enable", "("] cs
  let (ext, cs) ← extensionList (cs.length + 1) ext cs
  let cs ← tokens? [")", "]"] (← skipBlanks cs)
  pure (ext, cs)

/-- Reads the attributes that open a text, and the blanks after each. -/
def attributes : Nat → Extensions → List Char → Option (Extensions × List Char)
  | 0, _, _ => none
  | fuel + 1, ext, cs =>
    match cs with
    | '#' :: _ => do
      let (ext, rest) ← attribute? ext cs
      attributes fuel ext (← skipBlanks rest)
    | _ => some (ext, cs)

/-- The name of the settings record. -/
def recordName : String := "InterpreterConfig"

/-- Reads the record's name where one stands; it must be `recordName`, and with the
extension `explicitStructNames` it must stand. -/
def skipRecordName (ext : Extensions) (cs : List Char) : Option (List Char) :=
  match cs with
  | c :: _ =>
    if Text.isIdentContinue c then do
      let (name, rest) ← identifier? cs
      if name = recordName then pure rest else none
    else if ext.explicitStructNames then none else pure cs
  | [] => if ext.explicitStructNames then none else pure cs

/-- Reads a boolean value. -/
def boolean? (cs : List Char) : Option (Bool × List Char) :=
  match word? "true" cs with
  | some rest => some (true, rest)
  | none => (word? "false" cs).map fun rest => (false, rest)

/-- Sets the switch that a field names. -/
def setField (s : Settings) (name : String) (b : Bool) : Settings :=
  if name = "log_steps" then { s with logSteps := b } else { s with validateArguments := b }

/-- Reads the fields of the settings record, stopping before its closing parenthesis;
`seen` lists the known fields read so far, and `hadComma` says whether a comma, or the
opening parenthesis, came last. Each field's value stands two levels down. -/
def fields (ext : Extensions) :
    Nat → Settings → List String → Bool → List Char → Option (Settings × List Char)
  | 0, _, _, _, _ => none
  | fuel + 1, s, seen, hadComma, cs => do
    let cs ← skipBlanks cs
    if cs.head? == some ')' then pure (s, cs)
    else if !hadComma then none
    else
      let (name, rest) ← identifier? cs
      let (s, seen, rest) ←
        if name = "log_steps" || name = "validate_arguments" then do
          if seen.contains name then none
          let (b, rest) ← boolean? (← colon rest)
          pure (setField s name b, name :: seen, rest)
        else do
          let rest ← colon rest
          pure (s, seen, ← skipValue ext (valueFuel rest) 2 rest)
      let (hadComma, rest) ← comma rest
      fields ext fuel s seen hadComma rest

/-- Reads settings from a whole text. -/
def settings? (text : String) : Option Settings := do
  let cs ← skipBlanks text.toList
  let (ext, cs) ← attributes (cs.length + 1) {} cs
  match ← skipBlanks (← skipRecordName ext cs) with
  | '(' :: rest => do
    let (s, rest) ← fields ext (rest.length + 1) {} [] true rest
    match rest with
    | ')' :: rest => if (← skipBlanks rest).isEmpty then pure s else none
    | _ => none
  | _ => none

end Ron

namespace Settings

/-- Reads settings from their notation. -/
def ofRon (text : String) : Except SettingsError Settings :=
  match Ron.settings? text with
  | some s => pure s
  | none => throw .parse

/-- Settings from a file's contents, where `none` means the file could not be read. -/
def ofFile (contents : Option String) : Except SettingsError Settings :=
  match contents with
  | some text => ofRon text
  | none => throw .io

/-- The text of a boolean in the notation. -/
def boolText (b : Bool) : String :=
  if b then "true" else "false"

/-- Writes settings as the named record, one field a line. -/
def toRon (s : Settings) : String :=
  Ron.recordName ++ "(\n    log_steps: " ++ boolText s.logSteps ++
    ",\n    validate_arguments: " ++ boolText s.validateArguments ++ ",\n)"

end Settings

end Blueprint
