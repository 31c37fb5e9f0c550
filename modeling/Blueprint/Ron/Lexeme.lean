import Blueprint.Text.Blank
import Blueprint.Text.Identifier
import Blueprint.Number.FromText

/-!
# Lexemes of RON text

The pieces of RON text below the level of values. Blanks are the characters of
`Pattern_White_Space`, and comments run from `//` to the end of the line or from `/*` to
the matching `*/`, since block comments nest. An identifier starts with a low line or an
`XID_Start` character and goes on with `XID_Continue` characters; a raw identifier
`r#name` also takes points and signs. A text stands between quotes with escapes, or raw
between `r"` and `"`, where any number of hashes may stand after the `r` and again after
the closing quote; byte texts and byte literals carry a `b` in front, and a character
stands between apostrophes.

Every reader takes the text still to be read and answers what is left after the piece it
reads, or `none` where the text is not well formed.

The readers of `Blueprint.Ron` stand for the reader of the `ron` library, version 0.9, that
settings are read with, and follow it rather than a description of the notation: its blanks,
its identifier tables, its order of trials and its limits, down to the texts it refuses.
-/

namespace Blueprint.Ron

open Text

mutual

/-- Skips blanks and comments. A slash that starts no comment, and a block comment that
is never closed, are faults. -/
def skipBlanks : List Char → Option (List Char)
  | [] => some []
  | '/' :: '/' :: rest => skipBlanks (rest.dropWhile (· != '\n'))
  | '/' :: '*' :: rest => skipComment 0 rest
  | '/' :: _ => none
  | c :: rest => if isPatternBlank c then skipBlanks rest else some (c :: rest)
termination_by cs => cs.length
decreasing_by
  all_goals simp only [List.length_cons]
  all_goals have := (@List.dropWhile_suffix Char rest (· != '\n')).length_le
  all_goals omega

/-- Skips the rest of a block comment, inside `depth` further open ones, and the blanks
after it. -/
def skipComment : Nat → List Char → Option (List Char)
  | _, [] => none
  | 0, '*' :: '/' :: rest => skipBlanks rest
  | depth + 1, '*' :: '/' :: rest => skipComment depth rest
  | depth, '/' :: '*' :: rest => skipComment (depth + 1) rest
  | depth, _ :: rest => skipComment depth rest
termination_by _ cs => cs.length

end

/-- Whether a text starts with a word. -/
def opens (word : String) (cs : List Char) : Bool :=
  word.toList.isPrefixOf cs

/-- The text after a word that stands on its own, that is, one that no character of an
identifier follows. -/
def word? (word : String) (cs : List Char) : Option (List Char) :=
  if opens word cs then
    match cs.drop word.length with
    | c :: rest => if isIdentContinue c then none else some (c :: rest)
    | [] => some []
  else none

/-- Whether a character may start an identifier. -/
def isFirstChar (c : Char) : Bool :=
  c = '_' || isIdentStart c

/-- Whether a character may stand in a raw identifier. -/
def isRawChar (c : Char) : Bool :=
  isIdentContinue c || c = '.' || c = '+' || c = '-'

/-- Whether a text opens a literal whose prefix looks like an identifier: a byte text
`b"`, a byte `b'`, a raw byte text `br"` or `br#`, or a raw text `r"`, `r#"` or `r##`. -/
def opensPrefixedLiteral (cs : List Char) : Bool :=
  ["b\"", "b'", "br#", "br\"", "r\"", "r#\"", "r##"].any (opens · cs)

/-- Reads an identifier, plain or raw, answering its name. A plain identifier may not run
on into a point or a sign, which only raw identifiers hold. -/
def identifier? (cs : List Char) : Option (String × List Char) :=
  match cs with
  | [] => none
  | first :: rest =>
    if !isFirstChar first || opensPrefixedLiteral cs then none
    else
      match first, rest with
      | 'r', '#' :: raw =>
        match raw with
        | c :: _ =>
          if isRawChar c then
            some (String.ofList (raw.takeWhile isRawChar), raw.dropWhile isRawChar)
          else none
        | [] => none
      | _, _ =>
        let name := String.ofList (first :: rest.takeWhile isIdentContinue)
        match rest.dropWhile isIdentContinue with
        | c :: after =>
          if c = '.' || c = '+' || c = '-' then none else some (name, c :: after)
        | [] => some (name, [])

/-- Skips an identifier where a value may stand. Unlike `identifier?` a plain identifier
may be followed by anything, and `r#` before no raw character starts no identifier. -/
def skipIdentifier? (cs : List Char) : Option (List Char) :=
  if opensPrefixedLiteral cs then none
  else
    match cs with
    | 'r' :: '#' :: raw =>
      match raw with
      | c :: _ => if isRawChar c then some (raw.dropWhile isRawChar) else none
      | [] => none
    | c :: rest => if isFirstChar c then some (rest.dropWhile isIdentContinue) else none
    | [] => none

/-- The byte that two hexadecimal digits write. -/
def byteOf? : List Char → Option Nat
  | a :: b :: _ => do
    let high ← Number.digitValue? 16 a
    let low ← Number.digitValue? 16 b
    pure (16 * high + low)
  | _ => none

/-- Whether a byte continues a UTF-8 sequence. -/
def isTrailByte (b : Nat) : Bool :=
  0x80 ≤ b && b < 0xC0

/-- Whether bytes are the UTF-8 encoding of exactly one character: a lead byte that
announces their number, trail bytes after it, and a code point that needs that many
bytes and is neither a surrogate nor above `0x10FFFF`. -/
def encodesOneChar : List Nat → Bool
  | [a] => a < 0x80
  | [a, b] => 0xC0 ≤ a && a < 0xE0 && isTrailByte b && 0x80 ≤ (a % 32) * 64 + b % 64
  | [a, b, c] =>
    let n := ((a % 16) * 64 + b % 64) * 64 + c % 64
    0xE0 ≤ a && a < 0xF0 && isTrailByte b && isTrailByte c && 0x800 ≤ n &&
      !(0xD800 ≤ n && n < 0xE000)
  | [a, b, c, d] =>
    let n := (((a % 8) * 64 + b % 64) * 64 + c % 64) * 64 + d % 64
    0xF0 ≤ a && a < 0xF8 && isTrailByte b && isTrailByte c && isTrailByte d &&
      0x10000 ≤ n && n ≤ 0x10FFFF
  | _ => false

/-- The width of the further `\xHH` escapes that complete a character whose first bytes
are `lead`, at most `more` of them. -/
def trailWidth? : Nat → List Nat → List Char → Option Nat
  | 0, _, _ => none
  | more + 1, lead, '\\' :: 'x' :: rest => do
    let b ← byteOf? rest
    if encodesOneChar (lead ++ [b]) then pure 4
    else (4 + ·) <$> trailWidth? more (lead ++ [b]) (rest.drop 2)
  | _ + 1, _, _ => none

/-- Whether a number is a Unicode scalar value: a code point that is no surrogate. -/
def isScalar (n : Nat) : Bool :=
  n < 0xD800 || (0xE000 ≤ n && n ≤ 0x10FFFF)

/-- The width of a Unicode escape after its `u`: one to six hexadecimal digits between
braces that name a scalar value. -/
def unicodeWidth? : List Char → Option Nat
  | '{' :: rest =>
    let digits := (rest.take 6).takeWhile (· != '}')
    let values := digits.filterMap (Number.digitValue? 16)
    if digits.isEmpty || values.length != digits.length then none
    else
      match rest.drop digits.length with
      | '}' :: _ =>
        if isScalar (values.foldl (fun acc d => 16 * acc + d) 0) then some (digits.length + 2)
        else none
      | _ => none
  | _ => none

/-- The width of an escape after its backslash. The one-letter escapes are `\'`, `\"`,
`\\`, `\n`, `\r`, `\t` and `\0`. An escape `\xHH` writes a byte: among bytes any, and
elsewhere an ASCII one, or in a text the first byte of a UTF-8 character that further
`\xHH` escapes complete. `\u` with braces writes a character. -/
def escapeWidth? (bytes single : Bool) : List Char → Option Nat
  | [] => none
  | c :: rest =>
    if c = '\'' || c = '"' || c = '\\' || c = 'n' || c = 'r' || c = 't' || c = '0' then
      some 1
    else if c = 'x' then do
      let b ← byteOf? rest
      if bytes || b < 0x80 then pure 3
      else if single then none
      else (3 + ·) <$> trailWidth? 3 [b] (rest.drop 2)
    else if c = 'u' then (1 + ·) <$> unicodeWidth? rest
    else none

/-- Skips the rest of a quoted text, or of a byte text if `bytes`, after its opening
quote. -/
def skipQuoted (bytes : Bool) : List Char → Option (List Char)
  | [] => none
  | '"' :: rest => some rest
  | '\\' :: rest =>
    match escapeWidth? bytes false rest with
    | some n => skipQuoted bytes (rest.drop n)
    | none => none
  | _ :: rest => skipQuoted bytes rest
termination_by cs => cs.length
decreasing_by all_goals simp only [List.length_cons, List.length_drop]; omega

/-- Skips the body of a raw text up to a quote that as many hashes follow as opened it. -/
def skipRawBody (hashes : Nat) : List Char → Option (List Char)
  | [] => none
  | '"' :: rest =>
    if hashes ≤ rest.length && (rest.take hashes).all (· == '#') then some (rest.drop hashes)
    else skipRawBody hashes rest
  | _ :: rest => skipRawBody hashes rest

/-- Skips a raw text after its `r`: hashes, a quote, and the body. -/
def skipRaw (cs : List Char) : Option (List Char) :=
  let hashes := (cs.takeWhile (· == '#')).length
  match cs.drop hashes with
  | '"' :: body => skipRawBody hashes body
  | _ => none

/-- Skips the closing apostrophe of a character or byte literal. -/
def closeApostrophe : Option (List Char) → Option (List Char)
  | some ('\'' :: rest) => some rest
  | _ => none

/-- Skips a character literal after its opening apostrophe: one character or escape, and
the closing apostrophe. -/
def skipCharacter (cs : List Char) : Option (List Char) :=
  closeApostrophe <|
    match cs with
    | '\\' :: rest => (escapeWidth? false true rest).map rest.drop
    | _ :: rest => some rest
    | [] => none

/-- Skips a byte literal after its `b'`: an ASCII character or an escape that writes one
byte, and the closing apostrophe. -/
def skipByte (cs : List Char) : Option (List Char) :=
  closeApostrophe <|
    match cs with
    | '\\' :: 'u' :: _ => none
    | '\\' :: rest => (escapeWidth? true true rest).map rest.drop
    | c :: rest => if c.toNat < 0x80 then some rest else none
    | [] => none

end Blueprint.Ron
