/-!
# Searching and cutting text

Text as a list of characters (Unicode scalar values), and as the bytes of its UTF-8
encoding: the position of the first occurrence of a pattern in a list, the characters that
a run of UTF-8 bytes holds, and the pieces between the occurrences of a separator.
A text is searched on its bytes; positions count characters.
-/

namespace Blueprint.Text

/-- The position of the first occurrence of a pattern in a list; the empty pattern occurs
at position zero. -/
def findFirst? {α : Type} [BEq α] (pattern : List α) : List α → Option Nat
  | [] => if pattern.isEmpty then some 0 else none
  | c :: rest =>
    if pattern.isPrefixOf (c :: rest) then some 0
    else (findFirst? pattern rest).map (· + 1)

/-- The UTF-8 encoding of a text. -/
def utf8 (cs : List Char) : List UInt8 :=
  cs.flatMap String.utf8EncodeChar

/-- A continuation byte, one of `0x80` to `0xBF`, continues a character begun by an earlier
byte. -/
def isContinuation (b : UInt8) : Bool :=
  0x80 ≤ b.toNat && b.toNat ≤ 0xBF

/-- The characters that a run of UTF-8 bytes holds: one for each byte that begins one. -/
def charCount (bytes : List UInt8) : Nat :=
  bytes.countP fun b => !isContinuation b

/-- The pieces between the occurrences of a non-empty separator, found left to right
without overlap; `piece` gathers the current piece in reverse. -/
def splitFrom (separator : List Char) (h : separator ≠ []) (piece : List Char) :
    List Char → List (List Char)
  | [] => [piece.reverse]
  | c :: rest =>
    if separator.isPrefixOf (c :: rest) then
      piece.reverse :: splitFrom separator h [] ((c :: rest).drop separator.length)
    else splitFrom separator h (c :: piece) rest
termination_by cs => cs.length
decreasing_by
  · have : separator.length ≠ 0 := by simpa using h
    simp only [List.length_drop, List.length_cons]
    omega
  · simp

/-- The pieces of a text between the occurrences of a separator. The empty separator
cuts the text into its characters, and the empty text has none of them. -/
def splitOn (separator cs : List Char) : List (List Char) :=
  if h : separator = [] then cs.map fun c => [c]
  else splitFrom separator h [] cs

end Blueprint.Text
