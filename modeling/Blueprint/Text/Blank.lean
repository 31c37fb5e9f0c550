/-!
# Blank characters

The characters with the Unicode property `White_Space`: the ASCII tab, line feed,
vertical tab, form feed, carriage return and space, next line, the no-break spaces,
the ogham space mark, the spaces from the en quad to the hair space, the line and
paragraph separators, the medium mathematical space and the ideographic space. Text
is trimmed of these at both ends. Zero-width spaces and joiners are not blank.

A notation's tokens are separated by the narrower property `Pattern_White_Space`, which
is fixed for good: the ASCII blanks, next line, the left-to-right and right-to-left
marks, and the line and paragraph separators.
-/

namespace Blueprint.Text

/-- The ranges of code points with the property `White_Space`, both ends included. -/
def blankRanges : List (Nat × Nat) :=
  [(0x09, 0x0D), (0x20, 0x20), (0x85, 0x85), (0xA0, 0xA0), (0x1680, 0x1680),
   (0x2000, 0x200A), (0x2028, 0x2029), (0x202F, 0x202F), (0x205F, 0x205F),
   (0x3000, 0x3000)]

/-- Whether a character is blank. -/
def isBlank (c : Char) : Bool :=
  blankRanges.any fun (lo, hi) => lo ≤ c.toNat && c.toNat ≤ hi

/-- The ranges of code points with the property `Pattern_White_Space`. It leaves out the
no-break and typographic spaces of `White_Space` and adds the two direction marks. -/
def patternBlankRanges : List (Nat × Nat) :=
  [(0x09, 0x0D), (0x20, 0x20), (0x85, 0x85), (0x200E, 0x200F), (0x2028, 0x2029)]

/-- Whether a character separates the tokens of a notation. -/
def isPatternBlank (c : Char) : Bool :=
  patternBlankRanges.any fun (lo, hi) => lo ≤ c.toNat && c.toNat ≤ hi

/-- The characters without their blank prefix and suffix. -/
def trimBlank (cs : List Char) : List Char :=
  ((cs.dropWhile isBlank).reverse.dropWhile isBlank).reverse

end Blueprint.Text
