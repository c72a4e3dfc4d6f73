import TlsSeed.Text.CodeRange

/-! # White space

The white space of Unicode. Core's `Char.isWhitespace` knows four of these characters.
-/

namespace TlsSeed.Text

/-- The code points with the Unicode property White_Space. -/
def blankRanges : List CodeRange :=
  [(0x9, 0xd), (0x20, 0x20), (0x85, 0x85), (0xa0, 0xa0), (0x1680, 0x1680), (0x2000, 0x200a),
   (0x2028, 0x2029), (0x202f, 0x202f), (0x205f, 0x205f), (0x3000, 0x3000)]

def isBlankChar (c : Char) : Bool :=
  CodeRange.anyHolds blankRanges c

/-- The characters without the white space at both ends. -/
def trim (cs : List Char) : List Char :=
  ((cs.dropWhile isBlankChar).reverse.dropWhile isBlankChar).reverse

/-- Nothing is left of the text when it is trimmed. -/
def isBlank (s : String) : Bool :=
  (trim s.toList).isEmpty

end TlsSeed.Text
