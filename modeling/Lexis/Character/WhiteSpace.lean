import Lexis.Character.Ranges

/-!
# White space

The Unicode property `White_Space`: 25 characters.  The separators U+001C to U+001F, the zero-width
space and the byte order mark are not among them.
-/

namespace Lexis

/-- The code points of white space. -/
def whiteSpaceRanges : CodeRanges :=
  [(0x0009, 0x000d), (0x0020, 0x0020), (0x0085, 0x0085), (0x00a0, 0x00a0), (0x1680, 0x1680),
   (0x2000, 0x200a), (0x2028, 0x2029), (0x202f, 0x202f), (0x205f, 0x205f), (0x3000, 0x3000)]

/-- Whether `c` separates lexemes and has no meaning of its own. -/
def isWhiteSpace (c : Char) : Bool :=
  whiteSpaceRanges.contains c.toNat

/-- Line breaks are white space. -/
@[simp] theorem isWhiteSpace_newline : isWhiteSpace '\n' = true := by decide

end Lexis
