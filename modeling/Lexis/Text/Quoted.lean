import Lexis.Character.GraphemeExtend
import Lexis.Character.Unprintable

/-!
# Quoted characters and texts

How messages show characters of a source.  Five characters have an escape of a letter, quotes are
escaped as the occasion demands, and a character that cannot be shown apart from the one before it
or has no glyph of its own is given by its code point.
-/

namespace Lexis

/-- Which of the two quotes must not stand for themselves. -/
structure Quoting where
  /-- Whether the single quote is escaped. -/
  single : Bool
  /-- Whether the double quote is escaped. -/
  double : Bool

namespace Quoting

/-- Between single quotes, only these are escaped. -/
def inSingle : Quoting := ⟨true, false⟩

/-- Between double quotes, only these are escaped. -/
def inDouble : Quoting := ⟨false, true⟩

/-- Outside of quotes, both are escaped. -/
def unquoted : Quoting := ⟨true, true⟩

/-- A character by its code point, in lower-case hexadecimal digits. -/
def codePoint (c : Char) : List Char :=
  '\\' :: 'u' :: '{' :: Nat.toDigits 16 c.toNat ++ ['}']

/-- The half-width Katakana sound marks.  They extend the grapheme they follow, but they are
letters, with a glyph and a width of their own. -/
def soundMarkRanges : CodeRanges := [(0xff9e, 0xff9f)]

/-- Whether `c` can only be shown on the character before it. -/
def isAttached (c : Char) : Bool :=
  graphemeExtendRanges.contains c.toNat && !soundMarkRanges.contains c.toNat

/-- The written form of one character. -/
def escape (quoting : Quoting) (c : Char) : List Char :=
  if c = '\x00' then ['\\', '0']
  else if c = '\t' then ['\\', 't']
  else if c = '\r' then ['\\', 'r']
  else if c = '\n' then ['\\', 'n']
  else if c = '\\' then ['\\', '\\']
  else if (c = '\'' ∧ quoting.single) ∨ (c = '"' ∧ quoting.double) then ['\\', c]
  else if isAttached c then codePoint c
  else if unprintableRanges.contains c.toNat then codePoint c
  else [c]

end Quoting

/-- The character `c` between single quotes. -/
def quotedChar (c : Char) : String :=
  String.ofList ('\'' :: Quoting.inSingle.escape c ++ ['\''])

/-- The text `s` between double quotes. -/
def quotedText (s : String) : String :=
  String.ofList ('"' :: s.toList.flatMap Quoting.inDouble.escape ++ ['"'])

end Lexis
