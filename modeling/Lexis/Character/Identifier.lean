import Lexis.Character.IdentifierPart
import Lexis.Character.IdentifierStart

/-!
# Characters of identifiers

An identifier opens with a letter or an underscore and goes on with letters, digits, marks and
underscores, all in the sense of Unicode.  Whatever may open an identifier may also continue one.
This is a fact about the two tables: every range of the one lies within a range of the other.
-/

namespace Lexis

/-- Whether `c` may open an identifier. -/
def isIdentifierStart (c : Char) : Bool :=
  c == '_' || identifierStartRanges.contains c.toNat

/-- Whether `c` may stand in an identifier after its first character. -/
def isIdentifierPart (c : Char) : Bool :=
  c == '_' || identifierPartRanges.contains c.toNat

/-- The table of what opens an identifier is part of the table of what continues one. -/
theorem identifierPartRanges_contains {code : Nat}
    (h : identifierStartRanges.contains code = true) :
    identifierPartRanges.contains code = true := by
  have hascending : identifierPartRanges.isAscending = true := by decide +kernel
  have hcovers : identifierPartRanges.covers identifierStartRanges = true := by decide +kernel
  exact CodeRanges.contains_of_covers hascending hcovers h

/-- A character that opens an identifier may also continue one. -/
theorem isIdentifierPart_of_isIdentifierStart {c : Char} (h : isIdentifierStart c = true) :
    isIdentifierPart c = true := by
  rw [isIdentifierStart, Bool.or_eq_true] at h
  rw [isIdentifierPart, Bool.or_eq_true]
  exact h.imp_right identifierPartRanges_contains

end Lexis
