import Lexis.Text.Position
import Lexis.Text.Slice

/-!
# Spans of text

A span runs from one position up to, and not including, another, in a numbered source file.
-/

namespace Lexis

/-- A region of a source file, its end excluded. -/
structure Span where
  /-- Where the region begins. -/
  start : Position := {}
  /-- Where it ends. -/
  stop : Position := {}
  /-- The number of the source file. -/
  fileId : Nat := 0
deriving DecidableEq, Repr, Inhabited

namespace Span

/-- The empty region at a position. -/
def point (position : Position) (fileId : Nat) : Span :=
  ⟨position, position, fileId⟩

/-- The length in bytes; none if the ends are in the wrong order. -/
def byteLength (span : Span) : Nat :=
  span.stop.offset - span.start.offset

/-- Whether the region holds no byte. -/
def isEmpty (span : Span) : Bool :=
  span.byteLength == 0

/-- The text of the region within `source`, if its offsets cut the source between characters. -/
def slice? (span : Span) (source : String) : Option String :=
  (Lexis.slice? source.toList span.start.offset span.stop.offset).map String.ofList

end Span

end Lexis
