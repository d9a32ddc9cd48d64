import Lexis.Text.Span

/-!
# Cursors

A cursor stands at a position of a source and holds the characters that are still unread.  Looking
ahead reads from that rest and moves nothing; advancing moves the position over what it takes.  An
`IndexedCursor` does the same with an index into an array, one character at a time.
-/

namespace Lexis

/-- A place of reading in a source. -/
structure Cursor where
  /-- The whole source. -/
  source : String
  /-- The characters that are still unread. -/
  rest : List Char
  /-- The position of the first of them. -/
  position : Position
  /-- The number of the source file. -/
  fileId : Nat

namespace Cursor

/-- The cursor at the beginning of `source`. -/
def ofSource (source : String) (fileId : Nat) : Cursor :=
  ⟨source, source.toList, .start, fileId⟩

/-- The character `k` places ahead, if the source goes that far. -/
def peek (cursor : Cursor) (k : Nat) : Option Char :=
  cursor.rest[k]?

/-- The next unread character. -/
def current (cursor : Cursor) : Option Char :=
  cursor.peek 0

/-- Whether nothing is left to read. -/
def isAtEnd (cursor : Cursor) : Bool :=
  cursor.rest.isEmpty

/-- Whether the unread characters begin with `text`. -/
def startsWith (cursor : Cursor) (text : String) : Bool :=
  text.toList.isPrefixOf cursor.rest

/-- Moves over `n` characters, or to the end if fewer are left. -/
def advanceBy (cursor : Cursor) (n : Nat) : Cursor :=
  { cursor with
    rest := cursor.rest.drop n
    position := cursor.position.after (cursor.rest.take n) }

/-- Moves over one character and hands it out. -/
def advance (cursor : Cursor) : Option Char × Cursor :=
  (cursor.current, cursor.advanceBy 1)

/-- Moves over the longest run of characters that satisfy `p`, and tells how many there were. -/
def advanceWhile (cursor : Cursor) (p : Char → Bool) : Nat × Cursor :=
  let count := (cursor.rest.takeWhile p).length
  (count, cursor.advanceBy count)

/-- The span from an earlier position up to the cursor. -/
def spanSince (cursor : Cursor) (start : Position) : Span :=
  ⟨start, cursor.position, cursor.fileId⟩

/-- The source text from an earlier position up to the cursor; empty where there is no such cut. -/
def textSince (cursor : Cursor) (start : Position) : String :=
  ((cursor.spanSince start).slice? cursor.source).getD ""

@[simp] theorem advanceBy_rest (cursor : Cursor) (n : Nat) :
    (cursor.advanceBy n).rest = cursor.rest.drop n := rfl

@[simp] theorem advanceBy_position (cursor : Cursor) (n : Nat) :
    (cursor.advanceBy n).position = cursor.position.after (cursor.rest.take n) := rfl

@[simp] theorem advanceBy_fileId (cursor : Cursor) (n : Nat) :
    (cursor.advanceBy n).fileId = cursor.fileId := rfl

@[simp] theorem advanceBy_source (cursor : Cursor) (n : Nat) :
    (cursor.advanceBy n).source = cursor.source := rfl

end Cursor

end Lexis
