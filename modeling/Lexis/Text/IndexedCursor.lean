import Lexis.Text.Span

/-!
# Cursors over an array

A source is taken apart into its characters once, and a cursor moves an index over them.  Lines and
columns are counted in 32 bits, the index and the byte offset in 64.  To move over several
characters is to move over one, again and again.
-/

namespace Lexis

/-- Words whose sum is in range are added as numbers. -/
theorem toNat_add_of_lt {a b : UInt64} (h : a.toNat + b.toNat < UInt64.size) :
    (a + b).toNat = a.toNat + b.toNat := by
  rw [UInt64.toNat_add]
  exact Nat.mod_eq_of_lt h

/-- A place of reading in an array of characters. -/
structure IndexedCursor where
  /-- The whole source. -/
  source : String
  /-- The characters of the source. -/
  chars : Array Char
  /-- The place of the next unread character among them. -/
  index : UInt64
  /-- The line, counted from one. -/
  line : UInt32
  /-- The column in characters, counted from one. -/
  column : UInt32
  /-- The number of UTF-8 bytes that have been read. -/
  offset : UInt64
  /-- The number of the source file. -/
  fileId : Nat
  /-- Every character has a place that an index can hold. -/
  size_lt : chars.size < UInt64.size

namespace IndexedCursor

/-- The cursor at the beginning of `source`. -/
def ofSource (source : String) (fileId : Nat) (h : source.length < UInt64.size) :
    IndexedCursor where
  source := source
  chars := source.toList.toArray
  index := 0
  line := 1
  column := 1
  offset := 0
  fileId := fileId
  size_lt := by
    rw [List.size_toArray, String.length_toList]
    exact h

/-- The character `ahead` places ahead, if the source goes that far. -/
def peek (cursor : IndexedCursor) (ahead : UInt64) : Option Char :=
  cursor.chars[(cursor.index + ahead).toNat]?

/-- The next unread character. -/
def current (cursor : IndexedCursor) : Option Char :=
  cursor.peek 0

/-- Whether nothing is left to read. -/
def isAtEnd (cursor : IndexedCursor) : Bool :=
  cursor.chars.size ≤ cursor.index.toNat

/-- Whether the unread characters begin with `text`, character by character. -/
def startsWith (cursor : IndexedCursor) (text : String) : Bool :=
  text.toList.zipIdx.all fun (c, ahead) => cursor.peek (.ofNat ahead) == some c

/-- The cursor behind its next character, which is `c`. -/
def past (cursor : IndexedCursor) (c : Char) : IndexedCursor :=
  { cursor with
    index := cursor.index + 1
    offset := cursor.offset + .ofNat c.utf8Size
    line := if c = '\n' then cursor.line + 1 else cursor.line
    column := if c = '\n' then 1 else cursor.column + 1 }

/-- Moves over one character and hands it out. -/
def advance (cursor : IndexedCursor) : Option Char × IndexedCursor :=
  match cursor.current with
  | some c => (some c, cursor.past c)
  | none => (none, cursor)

/-- Moves over one character after the other, up to `n` of them, as long as one is left. -/
def advanceBy : IndexedCursor → Nat → IndexedCursor
  | cursor, 0 => cursor
  | cursor, n + 1 =>
      match cursor.advance with
      | (some _, next) => next.advanceBy n
      | (none, next) => next

theorem index_lt_of_current {cursor : IndexedCursor} {c : Char} (h : cursor.current = some c) :
    cursor.index.toNat < cursor.chars.size := by
  obtain ⟨hlt, -⟩ := Array.getElem?_eq_some_iff.1 h
  rwa [UInt64.add_zero] at hlt

/-- Where a character is left, the index does not wrap. -/
theorem toNat_index_past {cursor : IndexedCursor} {c : Char} (h : cursor.current = some c) :
    (cursor.past c).index.toNat = cursor.index.toNat + 1 := by
  have hlt : cursor.index.toNat + 1 < UInt64.size :=
    Nat.lt_of_le_of_lt (index_lt_of_current h) cursor.size_lt
  exact toNat_add_of_lt hlt

/-- Moves over characters as long as they satisfy `p`, and counts them on from `count`. -/
def advanceWhileFrom (p : Char → Bool) (cursor : IndexedCursor) (count : UInt64) :
    UInt64 × IndexedCursor :=
  match hcurrent : cursor.current with
  | some c => if p c then (cursor.past c).advanceWhileFrom p (count + 1) else (count, cursor)
  | none => (count, cursor)
termination_by cursor.chars.size - cursor.index.toNat
decreasing_by
  have hlt := index_lt_of_current hcurrent
  rw [toNat_index_past hcurrent]
  show cursor.chars.size - (cursor.index.toNat + 1) < cursor.chars.size - cursor.index.toNat
  omega

/-- Moves over the longest run of characters that satisfy `p`, and tells how many there were. -/
def advanceWhile (cursor : IndexedCursor) (p : Char → Bool) : UInt64 × IndexedCursor :=
  cursor.advanceWhileFrom p 0

/-- Where the cursor stands. -/
def position (cursor : IndexedCursor) : Position :=
  ⟨cursor.line.toNat, cursor.column.toNat, cursor.offset.toNat⟩

/-- The span from an earlier position up to the cursor. -/
def spanSince (cursor : IndexedCursor) (start : Position) : Span :=
  ⟨start, cursor.position, cursor.fileId⟩

/-- The source text from an earlier position up to the cursor; empty where there is no such cut. -/
def textSince (cursor : IndexedCursor) (start : Position) : String :=
  ((cursor.spanSince start).slice? cursor.source).getD ""

end IndexedCursor

end Lexis
