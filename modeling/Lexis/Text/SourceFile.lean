import Lexis.Text.Slice

/-!
# Source files

A named text with the byte offset of the beginning of each line, from which single lines are cut.
-/

namespace Lexis

/-- The byte offsets at which lines begin after the line feeds of `text`, which itself begins at
`offset`. -/
def lineStartsAfter (offset : Nat) : List Char → List Nat
  | [] => []
  | c :: text =>
      let next := offset + c.utf8Size
      if c = '\n' then next :: lineStartsAfter next text else lineStartsAfter next text

/-- A text without the carriage returns at its end. -/
def trimReturns (text : List Char) : List Char :=
  (text.reverse.dropWhile (· == '\r')).reverse

/-- A named source text. -/
structure SourceFile where
  /-- The name to show. -/
  name : String
  /-- The text. -/
  text : String
  /-- The byte offset at which each line begins. -/
  lineStarts : Array Nat

namespace SourceFile

/-- The source file with the given name and text. -/
def ofText (name text : String) : SourceFile :=
  ⟨name, text, (0 :: lineStartsAfter 0 text.toList).toArray⟩

/-- The number of lines; the text after the last line feed is a line even if it is empty. -/
def lineCount (file : SourceFile) : Nat :=
  file.lineStarts.size

/-- The line with the given number, counted from one, without its line feed and without the
carriage returns before it. -/
def line? (file : SourceFile) (number : Nat) : Option String := do
  guard (1 ≤ number)
  let first ← file.lineStarts[number - 1]?
  let last := match file.lineStarts[number]? with
    | some next => next - 1
    | none => byteSize file.text.toList
  let line ← slice? file.text.toList first last
  return String.ofList (trimReturns line)

end SourceFile

end Lexis
