import Lexis.Diagnostic.Basic
import Lexis.Text.SourceFile

/-!
# Rendering of diagnostics

A report is shown as a headline, then for each label the place, the source line and a row of carets
under the region, then the advice:

```text
error[EL001]: illegal character '@'
 --> main.go:3:4
  |
3 | abc@ 123
  |    ^ not part of any token
```
-/

namespace Lexis

/-- The character `c`, `n` times. -/
def repeated (c : Char) (n : Nat) : String :=
  String.ofList (List.replicate n c)

namespace Label

/-- The number of carets under a label on the source line `line`.  A region of several lines is
underlined to the end of its first line, and every region by at least one caret. -/
def caretCount (label : Label) (line : String) : Nat :=
  let start := label.span.start
  let width :=
    if label.span.stop.line = start.line then label.span.stop.column - start.column
    else line.length + 1 - start.column
  max width 1

/-- The source line `line` of a label with the carets and the message under it. -/
def excerpt (label : Label) (line : String) : String :=
  let start := label.span.start
  let number := toString start.line
  let gutter := repeated ' ' number.length
  gutter ++ " |\n" ++
    number ++ " | " ++ line ++ "\n" ++
    gutter ++ " | " ++ repeated ' ' (start.column - 1) ++
    repeated '^' (label.caretCount line) ++ " " ++ label.message ++ "\n"

/-- The place of a label and, where the file has such a line, its excerpt. -/
def render (label : Label) (file : SourceFile) : String :=
  " --> " ++ file.name ++ ":" ++ toString label.span.start ++ "\n" ++
    match file.line? label.span.start.line with
    | some line => label.excerpt line
    | none => ""

end Label

namespace Diagnostic

/-- The first line of a report. -/
def headline (diagnostic : Diagnostic) : String :=
  match diagnostic.code with
  | some code => "error[" ++ toString code ++ "]: " ++ diagnostic.message ++ "\n"
  | none => "error: " ++ diagnostic.message ++ "\n"

/-- The text of a report about `file`. -/
def render (diagnostic : Diagnostic) (file : SourceFile) : String :=
  diagnostic.headline ++
    String.join (diagnostic.labels.map (·.render file)) ++
    String.join (diagnostic.help.map fun help => "  = help: " ++ help ++ "\n")

end Diagnostic

end Lexis
