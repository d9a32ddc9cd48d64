import Lexis.Text.Span

/-!
# Diagnostics

A report about a source: a message, perhaps a code, labels that point at regions of the source, and
advice.
-/

namespace Lexis

/-- The code of an error: the category it belongs to and its number there. -/
structure ErrorCode where
  category : Char
  number : Nat
deriving DecidableEq, Repr

/-- A code is written with the letter `E`, its category and at least three digits. -/
instance : ToString ErrorCode where
  toString code :=
    let digits := Nat.toDigits 10 code.number
    String.ofList ('E' :: code.category :: List.replicate (3 - digits.length) '0' ++ digits)

/-- A remark about a region of the source. -/
structure Label where
  span : Span
  message : String
deriving DecidableEq, Repr

/-- A report about a source. -/
structure Diagnostic where
  /-- What kind of error it is, if the report has a code. -/
  code : Option ErrorCode := none
  /-- What is wrong. -/
  message : String
  /-- The places concerned, the main one first. -/
  labels : List Label := []
  /-- Ways to mend it. -/
  help : List String := []
deriving DecidableEq, Repr

namespace Diagnostic

/-- The report that says `message` and nothing else. -/
def error (message : String) : Diagnostic :=
  { message }

/-- The report with the given code. -/
def withCode (diagnostic : Diagnostic) (code : ErrorCode) : Diagnostic :=
  { diagnostic with code := some code }

/-- The report with one more label. -/
def withLabel (diagnostic : Diagnostic) (span : Span) (message : String) : Diagnostic :=
  { diagnostic with labels := diagnostic.labels ++ [⟨span, message⟩] }

/-- The report with one more piece of advice. -/
def withHelp (diagnostic : Diagnostic) (help : String) : Diagnostic :=
  { diagnostic with help := diagnostic.help ++ [help] }

/-- The region of the first label. -/
def primarySpan? (diagnostic : Diagnostic) : Option Span :=
  diagnostic.labels.head?.map Label.span

instance : ToString Diagnostic where
  toString diagnostic := "error: " ++ diagnostic.message

end Diagnostic

end Lexis
