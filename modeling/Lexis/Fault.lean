import Lexis.Diagnostic.Basic
import Lexis.Text.Quoted

/-!
# Faults

The causes for which a stretch of source is no token, and everything that is said about them: the
message, the code, the remark under the offending text and the advice.
-/

namespace Lexis

/-- Ways of writing numbers that the language knows of and does not accept. -/
inductive NumericForm where
  /-- A power of ten behind the digits, as in `1e10`. -/
  | exponent
  /-- A zero in front of octal digits, as in `0777`. -/
  | legacyOctal
  /-- The mark of base two, as in `0b1010`. -/
  | binary
  /-- The mark of base eight, as in `0o17`. -/
  | octalPrefix
deriving DecidableEq, Repr

namespace NumericForm

/-- What the form is called. -/
def name : NumericForm → String
  | exponent => "exponent notation"
  | legacyOctal => "legacy octal literal"
  | binary => "binary literal"
  | octalPrefix => "0o-prefixed octal literal"

end NumericForm

/-- Why a stretch of source is no token. -/
inductive Fault where
  | illegalCharacter (c : Char)
  | leadingZero
  | hexLiteral
  | numericSuffix
  | malformedFloat
  | floatOutOfRange
  | unsupportedForm (form : NumericForm)
  | unterminatedString
  | unterminatedChar
  | unterminatedRawString
  | charTooLong
  | emptyChar
  | unterminatedComment
  | unicodeEscape
  | octalEscape
  | unknownEscape (c : Char)
deriving DecidableEq, Repr

namespace Fault

/-- What is wrong. -/
def message : Fault → String
  | illegalCharacter c => "illegal character " ++ quotedChar c
  | leadingZero => "integer literal has a redundant leading zero"
  | hexLiteral => "invalid hexadecimal literal"
  | numericSuffix => "invalid suffix on integer literal"
  | malformedFloat => "malformed floating-point literal"
  | floatOutOfRange => "floating-point literal out of range"
  | unsupportedForm form => "unsupported numeric literal: " ++ form.name
  | unterminatedString => "unterminated string literal"
  | unterminatedChar => "unterminated character literal"
  | unterminatedRawString => "unterminated raw string literal"
  | charTooLong => "character literal holds more than one character"
  | emptyChar => "empty character literal"
  | unterminatedComment => "unterminated block comment"
  | unicodeEscape => "invalid unicode escape sequence"
  | octalEscape => "invalid octal escape sequence"
  | unknownEscape c =>
      "unknown escape sequence '\\" ++ String.ofList (Quoting.unquoted.escape c) ++ "'"

/-- The code under which the fault is documented. -/
def code (fault : Fault) : ErrorCode where
  category := 'L'
  number :=
    match fault with
    | illegalCharacter _ => 1
    | leadingZero => 2
    | hexLiteral => 3
    | numericSuffix => 4
    | malformedFloat => 5
    | unsupportedForm _ => 6
    | unterminatedString => 7
    | unterminatedChar => 8
    | unterminatedRawString => 9
    | charTooLong => 10
    | emptyChar => 11
    | unterminatedComment => 12
    | unicodeEscape => 13
    | octalEscape => 14
    | unknownEscape _ => 15
    | floatOutOfRange => 16

/-- The remark under the offending text. -/
def remark : Fault → String
  | illegalCharacter _ => "not part of any token"
  | unterminatedString | unterminatedChar | unterminatedRawString =>
      "literal starts here but is never closed"
  | unterminatedComment => "comment starts here but is never closed"
  | unicodeEscape | octalEscape | unknownEscape _ => "in this literal"
  | leadingZero | hexLiteral | numericSuffix | malformedFloat | floatOutOfRange
  | unsupportedForm _ | charTooLong | emptyChar => "invalid literal"

/-- How to mend it, where there is something to say. -/
def advice? : Fault → Option String
  | illegalCharacter _ | emptyChar => none
  | leadingZero => some "remove the leading zeros"
  | hexLiteral => some "hex literals are `0x` followed by 0-9, a-f or A-F"
  | numericSuffix => some "separate the number from the following name"
  | malformedFloat => some "floats are written as digits, `.`, digits (e.g. `1.5`)"
  | floatOutOfRange => some "the value does not fit in a 64-bit float"
  | unsupportedForm .legacyOctal =>
      some "octal integers are not supported; write the value in decimal or hex"
  | unsupportedForm _ => some "write the value in decimal or hex"
  | unterminatedString => some "add a closing `\"`; use a backtick string for multiple lines"
  | unterminatedChar => some "add a closing `'`"
  | unterminatedRawString => some "add a closing backtick"
  | charTooLong => some "use a double-quoted string for more than one character"
  | unterminatedComment => some "add `*/` to close the comment"
  | unicodeEscape =>
      some "`\\u` takes exactly 4 hex digits and `\\U` exactly 8, naming a valid code point"
  | octalEscape => some "octal escapes are exactly 3 digits 0-7, at most `\\377`"
  | unknownEscape _ =>
      some "valid escapes are \\n \\t \\\\ \\\" \\' \\uXXXX \\UXXXXXXXX and \\ooo"

end Fault

/-- A fault and the stretch of source that is no token because of it. -/
structure LexicalError where
  fault : Fault
  span : Span
deriving DecidableEq, Repr

namespace LexicalError

/-- The code of the fault. -/
def code (error : LexicalError) : ErrorCode :=
  error.fault.code

instance : ToString LexicalError where
  toString error := error.fault.message ++ " at " ++ toString error.span.start

/-- The report of the error. -/
def toDiagnostic (error : LexicalError) : Diagnostic :=
  let report := ((Diagnostic.error error.fault.message).withCode error.code).withLabel
    error.span error.fault.remark
  match error.fault.advice? with
  | some advice => report.withHelp advice
  | none => report

/-- Where a report is wanted, an error serves. -/
instance : Coe LexicalError Diagnostic := ⟨toDiagnostic⟩

end LexicalError

end Lexis
