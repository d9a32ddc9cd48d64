import Lexis.Lexeme.Scan
import Lexis.Symbol
import Lexis.Token
import Lexis.Word

/-!
# Lexemes

What the lexical units of a source mean, apart from where they stand.  A lexeme and a span make a
token.
-/

namespace Lexis

namespace Word

/-- The lexical class of a word. -/
def kind : Word → Token.Kind
  | keyword _ => .reserved
  | builtin _ => .type
  | name => .identifier

/-- What is known of a word beyond its class. -/
def detail : Word → Token.Detail
  | keyword k => .keyword k
  | builtin t => .builtin t
  | name => .none

end Word

/-- The meaning of a lexical unit. -/
inductive Lexeme where
  /-- A decimal integer, by its digits. -/
  | decimal (digits : List Char)
  /-- A hexadecimal integer, as it is written. -/
  | hex (text : List Char)
  /-- A float, by its canonical text. -/
  | float (text : List Char)
  /-- A string between double quotes, decoded. -/
  | interpreted (value : List Char)
  /-- A string between backticks. -/
  | raw (value : List Char)
  /-- A character, decoded. -/
  | character (value : Char)
  /-- An operator or a delimiter. -/
  | symbol (symbol : Symbol)
  /-- A keyword, a builtin type or an identifier, as it is written. -/
  | word (text : List Char)
deriving DecidableEq, Repr

namespace Lexeme

/-- The lexical class. -/
def kind : Lexeme → Token.Kind
  | decimal _ | hex _ => .integer
  | float _ => .float
  | interpreted _ | raw _ => .string
  | character _ => .char
  | symbol (.operator _) => .operator
  | symbol (.delimiter _) => .delimiter
  | word text => (Word.ofSpelling (String.ofList text)).kind

/-- The text that stands for the meaning. -/
def value : Lexeme → String
  | decimal text | hex text | float text | interpreted text | raw text | word text =>
      String.ofList text
  | character c => String.ofList [c]
  | symbol s => s.text

/-- What is known beyond the class. -/
def detail : Lexeme → Token.Detail
  | decimal _ => .decimal
  | hex _ => .hex
  | interpreted _ => .interpreted
  | raw _ => .raw
  | symbol (.operator o) => .operator o
  | symbol (.delimiter d) => .delimiter d
  | word text => (Word.ofSpelling (String.ofList text)).detail
  | float _ | character _ => .none

/-- The token that the lexeme is at `span`. -/
def toToken (lexeme : Lexeme) (span : Span) : Token :=
  ⟨lexeme.kind, lexeme.value, lexeme.detail, span⟩

/-- A lexeme never makes the token of the end of a source. -/
theorem isEndOfInput_toToken (lexeme : Lexeme) (span : Span) :
    (lexeme.toToken span).isEndOfInput = false := by
  simp only [Token.isEndOfInput, toToken]
  fun_cases kind lexeme with
  | case9 text => cases Word.ofSpelling (String.ofList text) <;> rfl
  | _ => rfl

end Lexeme

end Lexis
