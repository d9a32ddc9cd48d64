import Lexis.Symbol
import Lexis.Text.Quoted
import Lexis.Text.Span
import Lexis.Word

/-!
# Tokens

A token has a kind, a value, a detail that refines the kind, and the span of source it covers.
-/

namespace Lexis

namespace Token

/-- The lexical class of a token. -/
inductive Kind where
  | endOfInput
  | integer
  | float
  | string
  | char
  | operator
  | delimiter
  | reserved
  | type
  | identifier
  | none
deriving DecidableEq, Repr

namespace Kind

/-- All kinds, in the order in which they are listed to users. -/
def all : List Kind :=
  [endOfInput, integer, float, string, char, operator, delimiter, reserved, type, identifier,
   none]

/-- What the kind is called. -/
def name : Kind → String
  | endOfInput => "end of input"
  | integer => "integer"
  | float => "float"
  | string => "string"
  | char => "char"
  | operator => "operator"
  | delimiter => "delimiter"
  | reserved => "reserved word"
  | type => "type"
  | identifier => "identifier"
  | none => "none"

instance : ToString Kind := ⟨name⟩

end Kind

/-- What is known of a token beyond its kind. -/
inductive Detail where
  | none
  | decimal
  | hex
  | interpreted
  | raw
  | operator (operator : Operator)
  | delimiter (delimiter : Delimiter)
  | keyword (keyword : Keyword)
  | builtin (type : BuiltinType)
deriving DecidableEq, Repr

namespace Detail

/-- The spelling in a source, for the details that fix it. -/
def spelling? : Detail → Option String
  | operator o => some o.spelling
  | delimiter d => some d.spelling
  | keyword k => some k.spelling
  | builtin t => some t.spelling
  | none | decimal | hex | interpreted | raw => Option.none

instance : ToString Detail where
  toString
    | none => "-"
    | decimal => "decimal"
    | hex => "hex"
    | interpreted => "interpreted"
    | raw => "raw"
    | operator o => "operator `" ++ o.spelling ++ "`"
    | delimiter d => "delimiter `" ++ d.spelling ++ "`"
    | keyword k => "keyword `" ++ k.spelling ++ "`"
    | builtin t => "type `" ++ t.spelling ++ "`"

end Detail

end Token

/-- A lexical unit of a source. -/
structure Token where
  /-- The lexical class. -/
  kind : Token.Kind := .none
  /-- The decoded text of strings and characters, the canonical text of floats, and the text as it
  stands in the source for all others. -/
  value : String := ""
  /-- What is known beyond the kind. -/
  detail : Token.Detail := .none
  /-- Where the token stands. -/
  span : Span := {}
deriving DecidableEq, Repr, Inhabited

namespace Token

/-- The token that marks the end of a source. -/
def endOfInput (span : Span) : Token :=
  { kind := .endOfInput, span }

/-- Whether the token marks the end of a source. -/
def isEndOfInput (token : Token) : Bool :=
  token.kind == .endOfInput

/-- Whether the token is the given keyword. -/
def isKeyword (token : Token) (keyword : Keyword) : Bool :=
  token.detail == .keyword keyword

/-- Whether the token is the given operator. -/
def isOperator (token : Token) (operator : Operator) : Bool :=
  token.detail == .operator operator

/-- Whether the token is the given delimiter. -/
def isDelimiter (token : Token) (delimiter : Delimiter) : Bool :=
  token.detail == .delimiter delimiter

instance : ToString Token where
  toString token :=
    toString token.kind ++ "(" ++ quotedText token.value ++ ") at " ++ toString token.span.start

end Token

end Lexis
