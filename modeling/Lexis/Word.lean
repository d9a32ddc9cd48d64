/-!
# Words

The words with a meaning of their own: the keywords, which are reserved, and the names of the
builtin types.  What a word is and how it is spelt are two listings each.
-/

namespace Lexis

/-- The reserved words of the language. -/
inductive Keyword where
  | breakWord
  | caseWord
  | chanWord
  | constWord
  | continueWord
  | defaultWord
  | deferWord
  | doWord
  | elseWord
  | falseWord
  | forWord
  | funcWord
  | goWord
  | gotoWord
  | ifWord
  | importWord
  | interfaceWord
  | mapWord
  | packageWord
  | rangeWord
  | returnWord
  | selectWord
  | structWord
  | switchWord
  | trueWord
  | typeWord
  | varWord
  | runeWord
deriving DecidableEq, Repr

namespace Keyword

/-- All keywords, in the order in which they are listed to users. -/
def all : List Keyword :=
  [breakWord, caseWord, chanWord, constWord, continueWord, defaultWord, deferWord, doWord,
   elseWord, falseWord, forWord, funcWord, goWord, gotoWord, ifWord, importWord, interfaceWord,
   mapWord, packageWord, rangeWord, returnWord, selectWord, structWord, switchWord, trueWord,
   typeWord, varWord, runeWord]

/-- The word as it stands in a source. -/
def spelling : Keyword → String
  | breakWord => "break"
  | caseWord => "case"
  | chanWord => "chan"
  | constWord => "const"
  | continueWord => "continue"
  | defaultWord => "default"
  | deferWord => "defer"
  | doWord => "do"
  | elseWord => "else"
  | falseWord => "false"
  | forWord => "for"
  | funcWord => "func"
  | goWord => "go"
  | gotoWord => "goto"
  | ifWord => "if"
  | importWord => "import"
  | interfaceWord => "interface"
  | mapWord => "map"
  | packageWord => "package"
  | rangeWord => "range"
  | returnWord => "return"
  | selectWord => "select"
  | structWord => "struct"
  | switchWord => "switch"
  | trueWord => "true"
  | typeWord => "type"
  | varWord => "var"
  | runeWord => "rune"

/-- The keyword that `word` is. -/
def ofSpelling? (word : String) : Option Keyword :=
  match word with
  | "break" => some breakWord
  | "case" => some caseWord
  | "chan" => some chanWord
  | "const" => some constWord
  | "continue" => some continueWord
  | "default" => some defaultWord
  | "defer" => some deferWord
  | "do" => some doWord
  | "else" => some elseWord
  | "false" => some falseWord
  | "for" => some forWord
  | "func" => some funcWord
  | "go" => some goWord
  | "goto" => some gotoWord
  | "if" => some ifWord
  | "import" => some importWord
  | "interface" => some interfaceWord
  | "map" => some mapWord
  | "package" => some packageWord
  | "range" => some rangeWord
  | "return" => some returnWord
  | "select" => some selectWord
  | "struct" => some structWord
  | "switch" => some switchWord
  | "true" => some trueWord
  | "type" => some typeWord
  | "var" => some varWord
  | "rune" => some runeWord
  | _ => none

/-- The list of all keywords misses none. -/
theorem mem_all (keyword : Keyword) : keyword ∈ all := by
  cases keyword <;> decide

end Keyword

/-- The types that need no declaration. -/
inductive BuiltinType where
  | bool
  | int
  | float
  | string
  | byte
deriving DecidableEq, Repr

namespace BuiltinType

/-- All builtin types, in the order in which they are listed to users. -/
def all : List BuiltinType := [bool, int, float, string, byte]

/-- The name of the type as it stands in a source. -/
def spelling : BuiltinType → String
  | bool => "bool"
  | int => "int"
  | float => "float"
  | string => "string"
  | byte => "byte"

/-- The builtin type that `word` is the name of. -/
def ofSpelling? (word : String) : Option BuiltinType :=
  match word with
  | "bool" => some bool
  | "int" => some int
  | "float" => some float
  | "string" => some string
  | "byte" => some byte
  | _ => none

/-- The list of all builtin types misses none. -/
theorem mem_all (type : BuiltinType) : type ∈ all := by
  cases type <;> decide

end BuiltinType

/-- What a run of identifier characters is: a keyword first, then a builtin type, else a name. -/
inductive Word where
  | keyword (reserved : Keyword)
  | builtin (type : BuiltinType)
  | name
deriving DecidableEq, Repr

namespace Word

/-- The word that is spelt `text`. -/
def ofSpelling (text : String) : Word :=
  match Keyword.ofSpelling? text with
  | some reserved => .keyword reserved
  | none =>
      match BuiltinType.ofSpelling? text with
      | some type => .builtin type
      | none => .name

end Word

end Lexis
