/-!
# Symbols

Operators and delimiters, their spellings, and the table in which a scanner looks them up.
-/

namespace Lexis

/-- The operators of the language. -/
inductive Operator where
  | plus
  | minus
  | star
  | slash
  | percent
  | ampersand
  | pipe
  | caret
  | shiftLeft
  | shiftRight
  | andNot
  | assign
  | define
  | plusAssign
  | minusAssign
  | starAssign
  | slashAssign
  | percentAssign
  | ampersandAssign
  | pipeAssign
  | caretAssign
  | shiftLeftAssign
  | shiftRightAssign
  | andNotAssign
  | equal
  | notEqual
  | less
  | lessEqual
  | greater
  | greaterEqual
  | andAnd
  | orOr
  | not
  | plusPlus
  | minusMinus
  | arrow
deriving DecidableEq, Repr

namespace Operator

/-- All operators, in the order in which they are listed to users. -/
def all : List Operator :=
  [plus, minus, star, slash, percent, ampersand, pipe, caret, shiftLeft, shiftRight, andNot,
   assign, define, plusAssign, minusAssign, starAssign, slashAssign, percentAssign,
   ampersandAssign, pipeAssign, caretAssign, shiftLeftAssign, shiftRightAssign, andNotAssign,
   equal, notEqual, less, lessEqual, greater, greaterEqual, andAnd, orOr, not, plusPlus,
   minusMinus, arrow]

/-- The operator as it stands in a source. -/
def spelling : Operator → String
  | plus => "+"
  | minus => "-"
  | star => "*"
  | slash => "/"
  | percent => "%"
  | ampersand => "&"
  | pipe => "|"
  | caret => "^"
  | shiftLeft => "<<"
  | shiftRight => ">>"
  | andNot => "&^"
  | assign => "="
  | define => ":="
  | plusAssign => "+="
  | minusAssign => "-="
  | starAssign => "*="
  | slashAssign => "/="
  | percentAssign => "%="
  | ampersandAssign => "&="
  | pipeAssign => "|="
  | caretAssign => "^="
  | shiftLeftAssign => "<<="
  | shiftRightAssign => ">>="
  | andNotAssign => "&^="
  | equal => "=="
  | notEqual => "!="
  | less => "<"
  | lessEqual => "<="
  | greater => ">"
  | greaterEqual => ">="
  | andAnd => "&&"
  | orOr => "||"
  | not => "!"
  | plusPlus => "++"
  | minusMinus => "--"
  | arrow => "<-"

/-- Whether the operator stores into its left side, with or without computing first. -/
def isAssignment : Operator → Bool
  | assign | define | plusAssign | minusAssign | starAssign | slashAssign | percentAssign
  | ampersandAssign | pipeAssign | caretAssign | shiftLeftAssign | shiftRightAssign
  | andNotAssign => true
  | _ => false

/-- The list of all operators misses none. -/
theorem mem_all (operator : Operator) : operator ∈ all := by
  cases operator <;> decide

end Operator

/-- Brackets, separators and the marks that join or part. -/
inductive Delimiter where
  | leftParen
  | rightParen
  | leftBrace
  | rightBrace
  | leftBracket
  | rightBracket
  | comma
  | semicolon
  | dot
  | colon
  | ellipsis
deriving DecidableEq, Repr

namespace Delimiter

/-- All delimiters, in the order in which they are listed to users. -/
def all : List Delimiter :=
  [leftParen, rightParen, leftBrace, rightBrace, leftBracket, rightBracket, comma, semicolon, dot,
   colon, ellipsis]

/-- The delimiter as it stands in a source. -/
def spelling : Delimiter → String
  | leftParen => "("
  | rightParen => ")"
  | leftBrace => "\x7b"
  | rightBrace => "\x7d"
  | leftBracket => "["
  | rightBracket => "]"
  | comma => ","
  | semicolon => ";"
  | dot => "."
  | colon => ":"
  | ellipsis => "..."

/-- The list of all delimiters misses none. -/
theorem mem_all (delimiter : Delimiter) : delimiter ∈ all := by
  cases delimiter <;> decide

end Delimiter

/-- An operator or a delimiter. -/
inductive Symbol where
  | operator (operator : Operator)
  | delimiter (delimiter : Delimiter)
deriving DecidableEq, Repr

namespace Symbol

/-- All symbols. -/
def all : List Symbol :=
  Operator.all.map operator ++ Delimiter.all.map delimiter

/-- The symbol as it stands in a source. -/
def spelling : Symbol → String
  | operator o => o.spelling
  | delimiter d => d.spelling

/-- The texts that are tried for a symbol, and the symbols they are, the longer ones first. -/
def table : List (String × Symbol) :=
  [("<<=", operator .shiftLeftAssign), (">>=", operator .shiftRightAssign),
   ("&^=", operator .andNotAssign), ("...", delimiter .ellipsis),
   ("+=", operator .plusAssign), ("-=", operator .minusAssign), ("*=", operator .starAssign),
   ("/=", operator .slashAssign), ("%=", operator .percentAssign),
   ("&=", operator .ampersandAssign), ("|=", operator .pipeAssign), ("^=", operator .caretAssign),
   ("<<", operator .shiftLeft), (">>", operator .shiftRight), ("&^", operator .andNot),
   ("&&", operator .andAnd), ("||", operator .orOr), ("<-", operator .arrow),
   ("++", operator .plusPlus), ("--", operator .minusMinus), ("==", operator .equal),
   ("!=", operator .notEqual), ("<=", operator .lessEqual), (">=", operator .greaterEqual),
   (":=", operator .define),
   ("+", operator .plus), ("-", operator .minus), ("*", operator .star), ("/", operator .slash),
   ("%", operator .percent), ("&", operator .ampersand), ("|", operator .pipe),
   ("^", operator .caret), ("<", operator .less), (">", operator .greater),
   ("=", operator .assign), ("!", operator .not), ("(", delimiter .leftParen),
   (")", delimiter .rightParen), ("\x7b", delimiter .leftBrace), ("\x7d", delimiter .rightBrace),
   ("[", delimiter .leftBracket), ("]", delimiter .rightBracket), (",", delimiter .comma),
   (";", delimiter .semicolon), (".", delimiter .dot), (":", delimiter .colon)]

/-- The first row of the table whose text stands at the head of `text`. -/
def first? (text : List Char) : Option (String × Symbol) :=
  table.find? fun row => row.1.toList.isPrefixOf text

/-- The text that the table has for the symbol. -/
def text (symbol : Symbol) : String :=
  ((table.find? fun row => row.2 == symbol).map Prod.fst).getD ""

/-- No text of the table is empty. -/
theorem utf8ByteSize_pos_of_mem_table {row : String × Symbol} (h : row ∈ table) :
    0 < row.1.utf8ByteSize := by
  have hall : ∀ row ∈ table, 0 < row.1.utf8ByteSize := by decide
  exact hall row h

/-- The list of all symbols misses none. -/
theorem mem_all (symbol : Symbol) : symbol ∈ all := by
  cases symbol with
  | operator o => simp [all, o.mem_all]
  | delimiter d => simp [all, d.mem_all]

end Symbol

end Lexis
