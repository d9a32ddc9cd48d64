import Lexis.Lexer.Basic

/-!
# Sessions with a lexer

The ways to ask one lexer for tokens, errors and reports may be mixed at will.  A call is one
question, and its answer comes with the lexer that the next call is put to.
-/

namespace Lexis

namespace Lexer

/-- A question put to a lexer. -/
inductive Call where
  | nextToken
  | next
  | collect
  | tokenize
  | diagnostics
  | takeDiagnostics
deriving DecidableEq, Repr

/-- What a lexer answers. -/
inductive Answer where
  /-- The next token or error. -/
  | outcome (outcome : Outcome)
  /-- The next token or error, if there is one before the end of the source. -/
  | outcome? (outcome : Option Outcome)
  /-- All tokens and errors up to the end of the source. -/
  | outcomes (outcomes : List Outcome)
  /-- All tokens through the end of the source. -/
  | tokens (tokens : List Token)
  /-- The reports on record. -/
  | diagnostics (diagnostics : Diagnostics)

/-- The answer to a call, and the lexer after it. -/
def answer (lexer : Lexer) : Call → Answer × Lexer
  | .nextToken =>
      let (outcome, last) := lexer.nextToken
      (.outcome outcome, last)
  | .next =>
      let (outcome, last) := lexer.next?
      (.outcome? outcome, last)
  | .collect =>
      let (outcomes, last) := lexer.collect
      (.outcomes outcomes, last)
  | .tokenize =>
      let (tokens, last) := lexer.tokenize
      (.tokens tokens, last)
  | .diagnostics => (.diagnostics lexer.diagnostics, lexer)
  | .takeDiagnostics =>
      let (diagnostics, last) := lexer.takeDiagnostics
      (.diagnostics diagnostics, last)

/-- The answers to calls put one after the other, each with the lexer after it. -/
def answers (lexer : Lexer) : List Call → List (Answer × Lexer)
  | [] => []
  | call :: calls =>
      let (answer, last) := lexer.answer call
      (answer, last) :: last.answers calls

end Lexer

end Lexis
