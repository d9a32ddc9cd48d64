import Lexis.Lexer.Basic

/-!
# Runs over whole sources

What a lexer hands out for a whole source, tokens and errors apart, and the text of all reports
about it.
-/

namespace Lexis

/-- Everything handed out for one source. -/
structure Run where
  /-- The tokens in source order, without the end of the source. -/
  tokens : List Token
  /-- The errors in source order. -/
  errors : List LexicalError
deriving DecidableEq, Repr

namespace Run

/-- The tokens and the errors among `outcomes`. -/
def ofOutcomes : List Outcome → Run
  | [] => ⟨[], []⟩
  | .ok token :: outcomes =>
      let run := ofOutcomes outcomes
      { run with tokens := token :: run.tokens }
  | .error error :: outcomes =>
      let run := ofOutcomes outcomes
      { run with errors := error :: run.errors }

/-- The run over a source. -/
def ofSource (source : String) : Run :=
  ofOutcomes (Lexer.ofSource source 0).collect.1

/-- The run over a source in which nothing may be faulty. -/
def faultless? (source : String) : Option Run :=
  let run := ofSource source
  if run.errors.isEmpty then some run else none

/-- The run over a source in which something must be faulty. -/
def faulty? (source : String) : Option Run :=
  let run := ofSource source
  if run.errors.isEmpty then none else some run

end Run

/-- The text of all reports about the source with the given name. -/
def faultReport (name source : String) : String :=
  (tokenize source 0).2.render (.ofText name source)

end Lexis
