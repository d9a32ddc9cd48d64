import Lexis.Diagnostic.Collection
import Lexis.Reading
import Lexis.Text.Cursor

/-!
# The lexer

A lexer stands at a place of a source and hands out its tokens and errors one by one.  It keeps two
records: the diagnostics of the errors that `Lexer.tokenize` met, and a log of everything that was
handed out.

Every step but the one at the end of the source shortens the unread text, so that reading to the end
is a recursion on its length.
-/

namespace Lexis

/-- What one step of a lexer hands out. -/
abbrev Outcome := Except LexicalError Token

namespace Outcome

/-- Whether the step was at the end of the source. -/
def isEndOfInput : Outcome → Bool
  | .ok token => token.isEndOfInput
  | .error _ => false

end Outcome

/-- What a lexer writes into its log. -/
inductive Event where
  /-- A token was handed out, at the end of the source too. -/
  | token (token : Token)
  /-- An error was handed out. -/
  | error (error : LexicalError)
  /-- A source was read to its end. -/
  | summary (tokens errors : Nat)
deriving DecidableEq, Repr

namespace Event

/-- How much an event matters. -/
inductive Level where
  | trace
  | debug
deriving DecidableEq, Repr

/-- Tokens are the finest events. -/
def level : Event → Level
  | token _ => .trace
  | error _ | summary .. => .debug

/-- The text of an event. -/
def message : Event → String
  | token t => toString t ++ " " ++ toString t.detail
  | error e => toString e ++ " [" ++ toString e.code ++ "]"
  | summary tokens errors =>
      "lexed " ++ toString tokens ++ " tokens with " ++ toString errors ++ " errors"

/-- The event of handing something out. -/
def ofOutcome : Outcome → Event
  | .ok t => token t
  | .error e => error e

end Event

namespace Cursor

/-- The token or the error at the head of the unread text, and the cursor behind it. -/
def step (cursor : Cursor) : Outcome × Cursor :=
  let reading := Reading.ofText cursor.rest
  let first := cursor.advanceBy reading.trivia.length
  let last := first.advanceBy reading.read.length
  let span := last.spanSince first.position
  let outcome := match reading.outcome with
    | none => .ok (.endOfInput span)
    | some (.ok lexeme) => .ok (lexeme.toToken span)
    | some (.error fault) => .error ⟨fault, span⟩
  (outcome, last)

/-- A step leaves unread what the reading of the text leaves. -/
theorem rest_step (cursor : Cursor) : cursor.step.2.rest = (Reading.ofText cursor.rest).rest := by
  have happend := Reading.ofText_append cursor.rest
  simp only [step, advanceBy_rest]
  generalize Reading.ofText cursor.rest = reading at happend ⊢
  rw [← happend]
  simp

/-- The step that hands out the end of the source is the one with nothing to take. -/
theorem isEndOfInput_step (cursor : Cursor) :
    cursor.step.1.isEndOfInput = (Reading.ofText cursor.rest).outcome.isNone := by
  simp only [step]
  split
  · next h => simp [h, Outcome.isEndOfInput, Token.isEndOfInput, Token.endOfInput]
  · next lexeme h =>
      simp only [h, Option.isNone_some, Outcome.isEndOfInput, Lexeme.isEndOfInput_toToken]
  · next h => simp [h, Outcome.isEndOfInput]

/-- A step before the end of the source shortens the unread text. -/
theorem length_rest_step_lt {cursor : Cursor} (h : cursor.step.1.isEndOfInput = false) :
    cursor.step.2.rest.length < cursor.rest.length := by
  rw [isEndOfInput_step] at h
  rw [rest_step]
  apply Reading.length_rest_ofText_lt
  intro hnone
  simp [hnone] at h

end Cursor

/-- A place of reading in a source, with the records kept so far. -/
structure Lexer where
  /-- The place. -/
  cursor : Cursor
  /-- The errors that `Lexer.tokenize` met and nobody has taken yet. -/
  diagnostics : Diagnostics := ∅
  /-- What has been handed out. -/
  log : Array Event := #[]

namespace Lexer

/-- The lexer at the beginning of `source`. -/
def ofSource (source : String) (fileId : Nat) : Lexer :=
  { cursor := .ofSource source fileId }

/-- The position of the next unread character. -/
def position (lexer : Lexer) : Position :=
  lexer.cursor.position

/-- Hands out the next token or error.  At the end of the source, that is the token of the end, as
often as it is asked for. -/
def nextToken (lexer : Lexer) : Outcome × Lexer :=
  let (outcome, cursor) := lexer.cursor.step
  (outcome, { lexer with cursor, log := lexer.log.push (.ofOutcome outcome) })

/-- Hands out the next token or error, or nothing at the end of the source. -/
def next? (lexer : Lexer) : Option Outcome × Lexer :=
  let (outcome, lexer) := lexer.nextToken
  (if outcome.isEndOfInput then none else some outcome, lexer)

/-- Adds the report of an error to the record. -/
def record (lexer : Lexer) (error : LexicalError) : Lexer :=
  { lexer with diagnostics := lexer.diagnostics.push error.toDiagnostic }

/-- Hands out the record of errors and begins a new one. -/
def takeDiagnostics (lexer : Lexer) : Diagnostics × Lexer :=
  (lexer.diagnostics, { lexer with diagnostics := ∅ })

@[simp] theorem cursor_nextToken (lexer : Lexer) :
    lexer.nextToken.2.cursor = lexer.cursor.step.2 := rfl

@[simp] theorem cursor_record (lexer : Lexer) (error : LexicalError) :
    (lexer.record error).cursor = lexer.cursor := rfl

theorem length_rest_nextToken_lt {lexer : Lexer} (h : lexer.nextToken.1.isEndOfInput = false) :
    lexer.nextToken.2.cursor.rest.length < lexer.cursor.rest.length :=
  Cursor.length_rest_step_lt h

theorem length_rest_next?_lt {lexer : Lexer} {outcome : Outcome}
    (h : lexer.next?.1 = some outcome) :
    lexer.next?.2.cursor.rest.length < lexer.cursor.rest.length := by
  apply length_rest_nextToken_lt
  simp only [next?] at h
  split at h
  · simp at h
  · next hend => simpa using hend

/-- Hands out everything up to the end of the source. -/
def collect (lexer : Lexer) : List Outcome × Lexer :=
  match _h : lexer.next? with
  | (some outcome, next) =>
      let (outcomes, last) := next.collect
      (outcome :: outcomes, last)
  | (none, next) => ([], next)
termination_by lexer.cursor.rest.length
decreasing_by
  have := @length_rest_next?_lt lexer outcome (by rw [_h])
  simpa [_h] using this

/-- Reads to the end of the source, recording the errors.  The last token is that of the end. -/
def readTokens (lexer : Lexer) : List Token × Lexer :=
  match _h : lexer.nextToken with
  | (.ok token, next) =>
      if token.isEndOfInput then ([token], next)
      else
        let (tokens, last) := next.readTokens
        (token :: tokens, last)
  | (.error error, next) => (next.record error).readTokens
termination_by lexer.cursor.rest.length
decreasing_by
  · next hend =>
      have := @length_rest_nextToken_lt lexer
        (by rw [_h]; simpa [Outcome.isEndOfInput] using hend)
      simpa [_h] using this
  · have := @length_rest_nextToken_lt lexer (by rw [_h]; rfl)
    simpa [_h] using this

/-- Reads to the end of the source and closes with a summary of the tokens read and of all errors on
record. -/
def tokenize (lexer : Lexer) : List Token × Lexer :=
  let (tokens, last) := lexer.readTokens
  (tokens, { last with log := last.log.push (.summary tokens.length last.diagnostics.size) })

end Lexer

/-- The tokens of a source, the end of the source last, and the reports of its errors. -/
def tokenize (source : String) (fileId : Nat) : List Token × Diagnostics :=
  let (tokens, lexer) := (Lexer.ofSource source fileId).tokenize
  (tokens, lexer.takeDiagnostics.1)

end Lexis
