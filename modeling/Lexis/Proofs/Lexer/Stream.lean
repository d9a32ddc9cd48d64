import Lexis.Lexer.Session
import Lexis.Proofs.Lexer.Step

/-!
# The stream behind a lexer

Whatever a lexer is asked, it answers from one stream: the outcomes of
`Lexer.nextToken`, called again and again.  This module names that stream and
says what it is made of.

* `Lexer.stream` is the endless stream, and `Lexer.afterCalls` the lexer behind
  each of its members.
* `Lexer.outcomes` is the stream up to the first token of the end of the source,
  that one included.  `Lexer.results` lists the lexers after the calls as well.
* `outcomesFrom` is the same list computed from the unread text, its position
  and the number of the file, and `outcomes_eq_outcomesFrom` says that a lexer
  has nothing else to go by.
* `stream_isEndOfInput_iff` and `stream_eq_of_le` fix the shape of the stream:
  before the last member of `outcomes` nothing ends the source, and from there
  on the stream is constant.
-/

namespace Lexis

/-! ## Repeated calls -/

namespace Lexer

/-- The lexer after `count` calls of `nextToken`. -/
def afterCalls (lexer : Lexer) : Nat → Lexer
  | 0 => lexer
  | count + 1 => lexer.nextToken.2.afterCalls count

/-- What the call number `index` of `nextToken` hands out, counted from zero. -/
def stream (lexer : Lexer) (index : Nat) : Outcome :=
  (lexer.afterCalls index).nextToken.1

@[simp] theorem afterCalls_zero (lexer : Lexer) : lexer.afterCalls 0 = lexer := rfl

theorem afterCalls_succ (lexer : Lexer) (count : Nat) :
    lexer.afterCalls (count + 1) = lexer.nextToken.2.afterCalls count := rfl

theorem afterCalls_add (lexer : Lexer) (count more : Nat) :
    lexer.afterCalls (count + more) = (lexer.afterCalls count).afterCalls more := by
  induction count generalizing lexer with
  | zero => rw [Nat.zero_add, afterCalls_zero]
  | succ count ih =>
      rw [Nat.add_right_comm, afterCalls_succ, ih, afterCalls_succ]

@[simp] theorem stream_zero (lexer : Lexer) : lexer.stream 0 = lexer.nextToken.1 := rfl

theorem stream_succ (lexer : Lexer) (index : Nat) :
    lexer.stream (index + 1) = lexer.nextToken.2.stream index := rfl

theorem stream_add (lexer : Lexer) (count index : Nat) :
    lexer.stream (count + index) = (lexer.afterCalls count).stream index := by
  rw [stream, stream, afterCalls_add]

/-- A lexer reads on from its cursor, whatever is on record. -/
theorem nextToken_eq (lexer : Lexer) :
    lexer.nextToken =
      (lexer.cursor.step.1,
        { lexer with
          cursor := lexer.cursor.step.2
          log := lexer.log.push (.ofOutcome lexer.cursor.step.1) }) := rfl

theorem nextToken_fst (lexer : Lexer) :
    lexer.nextToken.1 =
      (Reading.ofText lexer.cursor.rest).toOutcome lexer.position lexer.cursor.fileId := by
  rw [nextToken_eq, Cursor.step_eq]
  rfl

theorem rest_nextToken (lexer : Lexer) :
    lexer.nextToken.2.cursor.rest = (Reading.ofText lexer.cursor.rest).rest :=
  lexer.cursor.rest_step

theorem position_nextToken (lexer : Lexer) :
    lexer.nextToken.2.position = (Reading.ofText lexer.cursor.rest).stop lexer.position := by
  rw [position, cursor_nextToken, Cursor.step_eq]
  rfl

theorem fileId_nextToken (lexer : Lexer) :
    lexer.nextToken.2.cursor.fileId = lexer.cursor.fileId := by
  rw [cursor_nextToken, Cursor.step_eq]

/-- The end of the source is handed out where the reading finds nothing. -/
theorem isEndOfInput_nextToken_iff (lexer : Lexer) :
    lexer.nextToken.1.isEndOfInput = true ↔ (Reading.ofText lexer.cursor.rest).outcome = none := by
  rw [nextToken_fst, Reading.isEndOfInput_toOutcome, Option.isNone_iff_eq_none]

theorem cursor_afterCalls_congr {lexer other : Lexer} (h : lexer.cursor = other.cursor)
    (count : Nat) : (lexer.afterCalls count).cursor = (other.afterCalls count).cursor := by
  induction count generalizing lexer other with
  | zero => exact h
  | succ count ih =>
      rw [afterCalls_succ, afterCalls_succ]
      apply ih
      rw [cursor_nextToken, cursor_nextToken, h]

/-- Lexers at the same place have the same stream. -/
theorem stream_congr {lexer other : Lexer} (h : lexer.cursor = other.cursor) :
    lexer.stream = other.stream := by
  funext index
  have hcursor := cursor_afterCalls_congr h index
  rw [stream, stream, nextToken_eq, nextToken_eq, hcursor]

/-- Calls of `nextToken` record no diagnostics. -/
theorem diagnostics_afterCalls (lexer : Lexer) (count : Nat) :
    (lexer.afterCalls count).diagnostics = lexer.diagnostics := by
  induction count generalizing lexer with
  | zero => rfl
  | succ count ih => rw [afterCalls_succ, ih]; rfl

/-- Everything up to and including the end of the source, each with the lexer
after the call. -/
def results (lexer : Lexer) : List (Outcome × Lexer) :=
  if _h : lexer.nextToken.1.isEndOfInput then [lexer.nextToken]
  else lexer.nextToken :: lexer.nextToken.2.results
termination_by lexer.cursor.rest.length
decreasing_by exact length_rest_nextToken_lt (by simpa using _h)

/-- Everything that is handed out up to and including the end of the source. -/
def outcomes (lexer : Lexer) : List Outcome :=
  lexer.results.map Prod.fst

theorem outcomes_of_isEndOfInput {lexer : Lexer} (h : lexer.nextToken.1.isEndOfInput = true) :
    lexer.outcomes = [lexer.nextToken.1] := by
  rw [outcomes, results, dif_pos h]
  rfl

theorem outcomes_of_not_isEndOfInput {lexer : Lexer}
    (h : lexer.nextToken.1.isEndOfInput = false) :
    lexer.outcomes = lexer.nextToken.1 :: lexer.nextToken.2.outcomes := by
  rw [outcomes, results, dif_neg (by simp [h])]
  rfl

theorem outcomes_ne_nil (lexer : Lexer) : lexer.outcomes ≠ [] := by
  cases h : lexer.nextToken.1.isEndOfInput with
  | true => simp [outcomes_of_isEndOfInput h]
  | false => simp [outcomes_of_not_isEndOfInput h]

theorem length_outcomes_pos (lexer : Lexer) : 0 < lexer.outcomes.length :=
  List.length_pos_iff.2 lexer.outcomes_ne_nil

/-- The list is the beginning of the stream. -/
theorem outcomes_eq_map_stream (lexer : Lexer) :
    lexer.outcomes = (List.range lexer.outcomes.length).map lexer.stream := by
  fun_induction results lexer with
  | case1 lexer h =>
      rw [outcomes_of_isEndOfInput h]
      rfl
  | case2 lexer h ih =>
      have hfirst : lexer.nextToken.1.isEndOfInput = false := by simpa using h
      rw [outcomes_of_not_isEndOfInput hfirst, List.length_cons, List.range_succ_eq_map,
        List.map_cons, List.map_map]
      congr 1

/-! ## The end of the stream -/

/-- The end of the source is handed out the same, as often as it is asked for. -/
theorem nextToken_nextToken_of_isEndOfInput {lexer : Lexer}
    (h : lexer.nextToken.1.isEndOfInput = true) :
    lexer.nextToken.2.nextToken.1 = lexer.nextToken.1 := by
  have hend := (isEndOfInput_nextToken_iff lexer).1 h
  rw [nextToken_fst, rest_nextToken, position_nextToken, fileId_nextToken, nextToken_fst,
    Reading.ofText_of_outcome_eq_none hend, Reading.ofText_nil]
  rfl

/-- From the end of the source on, the stream is constant. -/
theorem stream_of_isEndOfInput {lexer : Lexer} (h : lexer.nextToken.1.isEndOfInput = true)
    (index : Nat) : lexer.stream index = lexer.nextToken.1 := by
  induction index generalizing lexer with
  | zero => rfl
  | succ index ih =>
      have hnext := nextToken_nextToken_of_isEndOfInput h
      rw [stream_succ, ih (by rw [hnext, h]), hnext]

/-- The end of the source comes with the last of `outcomes`, and with every
call from there on. -/
theorem stream_isEndOfInput_iff (lexer : Lexer) (index : Nat) :
    (lexer.stream index).isEndOfInput = true ↔ lexer.outcomes.length ≤ index + 1 := by
  induction index generalizing lexer with
  | zero =>
      rw [stream_zero]
      cases h : lexer.nextToken.1.isEndOfInput with
      | true => simp [outcomes_of_isEndOfInput h]
      | false =>
          have hpos := lexer.nextToken.2.length_outcomes_pos
          rw [outcomes_of_not_isEndOfInput h, List.length_cons]
          simp only [Bool.false_eq_true, false_iff]
          omega
  | succ index ih =>
      cases h : lexer.nextToken.1.isEndOfInput with
      | true => simp [outcomes_of_isEndOfInput h, stream_of_isEndOfInput h, h]
      | false =>
          rw [stream_succ, ih, outcomes_of_not_isEndOfInput h, List.length_cons]
          omega

/-- The stream is constant from the last of `outcomes` on. -/
theorem stream_eq_of_le {lexer : Lexer} {index : Nat} (h : lexer.outcomes.length ≤ index + 1) :
    lexer.stream index = lexer.stream (lexer.outcomes.length - 1) := by
  have hpos := lexer.length_outcomes_pos
  obtain ⟨more, rfl⟩ : ∃ more, index = (lexer.outcomes.length - 1) + more :=
    ⟨index - (lexer.outcomes.length - 1), by omega⟩
  have hend : (lexer.stream (lexer.outcomes.length - 1)).isEndOfInput = true := by
    rw [stream_isEndOfInput_iff]
    omega
  rw [stream_add]
  exact stream_of_isEndOfInput hend more

end Lexer

/-! ## The stream computed from the text -/

/-- The outcomes up to the end of `text`, which stands at `start` in the file
number `fileId`. -/
def outcomesFrom (fileId : Nat) (start : Position) (text : List Char) : List Outcome :=
  if _h : (Reading.ofText text).outcome = none then [(Reading.ofText text).toOutcome start fileId]
  else
    (Reading.ofText text).toOutcome start fileId ::
      outcomesFrom fileId ((Reading.ofText text).stop start) (Reading.ofText text).rest
termination_by text.length
decreasing_by exact Reading.length_rest_ofText_lt _h

theorem outcomesFrom_of_eq_none {text : List Char} (h : (Reading.ofText text).outcome = none)
    (fileId : Nat) (start : Position) :
    outcomesFrom fileId start text =
      [.ok (.endOfInput (.point (start.after text) fileId))] := by
  rw [outcomesFrom, dif_pos h, Reading.ofText_of_outcome_eq_none h]
  rfl

theorem outcomesFrom_of_ne_none {text : List Char} (h : (Reading.ofText text).outcome ≠ none)
    (fileId : Nat) (start : Position) :
    outcomesFrom fileId start text =
      (Reading.ofText text).toOutcome start fileId ::
        outcomesFrom fileId ((Reading.ofText text).stop start) (Reading.ofText text).rest := by
  rw [outcomesFrom, dif_neg h]

theorem outcomesFrom_ne_nil (fileId : Nat) (start : Position) (text : List Char) :
    outcomesFrom fileId start text ≠ [] := by
  rw [outcomesFrom]
  split <;> simp

/-- What is read behind more trivia is read the same, further on. -/
theorem outcomesFrom_of_behind {text before more : List Char}
    (h : Reading.ofText text = (Reading.ofText more).behind before) (fileId : Nat)
    (start : Position) :
    outcomesFrom fileId start text = outcomesFrom fileId (start.after before) more := by
  by_cases hend : (Reading.ofText more).outcome = none
  · rw [outcomesFrom, dif_pos (by simpa [h] using hend), outcomesFrom, dif_pos hend, h,
      Reading.toOutcome_behind]
  · rw [outcomesFrom_of_ne_none (by simpa [h] using hend), outcomesFrom_of_ne_none hend, h,
      Reading.toOutcome_behind, Reading.stop_behind, Reading.behind_rest]

/-- A lexer goes by the unread text, its position and the number of the file, and
by nothing else. -/
theorem Lexer.outcomes_eq_outcomesFrom (lexer : Lexer) :
    lexer.outcomes =
      outcomesFrom lexer.cursor.fileId lexer.position lexer.cursor.rest := by
  fun_induction Lexer.results lexer with
  | case1 lexer h =>
      have hend := (isEndOfInput_nextToken_iff lexer).1 h
      rw [outcomes_of_isEndOfInput h, outcomesFrom, dif_pos hend, nextToken_fst]
  | case2 lexer h ih =>
      have hnext := mt (isEndOfInput_nextToken_iff lexer).2 h
      rw [outcomes_of_not_isEndOfInput (by simpa using h), ih, outcomesFrom_of_ne_none hnext,
        nextToken_fst, rest_nextToken, fileId_nextToken, position_nextToken]

/-- The outcomes of a whole source. -/
theorem Lexer.outcomes_ofSource (source : String) (fileId : Nat) :
    (Lexer.ofSource source fileId).outcomes = outcomesFrom fileId .start source.toList :=
  Lexer.outcomes_eq_outcomesFrom _

end Lexis
