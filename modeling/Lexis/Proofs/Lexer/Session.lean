import Lexis.Lexer.Session
import Lexis.Proofs.Lexer.Stream

/-!
# Sessions follow the stream

However the calls to one lexer are mixed, what they hand out is the stream of a
fresh lexer of the same source, cut into consecutive segments.

* `Call.HandsOut` says what a call makes of its segment of the stream.
* `Call.recordAfter` is the record of diagnostics behind a call: a call of
  `tokenize` adds the errors of its segment, and no other call adds any.
* `Follows` is a whole session.  The segment of each call begins where the one
  before ended, so that nothing is skipped and nothing is handed out twice.
* `answers_follow_stream` is the main result.  The invariant is `Stands`: the
  cursor is where a number of calls of `nextToken` alone would have brought it.
-/

namespace Lexis

namespace Outcome

/-- The token, if it is one. -/
def token? : Outcome → Option Token
  | .ok token => some token
  | .error _ => none

/-- The report of the error, if it is one. -/
def diagnostic? : Outcome → Option Diagnostic
  | .ok _ => none
  | .error error => some error.toDiagnostic

theorem token?_eq_some_iff {outcome : Outcome} {token : Token} :
    outcome.token? = some token ↔ outcome = .ok token := by
  cases outcome <;> simp [token?]

end Outcome

namespace Lexer

/-! ## Reading to the end -/

/-- The end of the source comes last in `outcomes`, and only there. -/
theorem outcomes_eq_append (lexer : Lexer) :
    ∃ before last, lexer.outcomes = before ++ [.ok last] ∧ last.isEndOfInput = true ∧
      ∀ outcome ∈ before, outcome.isEndOfInput = false := by
  fun_induction results lexer with
  | case1 lexer h =>
      rw [outcomes_of_isEndOfInput h]
      cases hfirst : lexer.nextToken.1 with
      | error error => simp [hfirst, Outcome.isEndOfInput] at h
      | ok last =>
          refine ⟨[], last, rfl, ?_, by simp⟩
          simpa [hfirst, Outcome.isEndOfInput] using h
  | case2 lexer h ih =>
      obtain ⟨before, last, houtcomes, hlast, hbefore⟩ := ih
      have hfirst : lexer.nextToken.1.isEndOfInput = false := by simpa using h
      refine ⟨lexer.nextToken.1 :: before, last, ?_, hlast, ?_⟩
      · rw [outcomes_of_not_isEndOfInput hfirst, houtcomes, List.cons_append]
      · intro outcome hmem
        rcases List.mem_cons.1 hmem with rfl | hmem
        · exact hfirst
        · exact hbefore outcome hmem

/-- Collecting is calling `nextToken` to the end and leaving the end out. -/
theorem collect_eq (lexer : Lexer) :
    lexer.collect = (lexer.outcomes.dropLast, lexer.afterCalls lexer.outcomes.length) := by
  fun_induction results lexer with
  | case1 lexer h =>
      have hnext : lexer.next? = (none, lexer.nextToken.2) := by simp [next?, h]
      rw [collect, outcomes_of_isEndOfInput h]
      split
      · next outcome next hsome => simp [hnext] at hsome
      · next next hnone =>
          rw [hnext] at hnone
          obtain rfl : lexer.nextToken.2 = next := by simpa using hnone
          rfl
  | case2 lexer h ih =>
      have hnext : lexer.next? = (some lexer.nextToken.1, lexer.nextToken.2) := by simp [next?, h]
      rw [collect, outcomes_of_not_isEndOfInput (by simpa using h)]
      split
      · next outcome next hsome =>
          rw [hnext] at hsome
          obtain ⟨rfl, rfl⟩ : lexer.nextToken.1 = outcome ∧ lexer.nextToken.2 = next := by
            simpa using hsome
          rw [ih, List.dropLast_cons_of_ne_nil (outcomes_ne_nil _), List.length_cons,
            afterCalls_succ]
      · next next hnone => simp [hnext] at hnone

/-- A record does not change what is read. -/
theorem outcomes_congr {lexer other : Lexer} (h : lexer.cursor = other.cursor) :
    lexer.outcomes = other.outcomes := by
  rw [outcomes_eq_outcomesFrom, outcomes_eq_outcomesFrom, position, position, h]

/-- Reading the tokens keeps the tokens of `outcomes`, puts the errors on record,
and ends where calls of `nextToken` end. -/
theorem readTokens_spec (lexer : Lexer) :
    lexer.readTokens.1 = lexer.outcomes.filterMap Outcome.token? ∧
      lexer.readTokens.2.cursor = (lexer.afterCalls lexer.outcomes.length).cursor ∧
      lexer.readTokens.2.diagnostics.toList =
        lexer.diagnostics.toList ++ lexer.outcomes.filterMap Outcome.diagnostic? := by
  fun_induction readTokens lexer with
  | case1 lexer token next hnext hend =>
      have hfirst : lexer.nextToken.1.isEndOfInput = true := by rw [hnext]; exact hend
      have hrecord : next.diagnostics = lexer.diagnostics := congrArg (·.2.diagnostics) hnext.symm
      rw [outcomes_of_isEndOfInput hfirst, hnext]
      refine ⟨rfl, ?_, ?_⟩
      · rw [List.length_singleton, afterCalls_succ, hnext]
        rfl
      · simp [hrecord, Outcome.diagnostic?]
  | case2 lexer token next hnext hend tokens last hlast ih =>
      have hfirst : lexer.nextToken.1.isEndOfInput = false := by
        rw [hnext]
        simpa [Outcome.isEndOfInput] using hend
      have hrecord : next.diagnostics = lexer.diagnostics := congrArg (·.2.diagnostics) hnext.symm
      rw [hlast] at ih
      obtain ⟨htokens, hcursor, hdiagnostics⟩ := ih
      rw [outcomes_of_not_isEndOfInput hfirst, hnext]
      refine ⟨?_, ?_, ?_⟩
      · exact congrArg (token :: ·) htokens
      · rw [List.length_cons, afterCalls_succ, hnext]
        exact hcursor
      · rw [← hrecord]
        exact hdiagnostics
  | case3 lexer error next hnext ih =>
      have hfirst : lexer.nextToken.1.isEndOfInput = false := by rw [hnext]; rfl
      have hrecord : next.diagnostics = lexer.diagnostics := congrArg (·.2.diagnostics) hnext.symm
      have hplace : (next.record error).cursor = next.cursor := cursor_record next error
      obtain ⟨htokens, hcursor, hdiagnostics⟩ := ih
      rw [outcomes_of_not_isEndOfInput hfirst, hnext]
      rw [outcomes_congr hplace] at htokens hcursor hdiagnostics
      refine ⟨?_, ?_, ?_⟩
      · exact htokens
      · rw [List.length_cons, afterCalls_succ, hnext, hcursor]
        exact cursor_afterCalls_congr hplace _
      · rw [hdiagnostics, ← hrecord]
        simp [record, Outcome.diagnostic?]

end Lexer

/-! ## Sessions -/

/-- Part of a stream, from the member number `first` on. -/
def segment (stream : Nat → Outcome) (first length : Nat) : List Outcome :=
  (List.range' first length).map stream

@[simp] theorem segment_one (stream : Nat → Outcome) (first : Nat) :
    segment stream first 1 = [stream first] := rfl

namespace Lexer

/-- What a call makes of the segment of the stream that it reads, with `record` the
reports on record.  The calls that read to the end of the source stop at the first
token of it. -/
inductive Call.HandsOut (record : List Diagnostic) : Call → List Outcome → Answer → Prop where
  /-- The next token or error is handed out as it is. -/
  | nextToken (outcome : Outcome) : HandsOut record .nextToken [outcome] (.outcome outcome)
  /-- An iteration hands out what is not the end of the source. -/
  | next {outcome : Outcome} (h : outcome.isEndOfInput = false) :
      HandsOut record .next [outcome] (.outcome? (some outcome))
  /-- At the end of the source an iteration hands out nothing. -/
  | nextAtEnd {outcome : Outcome} (h : outcome.isEndOfInput = true) :
      HandsOut record .next [outcome] (.outcome? none)
  /-- A collection holds everything before the end of the source. -/
  | collect {before : List Outcome} {last : Token}
      (hbefore : ∀ outcome ∈ before, outcome.isEndOfInput = false)
      (hlast : last.isEndOfInput = true) :
      HandsOut record .collect (before ++ [.ok last]) (.outcomes before)
  /-- The tokens of a source are handed out with that of its end. -/
  | tokenize {before : List Outcome} {last : Token}
      (hbefore : ∀ outcome ∈ before, outcome.isEndOfInput = false)
      (hlast : last.isEndOfInput = true) :
      HandsOut record .tokenize (before ++ [.ok last])
        (.tokens (before.filterMap Outcome.token? ++ [last]))
  /-- The reports on record are handed out, and the stream is not read. -/
  | diagnostics {diagnostics : Diagnostics} (h : diagnostics.toList = record) :
      HandsOut record .diagnostics [] (.diagnostics diagnostics)
  /-- The reports on record are handed out, and the stream is not read. -/
  | takeDiagnostics {diagnostics : Diagnostics} (h : diagnostics.toList = record) :
      HandsOut record .takeDiagnostics [] (.diagnostics diagnostics)

/-- The reports on record after a call that has read `outcomes`. -/
def Call.recordAfter (record : List Diagnostic) (outcomes : List Outcome) :
    Call → List Diagnostic
  | .tokenize => record ++ outcomes.filterMap Outcome.diagnostic?
  | .takeDiagnostics => []
  | .nextToken | .next | .collect | .diagnostics => record

/-- An iteration hands out the next outcome, unless it is the end of the source. -/
theorem handsOut_next (lexer : Lexer) (record : List Diagnostic) :
    Call.next.HandsOut record [lexer.nextToken.1] (lexer.answer .next).1 := by
  cases hend : lexer.nextToken.1.isEndOfInput with
  | true =>
      have hanswer : (lexer.answer .next).1 = .outcome? none := by
        simp [answer, next?, hend]
      rw [hanswer]
      exact .nextAtEnd hend
  | false =>
      have hanswer : (lexer.answer .next).1 = .outcome? (some lexer.nextToken.1) := by
        simp [answer, next?, hend]
      rw [hanswer]
      exact .next hend

/-- A collection takes everything up to the end of the source, and leaves the end out. -/
theorem handsOut_collect (lexer : Lexer) (record : List Diagnostic) :
    Call.collect.HandsOut record lexer.outcomes (lexer.answer .collect).1 := by
  obtain ⟨before, last, houtcomes, hlast, hbefore⟩ := lexer.outcomes_eq_append
  have hanswer : (lexer.answer .collect).1 = .outcomes before := by
    rw [answer, collect_eq, houtcomes, List.dropLast_concat]
  rw [hanswer, houtcomes]
  exact .collect hbefore hlast

/-- Reading the tokens takes everything up to the end of the source, and keeps the
tokens. -/
theorem handsOut_tokenize (lexer : Lexer) (record : List Diagnostic) :
    Call.tokenize.HandsOut record lexer.outcomes (lexer.answer .tokenize).1 := by
  obtain ⟨before, last, houtcomes, hlast, hbefore⟩ := lexer.outcomes_eq_append
  obtain ⟨htokens, _, _⟩ := lexer.readTokens_spec
  have hlist : lexer.readTokens.1 = before.filterMap Outcome.token? ++ [last] := by
    rw [htokens, houtcomes, List.filterMap_append]
    rfl
  have hanswer : (lexer.answer .tokenize).1 = .tokens lexer.readTokens.1 := rfl
  rw [hanswer, hlist, houtcomes]
  exact .tokenize hbefore hlast

/-- A session that goes on from the member number `first` of the stream, with
`record` the reports on record. -/
inductive Follows (stream : Nat → Outcome) :
    Nat → List Diagnostic → List Call → List (Answer × Lexer) → Prop where
  /-- Nothing is asked. -/
  | nil (first : Nat) (record : List Diagnostic) : Follows stream first record [] []
  /-- The first call takes a segment, and the others go on behind it. -/
  | cons {first length : Nat} {record : List Diagnostic} {call : Call} {answer : Answer}
      {lexer : Lexer} {calls : List Call} {answers : List (Answer × Lexer)}
      (hanswer : call.HandsOut record (segment stream first length) answer)
      (hrecord : lexer.diagnostics.toList =
        call.recordAfter record (segment stream first length))
      (hcalls : Follows stream (first + length) lexer.diagnostics.toList calls answers) :
      Follows stream first record (call :: calls) ((answer, lexer) :: answers)

/-- A lexer in a session: it stands behind the first `count` members of the stream of
`fresh`, with `record` the reports on record. -/
structure Stands (fresh : Lexer) (count : Nat) (record : List Diagnostic) (lexer : Lexer) :
    Prop where
  cursor : lexer.cursor = (fresh.afterCalls count).cursor
  diagnostics : lexer.diagnostics.toList = record

namespace Stands

variable {fresh lexer : Lexer} {count : Nat} {record : List Diagnostic}

/-- The stream of the lexer is what is left of the stream of `fresh`. -/
theorem stream_eq (h : Stands fresh count record lexer) (index : Nat) :
    lexer.stream index = fresh.stream (count + index) := by
  rw [stream_add, stream_congr h.cursor]

theorem afterCalls (h : Stands fresh count record lexer) (more : Nat) :
    Stands fresh (count + more) record (lexer.afterCalls more) where
  cursor := by
    rw [afterCalls_add]
    exact cursor_afterCalls_congr h.cursor more
  diagnostics := by
    rw [diagnostics_afterCalls]
    exact h.diagnostics

/-- What is left up to the end of the source is a segment of the stream of `fresh`. -/
theorem outcomes_eq_segment (h : Stands fresh count record lexer) :
    lexer.outcomes = segment fresh.stream count lexer.outcomes.length := by
  have hstream : lexer.stream = fun index => fresh.stream (count + index) :=
    funext h.stream_eq
  conv => lhs; rw [outcomes_eq_map_stream, hstream]
  rw [segment, List.range'_eq_map_range, List.map_map]
  rfl

/-- One call takes the next segment of the stream. -/
theorem answer (h : Stands fresh count record lexer) (call : Call) :
    ∃ length,
      call.HandsOut record (segment fresh.stream count length) (lexer.answer call).1 ∧
      Stands fresh (count + length)
        (call.recordAfter record (segment fresh.stream count length)) (lexer.answer call).2 := by
  have hfirst : lexer.nextToken.1 = fresh.stream count := h.stream_eq 0
  have hsegment := h.outcomes_eq_segment
  cases call with
  | nextToken =>
      refine ⟨1, ?_, h.afterCalls 1⟩
      rw [segment_one, ← hfirst]
      exact .nextToken _
  | next =>
      refine ⟨1, ?_, h.afterCalls 1⟩
      rw [segment_one, ← hfirst]
      exact lexer.handsOut_next record
  | collect =>
      refine ⟨lexer.outcomes.length, ?_, ?_⟩
      · rw [← hsegment]
        exact lexer.handsOut_collect record
      · rw [Lexer.answer, collect_eq]
        exact h.afterCalls _
  | tokenize =>
      obtain ⟨_, hcursor, hdiagnostics⟩ := lexer.readTokens_spec
      refine ⟨lexer.outcomes.length, ?_, ?_, ?_⟩
      · rw [← hsegment]
        exact lexer.handsOut_tokenize record
      · exact hcursor.trans (h.afterCalls _).cursor
      · rw [← hsegment, Call.recordAfter, ← h.diagnostics]
        exact hdiagnostics
  | diagnostics => exact ⟨0, .diagnostics h.diagnostics, h⟩
  | takeDiagnostics => exact ⟨0, .takeDiagnostics h.diagnostics, h.cursor, rfl⟩

/-- A session takes the stream from where the lexer stands. -/
theorem answers (h : Stands fresh count record lexer) (calls : List Call) :
    Follows fresh.stream count record calls (lexer.answers calls) := by
  induction calls generalizing lexer count record with
  | nil => exact .nil count record
  | cons call calls ih =>
      obtain ⟨length, hanswer, hlast⟩ := h.answer call
      have hrecord := hlast.diagnostics
      rw [← hrecord] at hlast
      exact .cons hanswer hrecord (ih hlast)

end Stands

/-- The stream of every lexer ends in tokens of the end of the source. -/
theorem stream_shape (lexer : Lexer) :
    ∃ finish last, (∀ index < finish, (lexer.stream index).isEndOfInput = false) ∧
      (∀ index ≥ finish, lexer.stream index = .ok last) ∧ last.isEndOfInput = true := by
  have hpos := lexer.length_outcomes_pos
  have hend : (lexer.stream (lexer.outcomes.length - 1)).isEndOfInput = true := by
    rw [stream_isEndOfInput_iff]
    omega
  obtain ⟨last, hlast⟩ : ∃ last, lexer.stream (lexer.outcomes.length - 1) = .ok last := by
    cases h : lexer.stream (lexer.outcomes.length - 1) with
    | ok last => exact ⟨last, rfl⟩
    | error error => simp [h, Outcome.isEndOfInput] at hend
  refine ⟨lexer.outcomes.length - 1, last, ?_, ?_, ?_⟩
  · intro index hindex
    rw [← Bool.not_eq_true, stream_isEndOfInput_iff]
    omega
  · intro index hindex
    rw [stream_eq_of_le (by omega), hlast]
  · simpa [hlast, Outcome.isEndOfInput] using hend

/-- However calls to one lexer are mixed, they hand out the consecutive segments of
the stream that a fresh lexer of the same source has, and the reports on record are
those of the errors that `tokenize` met since they were last taken. -/
theorem answers_follow_stream (source : String) (fileId : Nat) (calls : List Call) :
    let fresh := Lexer.ofSource source fileId
    (∃ finish last, (∀ index < finish, (fresh.stream index).isEndOfInput = false) ∧
      (∀ index ≥ finish, fresh.stream index = .ok last) ∧ last.isEndOfInput = true) ∧
    Follows fresh.stream 0 [] calls (fresh.answers calls) := by
  intro fresh
  have hfresh : Stands fresh 0 [] fresh := ⟨rfl, rfl⟩
  exact ⟨fresh.stream_shape, hfresh.answers calls⟩

end Lexer

end Lexis
