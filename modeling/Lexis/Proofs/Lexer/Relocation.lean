import Lexis.Proofs.Lexer.Stream
import Lexis.Proofs.Text.Position

/-!
# Moving a text to another place

The outcomes of reading a text depend on where the text stands through their
spans alone.  `Outcome.relocate` changes the positions of an outcome and nothing
else, and `outcomesFrom_relocate` says that the outcomes of a text that is moved
are the moved outcomes.
-/

namespace Lexis

/-- The span with both ends moved. -/
def Span.relocate (move : Position → Position) (span : Span) : Span :=
  { span with start := move span.start, stop := move span.stop }

/-- The outcome with its span moved, and else the same. -/
def Outcome.relocate (move : Position → Position) : Outcome → Outcome
  | .ok token => .ok { token with span := token.span.relocate move }
  | .error error => .error { error with span := error.span.relocate move }

theorem Reading.moves_stop {move : Position → Position} {p q : Position}
    (h : Position.Moves move p q) (reading : Reading) :
    Position.Moves move (reading.stop p) (reading.stop q) :=
  (h.after reading.trivia).after reading.read

theorem Reading.relocate_toOutcome {move : Position → Position} {p q : Position}
    (h : Position.Moves move p q) (reading : Reading) (fileId : Nat) :
    (reading.toOutcome p fileId).relocate move = reading.toOutcome q fileId := by
  have hstart : move (p.after reading.trivia) = q.after reading.trivia := h reading.trivia
  have hstop : move (reading.stop p) = reading.stop q := Reading.moves_stop h reading []
  unfold Reading.toOutcome
  rcases reading.outcome with _ | (fault | lexeme) <;>
    simp [Outcome.relocate, Span.relocate, Token.endOfInput, Lexeme.toToken, hstart, hstop]

/-- A text that is moved is read as before, at the moved positions. -/
theorem outcomesFrom_relocate {move : Position → Position} {p q : Position}
    (h : Position.Moves move p q) (fileId : Nat) (text : List Char) :
    outcomesFrom fileId q text = (outcomesFrom fileId p text).map (Outcome.relocate move) := by
  fun_induction outcomesFrom fileId p text generalizing q with
  | case1 p text hend =>
      rw [outcomesFrom, dif_pos hend, List.map_singleton, Reading.relocate_toOutcome h]
  | case2 p text hend ih =>
      rw [outcomesFrom_of_ne_none hend, List.map_cons, Reading.relocate_toOutcome h,
        ih (Reading.moves_stop h _)]

end Lexis
