import Lexis.Proofs.Lexer.Progress
import Lexis.Proofs.Lexer.Relocation
import Lexis.Proofs.Text.Slice

/-!
# A lexer has no state but its place

A lexer that has been called any number of times reads on as a fresh lexer reads what is still
unread.  All that differs are the positions, which the fresh lexer counts from its own beginning.

* `Moved` relates a lexer to another that stands before the same text at another place.
  `Moved.nextToken` is the law for one call, and `Moved.afterCalls` for any number of them.
* `moved_afterCalls` says that a lexer is a fresh one moved.
* `restart` states the result with the unread text cut out of the source.
-/

namespace Lexis

namespace Lexer

/-- `lexer` stands before the same text as `other`, and `move` takes the positions of the one to
those of the other. -/
structure Moved (move : Position → Position) (other lexer : Lexer) : Prop where
  rest : other.cursor.rest = lexer.cursor.rest
  fileId : other.cursor.fileId = lexer.cursor.fileId
  position : Position.Moves move other.position lexer.position

namespace Moved

variable {move : Position → Position} {other lexer : Lexer}

/-- What the next call hands out is the same, moved. -/
theorem relocate_nextToken (h : Moved move other lexer) :
    other.nextToken.1.relocate move = lexer.nextToken.1 := by
  rw [nextToken_fst, nextToken_fst, h.rest, h.fileId]
  exact Reading.relocate_toOutcome h.position _ _

theorem nextToken (h : Moved move other lexer) :
    Moved move other.nextToken.2 lexer.nextToken.2 where
  rest := by rw [rest_nextToken, rest_nextToken, h.rest]
  fileId := by rw [fileId_nextToken, fileId_nextToken, h.fileId]
  position := by
    rw [position_nextToken, position_nextToken, h.rest]
    exact Reading.moves_stop h.position _

theorem afterCalls (h : Moved move other lexer) (count : Nat) :
    Moved move (other.afterCalls count) (lexer.afterCalls count) := by
  induction count generalizing other lexer with
  | zero => exact h
  | succ count ih => exact ih h.nextToken

/-- The positions of the two lexers are the same, moved. -/
theorem position_eq (h : Moved move other lexer) : move other.position = lexer.position :=
  h.position []

end Moved

/-- After any calls, a lexer is a fresh lexer of what is still unread, moved to its place. -/
theorem moved_afterCalls (source : String) (fileId calls : Nat) :
    Moved (Position.placedAt ((ofSource source fileId).afterCalls calls).position)
      (ofSource (String.ofList ((ofSource source fileId).afterCalls calls).cursor.rest) fileId)
      ((ofSource source fileId).afterCalls calls) := by
  obtain ⟨taken, _, hposition⟩ := (ofSource source fileId).afterCalls_takes calls
  have hplace : ((ofSource source fileId).afterCalls calls).position.IsPlace := by
    rw [hposition]
    exact Position.isPlace_start.after taken
  refine ⟨?_, ?_, Position.moves_placedAt hplace⟩
  · exact String.toList_ofList
  · exact ((ofSource source fileId).fileId_afterCalls calls).symm

/-- After any number of calls, a lexer hands out what a fresh lexer hands out for the source from
its position on, and stands where the fresh one stands, with every position counted on from
there. -/
theorem restart (source : String) (fileId calls : Nat) :
    ∃ unread : List Char,
      slice? source.toList ((ofSource source fileId).afterCalls calls).position.offset
        source.utf8ByteSize = some unread ∧
      ∀ index,
        ((ofSource source fileId).afterCalls calls).stream index =
          ((ofSource (String.ofList unread) fileId).stream index).relocate
            (Position.placedAt ((ofSource source fileId).afterCalls calls).position) ∧
        (((ofSource source fileId).afterCalls calls).afterCalls index).position =
          Position.placedAt ((ofSource source fileId).afterCalls calls).position
            ((ofSource (String.ofList unread) fileId).afterCalls index).position := by
  obtain ⟨taken, htaken, hposition⟩ := (ofSource source fileId).afterCalls_takes calls
  have hmoved := moved_afterCalls source fileId calls
  generalize (ofSource source fileId).afterCalls calls = lexer at htaken hposition hmoved ⊢
  have hsource : source.toList = taken ++ lexer.cursor.rest := htaken
  have hoffset : lexer.position.offset = byteSize taken := by
    rw [hposition, Position.offset_after]
    exact Nat.zero_add _
  have hsize : source.utf8ByteSize = byteSize taken + byteSize lexer.cursor.rest := by
    rw [← byteSize_toList, hsource, byteSize_append]
  refine ⟨lexer.cursor.rest, ?_, ?_⟩
  · rw [slice?_eq_some_iff]
    refine ⟨taken, [], ?_, hoffset.symm, hsize.symm⟩
    rw [List.append_nil]
    exact hsource
  · intro index
    have hlater := hmoved.afterCalls index
    exact ⟨hlater.relocate_nextToken.symm, hlater.position_eq.symm⟩

end Lexer

end Lexis
