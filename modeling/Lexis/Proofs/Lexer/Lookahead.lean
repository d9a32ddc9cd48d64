import Lexis.Proofs.Lexeme.Lookahead
import Lexis.Proofs.Lexer.Progress
import Lexis.Proofs.Lexer.Tiling

/-!
# How far a lexer looks ahead

What a lexer hands out does not depend on more than two characters behind the last one that
it has taken, whatever it has met.

* `Reading.ofText_of_take` is the step: what is read is the same with another text behind it
  that begins with the same two characters.
* `Lexer.agree_afterCalls` is the run: two lexers of texts that begin with the same characters
  keep in step.
* `Lexer.bounded_lookahead` says so of two sources.
-/

namespace Lexis

/-- What is read is the same with another text behind it, up to two characters. -/
theorem Reading.ofText_of_take {text other : List Char}
    (h : (ofText text).rest.take 2 = other.take 2) :
    ofText ((ofText text).trivia ++ ((ofText text).read ++ other)) =
      { ofText text with rest := other } := by
  have happend := ofText_append text
  rcases ofText_cases text with ⟨_, htext⟩ | ⟨body, _, htext⟩ | ⟨c, rest, hrest, hblock, htext⟩
  · rw [htext] at h happend ⊢
    rw [eq_nil_of_take h, happend, htext]
  · rw [htext] at h happend ⊢
    rw [eq_nil_of_take h, happend, htext]
  · obtain ⟨taken, hread, hother⟩ := Lexeme.scan_looksAhead c rest
    have hsplits : (Lexeme.scan c rest).Splits ([c] ++ rest) := Lexeme.scan_splits c rest
    have hbehind := hsplits.eq_append hread
    rw [htext] at h ⊢
    simp only at h
    have htake : (c :: rest).take 2 = (c :: taken ++ other).take 2 := by
      conv => lhs; rw [hbehind, ← List.cons_append]
      exact take_append_congr h (by simp)
    have hbare : Trivia.Bare (c :: (taken ++ other)) :=
      (Trivia.bare_skip hrest hblock).congr htake
    have htrivia : Trivia.IsTrivia (Trivia.skip text).1 (c :: (taken ++ other)) :=
      (Trivia.isTrivia_skip text).congr (by rw [hrest]; rfl)
    have hskip := Trivia.skip_of_bare htrivia hbare
    simp only [hread, List.nil_append, List.cons_append]
    rw [ofText_of_skip hskip hbare.block, hother other h]
    rfl

namespace Lexer

/-- The number of characters that have been taken. -/
def consumed (lexer : Lexer) : Nat :=
  lexer.cursor.source.length - lexer.cursor.rest.length

theorem source_afterCalls (lexer : Lexer) (count : Nat) :
    (lexer.afterCalls count).cursor.source = lexer.cursor.source := by
  induction count generalizing lexer with
  | zero => rfl
  | succ count ih =>
      rw [afterCalls_succ, ih, cursor_nextToken, Cursor.step_eq]

/-- What has been taken of a source is what is no longer unread. -/
theorem consumed_afterCalls {source : String} {fileId calls : Nat} {taken : List Char}
    (h : source.toList = taken ++ ((ofSource source fileId).afterCalls calls).cursor.rest) :
    ((ofSource source fileId).afterCalls calls).consumed = taken.length := by
  have hlength : source.length =
      taken.length + ((ofSource source fileId).afterCalls calls).cursor.rest.length := by
    rw [← String.length_toList, ← List.length_append, ← h]
  have hsource : (ofSource source fileId).cursor.source = source := rfl
  rw [consumed, source_afterCalls, hsource]
  omega

section Agree

variable {lexer other : Lexer} {taken more : List Char}

/-- A call takes the same from another text, if that goes on with the same two characters. -/
theorem nextToken_of_take (hposition : other.position = lexer.position)
    (hfile : other.cursor.fileId = lexer.cursor.fileId)
    (hlexer : lexer.cursor.rest = taken ++ lexer.nextToken.2.cursor.rest)
    (hother : other.cursor.rest = taken ++ more)
    (htake : lexer.nextToken.2.cursor.rest.take 2 = more.take 2) :
    other.nextToken.1 = lexer.nextToken.1 ∧ other.nextToken.2.cursor.rest = more ∧
      other.nextToken.2.position = lexer.nextToken.2.position := by
  rw [rest_nextToken] at hlexer htake
  have htaken : taken =
      (Reading.ofText lexer.cursor.rest).trivia ++ (Reading.ofText lexer.cursor.rest).read := by
    have happend := Reading.ofText_append lexer.cursor.rest
    rw [← List.append_assoc] at happend
    exact (List.append_cancel_right (happend.trans hlexer)).symm
  have hreading := Reading.ofText_of_take htake
  rw [← List.append_assoc, ← htaken, ← hother] at hreading
  refine ⟨?_, ?_, ?_⟩
  · rw [nextToken_fst, nextToken_fst, hposition, hfile, hreading]
    rfl
  · rw [rest_nextToken, hreading]
  · rw [position_nextToken, position_nextToken, hposition, hreading]
    rfl

/-- Two lexers of texts that begin with the same characters keep in step, as far as two
characters behind what they take. -/
theorem agree_afterCalls {count : Nat} (hposition : other.position = lexer.position)
    (hfile : other.cursor.fileId = lexer.cursor.fileId)
    (hlexer : lexer.cursor.rest = taken ++ (lexer.afterCalls count).cursor.rest)
    (hother : other.cursor.rest = taken ++ more)
    (htake : (lexer.afterCalls count).cursor.rest.take 2 = more.take 2) :
    (∀ index < count, other.stream index = lexer.stream index) ∧
      (other.afterCalls count).cursor.rest = more ∧
      (other.afterCalls count).position = (lexer.afterCalls count).position := by
  induction count generalizing lexer other taken with
  | zero =>
      have hnil : taken = [] := by simpa using hlexer
      subst hnil
      exact ⟨fun index hindex => absurd hindex (Nat.not_lt_zero index), hother, hposition⟩
  | succ count ih =>
      rw [afterCalls_succ] at hlexer htake
      obtain ⟨first, hfirst, _⟩ := lexer.nextToken_takes
      obtain ⟨later, hlater, _⟩ := lexer.nextToken.2.afterCalls_takes count
      obtain rfl : taken = first ++ later := by
        rw [hfirst, hlater, ← List.append_assoc] at hlexer
        exact (List.append_cancel_right hlexer).symm
      rw [List.append_assoc] at hother
      have hsame : lexer.nextToken.2.cursor.rest.take 2 = (later ++ more).take 2 := by
        rw [hlater]
        exact take_append_congr htake (by omega)
      obtain ⟨hnext, hrest, hstop⟩ := nextToken_of_take hposition hfile hfirst hother hsame
      have hfiles : other.nextToken.2.cursor.fileId = lexer.nextToken.2.cursor.fileId := by
        rw [fileId_nextToken, fileId_nextToken, hfile]
      obtain ⟨hstream, hbehind, hplace⟩ := ih hstop hfiles hlater hrest htake
      refine ⟨fun index hindex => ?_, hbehind, hplace⟩
      cases index with
      | zero => exact hnext
      | succ index =>
          rw [stream_succ, stream_succ]
          exact hstream index (by omega)

end Agree

/-- Two sources that begin with the same `agreed` characters: whatever the first `calls` calls
hand out of the first source is handed out of the second as well, and as many characters are
taken for it, as long as the sources agree on two more. -/
theorem bounded_lookahead (first second : String) (fileId agreed calls : Nat)
    (hagreed : first.toList.take agreed = second.toList.take agreed)
    (hconsumed : ((ofSource first fileId).afterCalls calls).consumed + 2 ≤ agreed) :
    (∀ index < calls,
      (ofSource second fileId).stream index = (ofSource first fileId).stream index) ∧
    ((ofSource second fileId).afterCalls calls).consumed =
      ((ofSource first fileId).afterCalls calls).consumed ∧
    ((ofSource second fileId).afterCalls calls).position =
      ((ofSource first fileId).afterCalls calls).position := by
  obtain ⟨taken, htaken, _⟩ := (ofSource first fileId).afterCalls_takes calls
  have hfirst : first.toList =
      taken ++ ((ofSource first fileId).afterCalls calls).cursor.rest := htaken
  rw [consumed_afterCalls hfirst] at hconsumed ⊢
  rw [hfirst] at hagreed
  obtain ⟨more, hsecond, htake⟩ := exists_append_of_take hagreed hconsumed
  have hplace : (ofSource second fileId).position = (ofSource first fileId).position := rfl
  have hfile : (ofSource second fileId).cursor.fileId = (ofSource first fileId).cursor.fileId := rfl
  obtain ⟨hstream, hrest, hposition⟩ := agree_afterCalls hplace hfile htaken hsecond htake
  refine ⟨hstream, consumed_afterCalls ?_, hposition⟩
  rw [hrest, hsecond]

/-- What might be an exponent is none in either source, for no digit follows the sign. -/
theorem bounded_lookahead_exponent :
    "a 1e+b".toList.take 6 = "a 1e+b'".toList.take 6 ∧
      ((ofSource "a 1e+b" 7).afterCalls 2).consumed + 2 ≤ 6 ∧
      (∀ index < 2, (ofSource "a 1e+b'" 7).stream index = (ofSource "a 1e+b" 7).stream index) ∧
      ((ofSource "a 1e+b'" 7).afterCalls 2).consumed =
        ((ofSource "a 1e+b" 7).afterCalls 2).consumed ∧
      ((ofSource "a 1e+b'" 7).afterCalls 2).position =
        ((ofSource "a 1e+b" 7).afterCalls 2).position :=
  ⟨by decide, by decide +kernel,
    bounded_lookahead _ _ _ 6 2 (by decide) (by decide +kernel)⟩

/-- One character would not do. -/
example : ((ofSource "1e+b" 7).afterCalls 1).consumed = 2 ∧
    ((ofSource "1e+5" 7).afterCalls 1).consumed = 4 := by
  decide +kernel

end Lexer

end Lexis
