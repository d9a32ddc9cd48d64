import Lexis.Proofs.Lexeme.Fault
import Lexis.Proofs.Lexeme.LineBreak
import Lexis.Proofs.Lexer.Relocation
import Lexis.Proofs.Trivia

/-!
# Lines are read one after the other

Two texts with a line feed between them are read as the first and then the
second, whatever is wrong in either.  The exceptions are the two things that go
on over line feeds: a raw string or a block comment that is still open at the
end of the first text.

* `Reading.ofText_before_newline` and `Reading.ofText_of_end_before_newline` are
  the law for one step, before the end of the first text and at it.
* `outcomesFrom_before_newline` is the induction over the steps.
* `Lexer.outcomes_join` is the law for whole sources, with the positions in the
  second one moved down.
-/

namespace Lexis

/-- Whether the outcome is a raw string or a comment that is never closed. -/
def Outcome.isOpen : Outcome → Bool
  | .ok _ => false
  | .error error => error.fault.isOpen

/-! ## One step -/

namespace Reading

/-- What is open at the end of the text has taken the whole text. -/
theorem rest_of_isOpen {text : List Char} {start : Position} {fileId : Nat}
    (h : ((ofText text).toOutcome start fileId).isOpen = true) : (ofText text).rest = [] := by
  rcases ofText_cases text with ⟨_, htext⟩ | ⟨body, _, htext⟩ | ⟨c, rest, _, _, htext⟩
  · rw [htext]
  · rw [htext]
  · rw [htext] at h ⊢
    cases hverdict : (Lexeme.scan c rest).verdict with
    | ok lexeme => simp [toOutcome, hverdict, Outcome.isOpen] at h
    | error fault =>
        have hfault : fault.isOpen = true := by
          simpa [toOutcome, hverdict, Outcome.isOpen] using h
        exact Lexeme.rest_of_isOpen hverdict hfault

/-- A step before the end of the text does not see a line feed behind the text. -/
theorem ofText_before_newline {text : List Char} {start : Position} {fileId : Nat}
    (hend : (ofText text).outcome ≠ none)
    (hopen : ((ofText text).toOutcome start fileId).isOpen = false) (more : List Char) :
    ofText (text ++ '\n' :: more) =
      { ofText text with rest := (ofText text).rest ++ '\n' :: more } := by
  rcases ofText_cases text with ⟨_, htext⟩ | ⟨body, _, htext⟩ | ⟨c, rest, hskip, hcomment, htext⟩
  · simp [htext] at hend
  · simp [htext, toOutcome, Outcome.isOpen, Fault.isOpen] at hopen
  · have hraw : (Lexeme.scan c rest).verdict ≠ .error .unterminatedRawString := by
      intro hverdict
      simp [htext, toOutcome, hverdict, Outcome.isOpen, Fault.isOpen] at hopen
    have hunread : (Trivia.skip text).2 ≠ [] := by simp [hskip]
    have hskip' := Trivia.skip_before_newline hunread (by rwa [hskip]) more
    have hcomment' : ¬ ['/', '*'] <+: c :: (rest ++ '\n' :: more) := by
      rw [List.cons_prefix_cons] at hcomment ⊢
      rintro ⟨hslash, hstar⟩
      refine hcomment ⟨hslash, ?_⟩
      cases rest with
      | nil => simp at hstar
      | cons d rest => simpa using hstar
    rw [hskip, List.cons_append] at hskip'
    rw [ofText_of_skip hskip' hcomment', htext, Lexeme.scan_before_newline hraw]
    rfl

/-- At the end of a text, a line feed behind the text and all that stands before it
are trivia of the step behind. -/
theorem ofText_of_end_before_newline {text : List Char} (hend : (ofText text).outcome = none)
    (more : List Char) :
    ofText (text ++ '\n' :: more) = (ofText more).behind (text ++ ['\n']) := by
  have hunread : (Trivia.skip text).2 = [] := by
    rcases ofText_cases text with ⟨hskip, _⟩ | ⟨body, _, htext⟩ | ⟨c, rest, _, _, htext⟩
    · exact hskip
    · simp [htext] at hend
    · simp [htext] at hend
  have hskip := Trivia.skip_of_unread_eq_nil hunread more
  simp only [ofText, hskip, behind, List.append_assoc, List.singleton_append]
  split <;> rfl

end Reading

/-! ## The whole text -/

/-- Reading goes through a text as it goes through it alone, and then on behind the
line feed. -/
theorem outcomesFrom_before_newline (fileId : Nat) (start : Position) (text more : List Char)
    (h : ∀ outcome ∈ (outcomesFrom fileId start text).dropLast.getLast?,
      outcome.isOpen = false) :
    outcomesFrom fileId start (text ++ '\n' :: more) =
      (outcomesFrom fileId start text).dropLast ++
        outcomesFrom fileId (start.after (text ++ ['\n'])) more := by
  fun_induction outcomesFrom fileId start text with
  | case1 start text hend =>
      have hreading := Reading.ofText_of_end_before_newline hend more
      rw [List.dropLast_singleton, List.nil_append]
      exact outcomesFrom_of_behind hreading fileId start
  | case2 start text hend ih =>
      have htail := outcomesFrom_ne_nil fileId ((Reading.ofText text).stop start)
        (Reading.ofText text).rest
      rw [List.dropLast_cons_of_ne_nil htail] at h ⊢
      have hclosed : ((Reading.ofText text).toOutcome start fileId).isOpen = false := by
        cases hopen : ((Reading.ofText text).toOutcome start fileId).isOpen with
        | false => rfl
        | true =>
            -- What is open has taken the whole text, so it is the last outcome.
            have hrest := Reading.rest_of_isOpen hopen
            rw [hrest, outcomesFrom_of_eq_none (by simp)] at h
            rw [← hopen]
            exact h _ rfl
      have hrest : ∀ outcome ∈ (outcomesFrom fileId ((Reading.ofText text).stop start)
          (Reading.ofText text).rest).dropLast.getLast?, outcome.isOpen = false := by
        intro outcome houtcome
        apply h
        rw [Option.mem_def] at houtcome ⊢
        rw [List.getLast?_cons, houtcome]
        rfl
      have hreading := Reading.ofText_before_newline hend hclosed more
      have hposition : ((Reading.ofText text).stop start).after
          ((Reading.ofText text).rest ++ ['\n']) = start.after (text ++ ['\n']) := by
        rw [Position.after_append, Reading.after_rest_ofText, Position.after_append]
      rw [outcomesFrom_of_ne_none (by rw [hreading]; exact hend), List.cons_append, ← hposition,
        ← ih hrest, hreading]
      rfl

namespace Lexer

/-- Two sources with a line feed between them: the outcomes are those of the first
without the end of its source, and then those of the second, further down by the
lines and the bytes of the first and of the line feed.  The first must not end
in a raw string or a comment that is never closed. -/
theorem outcomes_join (first second : String) (fileId : Nat)
    (h : ∀ outcome ∈ (ofSource first fileId).outcomes.dropLast.getLast?,
      outcome.isOpen = false) :
    (ofSource (first ++ "\n" ++ second) fileId).outcomes =
      (ofSource first fileId).outcomes.dropLast ++
        (ofSource second fileId).outcomes.map
          (Outcome.relocate
            (Position.down (first.toList.count '\n' + 1) (first.utf8ByteSize + 1))) := by
  rw [outcomes_ofSource] at h
  rw [outcomes_ofSource, outcomes_ofSource, outcomes_ofSource, ← byteSize_toList]
  have hbegin : Position.start.after (first.toList ++ ['\n']) =
      Position.start.down (first.toList.count '\n' + 1) (byteSize first.toList + 1) := by
    rw [Position.after_append_newline]
    simp [Position.start, Position.down]
    omega
  have htext : (first ++ "\n" ++ second).toList = first.toList ++ '\n' :: second.toList := by
    simp
  rw [htext, outcomesFrom_before_newline _ _ _ _ h, hbegin,
    outcomesFrom_relocate (Position.moves_down _ _ _)]

/-- A malformed numeral and an escape that breaks off at the end of a line leave the
next line alone, in which a raw string is open. -/
theorem outcomes_join_faulty_lines :
    (∀ outcome ∈ (ofSource "x := 1e+ '\\u12" 7).outcomes.dropLast.getLast?,
        outcome.isOpen = false) ∧
      (ofSource ("x := 1e+ '\\u12" ++ "\n" ++ "\\ `open") 7).outcomes =
        (ofSource "x := 1e+ '\\u12" 7).outcomes.dropLast ++
          (ofSource "\\ `open" 7).outcomes.map
            (Outcome.relocate
              (Position.down ("x := 1e+ '\\u12".toList.count '\n' + 1)
                ("x := 1e+ '\\u12".utf8ByteSize + 1))) :=
  ⟨by decide +kernel, outcomes_join _ _ _ (by decide +kernel)⟩

end Lexer

end Lexis
