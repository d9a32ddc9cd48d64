import Lexis.Proofs.Lexer.Session

/-!
# Progress

No call of a lexer is lost on the spot: before the end of the source, each one takes at
least one character, whether it hands out a token or an error.  So a source of `n`
characters is read in at most `n + 1` calls, the last of which hands out the end of the
source.

* `Reaches` relates a lexer to what any calls make of it, and `exists_afterCalls` says
  that calls of `nextToken` alone get as far.
* `afterCalls_takes` is what such calls do to the unread text and to the position.
* `Reaches.of_isEndOfInput` says that nothing happens after the end of the source.
* `length_outcomes_le` bounds the number of the calls.
* `progress` puts these together for all lexers of a source and for its tokens.
-/

namespace Lexis

namespace Lexeme

/-- A word is the longest run of identifier characters, its first character included:
whatever opens an identifier also continues one. -/
theorem read_scanWord {c : Char} (h : isIdentifierStart c = true) (text : List Char) :
    (scanWord c text).read = (c :: text).takeWhile isIdentifierPart ∧
      (scanWord c text).read.head? = some c := by
  refine ⟨rfl, ?_⟩
  rw [scanWord_eq h]
  rfl

end Lexeme

namespace Lexer

/-! ## What calls take -/

/-- `later` is what calls make of `lexer`, in any number and any order. -/
inductive Reaches (lexer : Lexer) : Lexer → Prop where
  | refl : Reaches lexer lexer
  | call {later : Lexer} (h : Reaches lexer later) (call : Call) :
      Reaches lexer (later.answer call).2

/-- Whatever is asked, the lexer stands where calls of `nextToken` alone bring it. -/
theorem Reaches.exists_afterCalls {lexer later : Lexer} (h : Reaches lexer later) :
    ∃ count, later.cursor = (lexer.afterCalls count).cursor := by
  suffices hstands : ∃ count record, Stands lexer count record later by
    obtain ⟨count, record, hstands⟩ := hstands
    exact ⟨count, hstands.cursor⟩
  induction h with
  | refl => exact ⟨0, _, rfl, rfl⟩
  | call h call ih =>
      obtain ⟨count, record, hstands⟩ := ih
      obtain ⟨length, _, hlast⟩ := hstands.answer call
      exact ⟨_, _, hlast⟩

/-- A call takes characters from the head of the unread text, and the position goes over
them.  Only at the end of the source there may be none. -/
theorem nextToken_takes (lexer : Lexer) :
    ∃ taken, lexer.cursor.rest = taken ++ lexer.nextToken.2.cursor.rest ∧
      lexer.nextToken.2.position = lexer.position.after taken ∧
      (taken = [] → lexer.nextToken.1.isEndOfInput = true) := by
  have happend := Reading.ofText_append lexer.cursor.rest
  rw [rest_nextToken, position_nextToken, isEndOfInput_nextToken_iff]
  refine ⟨(Reading.ofText lexer.cursor.rest).trivia ++ (Reading.ofText lexer.cursor.rest).read,
    ?_, ?_, ?_⟩
  · rw [List.append_assoc, happend]
  · rw [Reading.stop, Position.after_append]
  · intro hnil
    cases houtcome : (Reading.ofText lexer.cursor.rest).outcome with
    | none => rfl
    | some outcome =>
        have hread : (Reading.ofText lexer.cursor.rest).read ≠ [] :=
          Reading.ofText_read_ne_nil (by simp [houtcome])
        exact absurd (List.append_eq_nil_iff.1 hnil).2 hread

/-- Calls take characters from the head of the unread text, and the position goes over
them. -/
theorem afterCalls_takes (lexer : Lexer) (count : Nat) :
    ∃ taken, lexer.cursor.rest = taken ++ (lexer.afterCalls count).cursor.rest ∧
      (lexer.afterCalls count).position = lexer.position.after taken := by
  induction count generalizing lexer with
  | zero => exact ⟨[], rfl, rfl⟩
  | succ count ih =>
      obtain ⟨first, hrest, hposition, _⟩ := lexer.nextToken_takes
      obtain ⟨taken, hrest', hposition'⟩ := ih lexer.nextToken.2
      refine ⟨first ++ taken, ?_, ?_⟩
      · rw [hrest, hrest', afterCalls_succ, List.append_assoc]
      · rw [afterCalls_succ, hposition', hposition, Position.after_append]

theorem fileId_afterCalls (lexer : Lexer) (count : Nat) :
    (lexer.afterCalls count).cursor.fileId = lexer.cursor.fileId := by
  induction count generalizing lexer with
  | zero => rfl
  | succ count ih => rw [afterCalls_succ, ih, fileId_nextToken]

/-- A lexer of a source stands behind what calls have taken, in front of what is unread. -/
theorem Reaches.exists_taken {source : String} {fileId : Nat} {lexer : Lexer}
    (h : Reaches (ofSource source fileId) lexer) :
    ∃ taken, source.toList = taken ++ lexer.cursor.rest ∧
      lexer.position = Position.start.after taken ∧ lexer.cursor.fileId = fileId := by
  obtain ⟨count, hcursor⟩ := h.exists_afterCalls
  obtain ⟨taken, htaken, hposition⟩ := (ofSource source fileId).afterCalls_takes count
  refine ⟨taken, ?_, ?_, ?_⟩
  · rw [hcursor]
    exact htaken
  · rw [position, hcursor]
    exact hposition
  · rw [hcursor, fileId_afterCalls]
    rfl

/-- Wherever a lexer of a source stands, what is unread reaches to the end of the source. -/
theorem Reaches.after_rest {source : String} {fileId : Nat} {lexer : Lexer}
    (h : Reaches (ofSource source fileId) lexer) :
    lexer.position.after lexer.cursor.rest = Position.start.after source.toList := by
  obtain ⟨taken, hsource, hposition, _⟩ := h.exists_taken
  rw [hsource, Position.after_append, hposition]

/-! ## The end of the source -/

/-- The call that hands out the end of the source has taken all that was unread. -/
theorem nextToken_of_isEndOfInput {lexer : Lexer}
    (h : lexer.nextToken.1.isEndOfInput = true) :
    lexer.nextToken.1 = .ok (.endOfInput
        (.point (lexer.position.after lexer.cursor.rest) lexer.cursor.fileId)) ∧
      lexer.nextToken.2.cursor.rest = [] ∧
      lexer.nextToken.2.position = lexer.position.after lexer.cursor.rest := by
  have hend := Reading.ofText_of_outcome_eq_none ((isEndOfInput_nextToken_iff lexer).1 h)
  rw [nextToken_fst, rest_nextToken, position_nextToken, hend]
  exact ⟨rfl, rfl, rfl⟩

/-- A lexer that has nothing left to read stands still and hands out the same token for
ever. -/
theorem Reaches.of_rest_eq_nil {lexer later : Lexer} (hrest : lexer.cursor.rest = [])
    (h : Reaches lexer later) :
    later.position = lexer.position ∧
      later.nextToken.1 =
        .ok (.endOfInput (.point lexer.position lexer.cursor.fileId)) := by
  obtain ⟨count, hcursor⟩ := h.exists_afterCalls
  obtain ⟨taken, htaken, hposition⟩ := lexer.afterCalls_takes count
  rw [hrest] at htaken
  obtain ⟨rfl, hnil⟩ := List.append_eq_nil_iff.1 htaken.symm
  have hplace : later.position = lexer.position := by
    rw [position, hcursor]
    exact hposition
  refine ⟨hplace, ?_⟩
  rw [nextToken_fst, hplace, hcursor, hnil, fileId_afterCalls, Reading.ofText_nil]
  rfl

/-- From the end of the source on, every call hands out the same token and takes nothing. -/
theorem Reaches.of_isEndOfInput {lexer later : Lexer}
    (hend : lexer.nextToken.1.isEndOfInput = true) (h : Reaches lexer.nextToken.2 later) :
    later.nextToken.1 = lexer.nextToken.1 ∧
      later.nextToken.2.position = lexer.nextToken.2.position := by
  obtain ⟨hfirst, hrest, hstop⟩ := nextToken_of_isEndOfInput hend
  have hnext : Reaches lexer.nextToken.2 later.nextToken.2 := h.call .nextToken
  refine ⟨?_, (hnext.of_rest_eq_nil hrest).1⟩
  rw [(h.of_rest_eq_nil hrest).2, hfirst, hstop, fileId_nextToken]

/-! ## The number of calls -/

/-- There are at most as many outcomes as unread characters, and the end of the source. -/
theorem length_outcomes_le (lexer : Lexer) :
    lexer.outcomes.length ≤ lexer.cursor.rest.length + 1 := by
  fun_induction results lexer with
  | case1 lexer h =>
      rw [outcomes_of_isEndOfInput h, List.length_singleton]
      omega
  | case2 lexer h ih =>
      have hfirst : lexer.nextToken.1.isEndOfInput = false := by simpa using h
      have hlt := length_rest_nextToken_lt hfirst
      rw [outcomes_of_not_isEndOfInput hfirst, List.length_cons]
      omega

/-- Reading the tokens logs one event for each call. -/
theorem log_readTokens (lexer : Lexer) :
    lexer.readTokens.2.log.toList =
      lexer.log.toList ++ lexer.outcomes.map Event.ofOutcome := by
  fun_induction readTokens lexer with
  | case1 lexer token next hnext hend =>
      have hfirst : lexer.nextToken.1.isEndOfInput = true := by rw [hnext]; exact hend
      have hlog : next.log = lexer.log.push (.ofOutcome lexer.nextToken.1) :=
        congrArg (·.2.log) hnext.symm
      rw [outcomes_of_isEndOfInput hfirst, hlog]
      simp
  | case2 lexer token next hnext hend tokens last hlast ih =>
      have hfirst : lexer.nextToken.1.isEndOfInput = false := by
        rw [hnext]
        simpa [Outcome.isEndOfInput] using hend
      have hlog : next.log = lexer.log.push (.ofOutcome lexer.nextToken.1) :=
        congrArg (·.2.log) hnext.symm
      rw [hlast, hlog] at ih
      rw [outcomes_of_not_isEndOfInput hfirst, ih, hnext]
      simp
  | case3 lexer error next hnext ih =>
      have hfirst : lexer.nextToken.1.isEndOfInput = false := by rw [hnext]; rfl
      have hlog : (next.record error).log = lexer.log.push (.ofOutcome lexer.nextToken.1) :=
        congrArg (·.2.log) hnext.symm
      have hplace : (next.record error).cursor = next.cursor := cursor_record next error
      rw [hlog, outcomes_congr hplace] at ih
      rw [outcomes_of_not_isEndOfInput hfirst, ih, hnext]
      simp

end Lexer

/-- An outcome is a token or a diagnostic, and not both. -/
theorem Outcome.length_filterMap (outcomes : List Outcome) :
    (outcomes.filterMap token?).length + (outcomes.filterMap diagnostic?).length =
      outcomes.length := by
  induction outcomes with
  | nil => rfl
  | cons outcome outcomes ih =>
      cases outcome with
      | ok token =>
          simp only [List.filterMap_cons, token?, diagnostic?, List.length_cons]
          omega
      | error error =>
          simp only [List.filterMap_cons, token?, diagnostic?, List.length_cons]
          omega

/-- The tokens and the diagnostics of a source are those of its outcomes. -/
theorem tokenize_eq (source : String) (fileId : Nat) :
    (tokenize source fileId).1 =
        (Lexer.ofSource source fileId).outcomes.filterMap Outcome.token? ∧
      (tokenize source fileId).2.toList =
        (Lexer.ofSource source fileId).outcomes.filterMap Outcome.diagnostic? := by
  obtain ⟨htokens, _, hdiagnostics⟩ := (Lexer.ofSource source fileId).readTokens_spec
  exact ⟨htokens, hdiagnostics⟩

/-- Every outcome is among the tokens or among the diagnostics. -/
theorem length_tokenize (source : String) (fileId : Nat) :
    (tokenize source fileId).1.length + (tokenize source fileId).2.size =
      (Lexer.ofSource source fileId).outcomes.length := by
  obtain ⟨htokens, hdiagnostics⟩ := tokenize_eq source fileId
  rw [← Diagnostics.length_toList, htokens, hdiagnostics, Outcome.length_filterMap]

/-- The last token is the end of the source, and no other is. -/
theorem tokenize_eq_append (source : String) (fileId : Nat) :
    ∃ tokens last, (tokenize source fileId).1 = tokens ++ [last] ∧
      last.isEndOfInput = true ∧ ∀ token ∈ tokens, token.isEndOfInput = false := by
  obtain ⟨before, last, houtcomes, hlast, hbefore⟩ :=
    (Lexer.ofSource source fileId).outcomes_eq_append
  refine ⟨before.filterMap Outcome.token?, last, ?_, hlast, ?_⟩
  · rw [(tokenize_eq source fileId).1, houtcomes, List.filterMap_append]
    rfl
  · intro token hmem
    obtain ⟨outcome, houtcome, htoken⟩ := List.mem_filterMap.1 hmem
    exact hbefore (.ok token) (Outcome.token?_eq_some_iff.1 htoken ▸ houtcome)

namespace Lexer

/-- Every lexer of a source, whatever it has been asked before, gets on: a call takes at
least one character or hands out the end of the source.  The end is handed out with nothing
left to read, and from then on the lexer stands still and hands out the same token.  So
reading the tokens of a source takes at most one call more than it has characters, as many
as are logged; there are no more tokens and diagnostics than calls, and the end of the
source is the last token and no other.  That a word takes its first character rests on the
tables of identifier characters: what opens an identifier also continues one. -/
theorem progress (source : String) (fileId : Nat) :
    (∀ lexer, Reaches (ofSource source fileId) lexer →
      (∃ taken, lexer.cursor.rest = taken ++ lexer.nextToken.2.cursor.rest ∧
        lexer.nextToken.2.position = lexer.position.after taken ∧
        (taken = [] → lexer.nextToken.1.isEndOfInput = true)) ∧
      (lexer.nextToken.1.isEndOfInput = true →
        lexer.nextToken.2.cursor.rest = [] ∧
        lexer.nextToken.2.position = Position.start.after source.toList ∧
        ∀ later, Reaches lexer.nextToken.2 later →
          later.nextToken.1 = lexer.nextToken.1 ∧
          later.nextToken.2.position = lexer.nextToken.2.position)) ∧
    (∀ c text, isIdentifierStart c = true →
      (Lexeme.scanWord c text).read = (c :: text).takeWhile isIdentifierPart ∧
        (Lexeme.scanWord c text).read.head? = some c) ∧
    (∃ calls ≤ source.length + 1,
      (ofSource source fileId).readTokens.2.log.size = calls ∧
      (ofSource source fileId).readTokens.2.cursor =
        ((ofSource source fileId).afterCalls calls).cursor ∧
      (Lexis.tokenize source fileId).1.length + (Lexis.tokenize source fileId).2.size =
        calls) ∧
    ∃ tokens last, (Lexis.tokenize source fileId).1 = tokens ++ [last] ∧
      last.isEndOfInput = true ∧ ∀ token ∈ tokens, token.isEndOfInput = false := by
  refine ⟨?_, fun c text h => Lexeme.read_scanWord h text, ?_,
    tokenize_eq_append source fileId⟩
  · intro lexer hreaches
    refine ⟨lexer.nextToken_takes, ?_⟩
    intro hend
    obtain ⟨_, hrest, hstop⟩ := nextToken_of_isEndOfInput hend
    exact ⟨hrest, hstop.trans hreaches.after_rest, fun later hlater => hlater.of_isEndOfInput hend⟩
  · obtain ⟨_, hcursor, _⟩ := (ofSource source fileId).readTokens_spec
    refine ⟨(ofSource source fileId).outcomes.length, ?_, ?_, hcursor, ?_⟩
    · exact (ofSource source fileId).length_outcomes_le
    · have hlog := (ofSource source fileId).log_readTokens
      rw [← Array.length_toList, hlog]
      simp [ofSource]
    · exact length_tokenize source fileId

end Lexer

end Lexis
