import Lexis.Proofs.Lexer.Occurrence

/-!
# Tokens are as long as they can be

A token ends where it does because no longer stretch of the source, from the same first
character on, is one token.  `LexesAs.eq_nil_of_ends` is the reason: a lexeme that ends in
a text ends there as well when the text is cut off further on, so what is read of any longer
stretch is the same lexeme, and not all of it.  `Lexer.maximal_munch` says so of the tokens
of a source.
-/

namespace Lexis

/-- A text in which a lexeme ends is one token only if the lexeme is all of it. -/
theorem LexesAs.eq_nil_of_ends (writing : Writing) {more : List Char} {fileId : Nat}
    {token : Token} (hbare : Trivia.Bare (writing.written ++ more))
    (hends : writing.lexeme.Ends more) (h : LexesAs (writing.written ++ more) fileId token) :
    more = [] := by
  obtain ⟨last, houtcomes, _, _, hslice⟩ := h
  have hreading := Reading.ofText_of_writing writing .nil hbare hends
  rw [List.nil_append] at hreading
  rw [Lexer.outcomes_ofSource, String.toList_ofList,
    outcomesFrom_of_ne_none (by simp [hreading]), hreading] at houtcomes
  -- The token that is handed out is the lexeme, and its span cuts out no more.
  obtain ⟨hfirst, _⟩ := List.cons.inj houtcomes
  obtain rfl := Except.ok.inj hfirst
  have hcut := Span.slice?_after [] writing.written more fileId
  simp only [Reading.stop, List.nil_append, Position.after_nil, Lexeme.span_toToken] at hslice hcut
  rw [hcut, Option.some.injEq, String.ofList_inj] at hslice
  simpa using hslice

/-- A longer stretch of the text than a writing in it goes on with what follows there. -/
theorem Occurrence.exists_of_slice? {occurrence : Occurrence} {longer : List Char} {stop : Nat}
    (hstop : byteSize occurrence.before + byteSize occurrence.written < stop)
    (h : slice? occurrence.text (byteSize occurrence.before) stop = some longer) :
    ∃ more behind, longer = occurrence.written ++ more ∧ occurrence.rest = more ++ behind ∧
      more ≠ [] := by
  obtain ⟨before, behind, htext, hbefore, hlonger⟩ := slice?_eq_some_iff.1 h
  obtain ⟨rfl, hsplit⟩ := append_inj_of_byteSize_eq htext hbefore.symm
  rcases List.append_eq_append_iff.1 hsplit with ⟨more, rfl, hrest⟩ | ⟨more, hwritten, _⟩
  · refine ⟨more, behind, rfl, hrest, ?_⟩
    rintro rfl
    simp only [List.append_nil] at hlonger
    omega
  · -- The stretch would be shorter than the writing.
    rw [hwritten, byteSize_append] at hstop
    omega

namespace Lexer

/-- A token of a source is one by itself, and no longer stretch of the source from its first
character on is: not of the same kind, and not of any other. -/
theorem maximal_munch (source : String) (fileId : Nat) (token : Token)
    (h : token ∈ tokensOf source fileId) :
    (∃ lexeme, token.span.slice? source = some (String.ofList lexeme) ∧
      ∀ otherId, ∃ other, LexesAs lexeme otherId other ∧ other.content = token.content) ∧
    ∀ stop > token.span.stop.offset, ∀ longer,
      slice? source.toList token.span.start.offset stop = some longer →
        ∀ otherId other, ¬ LexesAs longer otherId other := by
  refine ⟨exists_lexesAs_of_mem h, ?_⟩
  intro stop hstop longer hlonger otherId other hlexes
  obtain ⟨occurrence, htext, rfl⟩ := exists_occurrence_of_mem h
  have hstart : (occurrence.token .start fileId).span.start.offset =
      byteSize occurrence.before := by
    simp [Occurrence.token, Lexeme.toToken, Position.offset_after, Position.start]
  have hend : (occurrence.token .start fileId).span.stop.offset =
      byteSize occurrence.before + byteSize occurrence.written := by
    simp [Occurrence.token, Lexeme.toToken, Position.offset_after, Position.start]
  rw [hend] at hstop
  rw [← htext, hstart] at hlonger
  obtain ⟨more, behind, rfl, hrest, hmore⟩ := Occurrence.exists_of_slice? hstop hlonger
  have hbare := occurrence.bare
  have hends := occurrence.ends
  rw [hrest, ← List.append_assoc] at hbare
  rw [hrest] at hends
  exact hmore (LexesAs.eq_nil_of_ends occurrence.toWriting hbare.of_append hends.of_append
    hlexes)

/-- The operator in front of a faulty numeral takes all three of its characters. -/
theorem maximal_munch_operator :
    ⟨.operator, "&^=", .operator .andNotAssign, ⟨⟨1, 2, 1⟩, ⟨1, 5, 4⟩, 7⟩⟩ ∈
        tokensOf "x&^=1e+" 7 ∧
      (∃ lexeme, (⟨⟨1, 2, 1⟩, ⟨1, 5, 4⟩, 7⟩ : Span).slice? "x&^=1e+" =
          some (String.ofList lexeme) ∧
        ∀ otherId, ∃ other, LexesAs lexeme otherId other ∧
          other.content = (.operator, "&^=", .operator .andNotAssign)) ∧
      ∀ stop > 4, ∀ longer, slice? "x&^=1e+".toList 1 stop = some longer →
        ∀ otherId other, ¬ LexesAs longer otherId other :=
  ⟨by decide +kernel, maximal_munch "x&^=1e+" 7
    ⟨.operator, "&^=", .operator .andNotAssign, ⟨⟨1, 2, 1⟩, ⟨1, 5, 4⟩, 7⟩⟩ (by decide +kernel)⟩

end Lexer

end Lexis
