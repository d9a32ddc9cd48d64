import Lexis.Proofs.Lexer.Occurrence

/-!
# Spacing does not matter

The tokens of a source, written one behind the other with other spacing between them, are
read as the same tokens.  That needs of every lexeme that it is recognised from its own
characters, of every two neighbours that they do not grow together, and of every comment
that it neither opens nor closes across a border.

* `Spacing` and `Gap` are what may be put before the first lexeme and behind each, and
  `layOut` puts it there.
* `outcomesFrom_layOut` reads lexemes that are laid out, by induction on their number: each
  is read off up to its gap, which is then the spacing before the next.
* `Lexer.respacing` is the law for the tokens of a source, sound or faulty.
-/

namespace Lexis

/-- White space and closed comments. -/
structure Spacing where
  /-- The characters. -/
  text : List Char
  isSpacing : Trivia.IsSpacing text

/-- Spacing that keeps what stands before it from what follows: it begins with white
space. -/
structure Gap extends Spacing where
  begins : text.head?.any isWhiteSpace = true

instance : Inhabited Spacing := ⟨⟨[], .nil⟩⟩

instance : Inhabited Gap := ⟨⟨⟨[' '], .blank (by decide) .nil⟩, by decide⟩⟩

/-- The lexemes in order behind `opening`, each with its gap behind it. -/
def layOut (opening : Spacing) : List (List Char) → List Gap → List Char
  | lexeme :: lexemes, gap :: gaps =>
      opening.text ++ (lexeme ++ layOut gap.toSpacing lexemes gaps)
  | _, _ => opening.text

/-- What is laid out behind a gap begins with white space. -/
theorem isWhiteSpace_head?_layOut (gap : Gap) (lexemes : List (List Char)) (gaps : List Gap) :
    ∀ c ∈ (layOut gap.toSpacing lexemes gaps).head?, isWhiteSpace c = true := by
  obtain ⟨behind, hbehind⟩ :
      ∃ behind, layOut gap.toSpacing lexemes gaps = gap.text ++ behind := by
    fun_cases layOut gap.toSpacing lexemes gaps with
    | case1 => exact ⟨_, rfl⟩
    | case2 => exact ⟨[], (List.append_nil _).symm⟩
  intro c hc
  have hbegins := gap.begins
  cases htext : gap.text with
  | nil => simp [htext] at hbegins
  | cons d text =>
      obtain rfl : d = c := by simpa [hbehind, htext] using hc
      simpa [htext] using hbegins

/-- In spacing alone there is nothing but the end of the source. -/
theorem Spacing.outcome_ofText (spacing : Spacing) :
    (Reading.ofText spacing.text).outcome = none := by
  have hskip := Trivia.skip_append_of_isTrivia (spacing.isSpacing.isTrivia [])
  have hnil : (Trivia.skip spacing.text).2 = [] := by
    rw [← List.append_nil spacing.text, hskip]
    simp [Trivia.skip, Trivia.piece?]
  rcases Reading.ofText_cases spacing.text with ⟨_, h⟩ | ⟨body, hbody, _⟩ | ⟨c, rest, hrest, _⟩
  · rw [h]
  · simp [hnil] at hbody
  · simp [hnil] at hrest

/-- A lexeme between spacing and white space is read off. -/
theorem Writing.ofText (writing : Writing) (opening : Spacing) {rest : List Char}
    (hblank : ∀ c ∈ rest.head?, isWhiteSpace c = true) :
    Reading.ofText (opening.text ++ (writing.written ++ rest)) =
      ⟨opening.text, writing.written, rest, some (.ok writing.lexeme)⟩ :=
  Reading.ofText_of_writing writing (opening.isSpacing.isTrivia _)
    (writing.denotes.bare hblank) (writing.lexeme.ends_of_blank hblank)

/-- Lexemes that are laid out behind a text `before` are read as they are, and their spans
cut them out of the whole. -/
theorem outcomesFrom_layOut {writings : List Writing} {gaps : List Gap}
    (hlength : gaps.length = writings.length) (opening : Spacing) (fileId : Nat)
    (before : List Char) {whole : List Char}
    (hwhole : whole = before ++ layOut opening (writings.map Writing.written) gaps) :
    ∃ (tokens : List Token) (last : Token),
      outcomesFrom fileId (Position.start.after before)
          (layOut opening (writings.map Writing.written) gaps) =
        tokens.map .ok ++ [.ok last] ∧
      last.isEndOfInput = true ∧
      tokens.map Token.content = writings.map (fun writing => writing.lexeme.content) ∧
      tokens.map (fun token => token.span.slice? (String.ofList whole)) =
        writings.map (fun writing => some (String.ofList writing.written)) := by
  induction writings generalizing gaps opening before with
  | nil =>
      rw [List.map_nil, layOut, outcomesFrom_of_eq_none opening.outcome_ofText]
      · exact ⟨[], _, rfl, rfl, rfl, rfl⟩
      · simp
  | cons writing writings ih =>
      obtain ⟨gap, gaps, rfl⟩ := List.exists_cons_of_length_eq_add_one hlength
      have htail : gaps.length = writings.length := by simpa using hlength
      rw [List.map_cons, layOut] at hwhole ⊢
      have hblank := isWhiteSpace_head?_layOut gap (writings.map Writing.written) gaps
      generalize hrest : layOut gap.toSpacing (writings.map Writing.written) gaps = rest
        at hwhole hblank ⊢
      have hreading := writing.ofText opening hblank
      -- The gap is the spacing before the next lexeme.
      have hnext : whole = (before ++ (opening.text ++ writing.written)) ++
          layOut gap.toSpacing (writings.map Writing.written) gaps := by
        rw [hrest, hwhole]
        simp
      obtain ⟨tokens, last, houtcomes, hlast, hcontents, hslices⟩ :=
        ih htail gap.toSpacing _ hnext
      have hstop : Reading.stop ⟨opening.text, writing.written, rest, some (.ok writing.lexeme)⟩
          (Position.start.after before) =
            Position.start.after (before ++ (opening.text ++ writing.written)) := by
        simp [Reading.stop]
      refine ⟨writing.lexeme.toToken ⟨(Position.start.after before).after opening.text,
        Position.start.after (before ++ (opening.text ++ writing.written)), fileId⟩ :: tokens,
        last, ?_, hlast, ?_, ?_⟩
      · rw [outcomesFrom_of_ne_none (by simp [hreading]), hreading, hstop, ← hrest, houtcomes]
        simp only [Reading.toOutcome, hrest, hstop]
        rfl
      · rw [List.map_cons, List.map_cons, hcontents, Lexeme.content_toToken]
      · have hcut := Span.slice?_after (before ++ opening.text) writing.written rest fileId
        simp only [List.append_assoc, Position.after_append] at hcut
        rw [List.map_cons, List.map_cons, hslices, ← hcut, hwhole, Lexeme.span_toToken,
          Position.after_append, Position.after_append]

namespace Lexer

/-- The tokens of a source, sound or faulty, are read again wherever their texts are laid
out in the same order, and nothing is wrong there: with the same kinds, values and details,
and with spans over the same texts.  Taken by itself, each text is one token and the same. -/
theorem respacing (source : String) (fileId : Nat) :
    ∃ lexemes : List (List Char),
      (tokensOf source fileId).map (fun token => token.span.slice? source) =
        lexemes.map (fun lexeme => some (String.ofList lexeme)) ∧
      (∀ (opening : Spacing) (gaps : List Gap) (otherId : Nat), gaps.length = lexemes.length →
        ∃ (tokens : List Token) (last : Token),
          (ofSource (String.ofList (layOut opening lexemes gaps)) otherId).outcomes =
            tokens.map .ok ++ [.ok last] ∧
          last.isEndOfInput = true ∧
          tokens.map Token.content = (tokensOf source fileId).map Token.content ∧
          tokens.map (fun token =>
              token.span.slice? (String.ofList (layOut opening lexemes gaps))) =
            lexemes.map (fun lexeme => some (String.ofList lexeme))) ∧
      ∀ token ∈ tokensOf source fileId,
        ∃ lexeme, token.span.slice? source = some (String.ofList lexeme) ∧
          ∀ otherId, ∃ other, LexesAs lexeme otherId other ∧ other.content = token.content := by
  obtain ⟨occurrences, htexts, htokens⟩ := exists_occurrences source fileId
  refine ⟨(occurrences.map Occurrence.toWriting).map Writing.written, ?_, ?_, ?_⟩
  · rw [htokens, List.map_map, List.map_map, List.map_map]
    refine List.map_congr_left fun occurrence hmem => ?_
    have hslice := occurrence.slice?_span fileId
    rw [htexts occurrence hmem, String.ofList_toList] at hslice
    exact hslice
  · intro opening gaps otherId hlength
    rw [List.length_map] at hlength
    obtain ⟨tokens, last, houtcomes, hlast, hcontents, hslices⟩ :=
      outcomesFrom_layOut hlength opening otherId [] (List.nil_append _).symm
    refine ⟨tokens, last, ?_, hlast, ?_, ?_⟩
    · rw [outcomes_ofSource, String.toList_ofList]
      exact houtcomes
    · rw [hcontents, htokens, List.map_map, List.map_map]
      rfl
    · rw [hslices, List.map_map, List.map_map, List.map_map]
      rfl
  · exact fun token htoken => exists_lexesAs_of_mem htoken

end Lexer

end Lexis
