import Lexis.Proofs.Lexeme.Grammar
import Lexis.Proofs.Lexer.Progress
import Lexis.Proofs.Text.Position
import Lexis.Proofs.Text.Slice

/-!
# Where the tokens of a source come from

Every token of a source is a lexeme that is written somewhere in it.  `Writing` is a lexeme
and how it is written, `Occurrence` a writing in a text, together with why the lexer ends
it there.

* `Reading.ofText_of_writing` reads a writing off behind trivia.
* `exists_occurrences` says that the tokens of a source are occurrences in it, in order.
* `Occurrence.slice?_span` cuts the writing out of the source.
* `LexesAs` is the relation between a text and the only token in it; every writing taken by
  itself is an instance, by `Writing.lexesAs`.
-/

namespace Lexis

/-- The tokens of a source, without the token of its end. -/
def tokensOf (source : String) (fileId : Nat) : List Token :=
  (tokenize source fileId).1.filter fun token => !token.isEndOfInput

/-- What is known of a token apart from where it stands. -/
def Token.content (token : Token) : Token.Kind × String × Token.Detail :=
  (token.kind, token.value, token.detail)

/-- `text` as a source is one token from its first character to its last, and nothing is
wrong with it. -/
def LexesAs (text : List Char) (fileId : Nat) (token : Token) : Prop :=
  ∃ last, (Lexer.ofSource (String.ofList text) fileId).outcomes = [.ok token, .ok last] ∧
    token.isEndOfInput = false ∧ last.isEndOfInput = true ∧
    token.span.slice? (String.ofList text) = some (String.ofList text)

/-! ## Writings -/

/-- A lexeme and one way to write it. -/
structure Writing where
  /-- The characters. -/
  written : List Char
  /-- What they mean. -/
  lexeme : Lexeme
  denotes : Lexeme.Denotes written lexeme

/-- What every token of the lexeme has in common. -/
def Lexeme.content (lexeme : Lexeme) : Token.Kind × String × Token.Detail :=
  (lexeme.kind, lexeme.value, lexeme.detail)

@[simp] theorem Lexeme.content_toToken (lexeme : Lexeme) (span : Span) :
    (lexeme.toToken span).content = lexeme.content := rfl

@[simp] theorem Lexeme.span_toToken (lexeme : Lexeme) (span : Span) :
    (lexeme.toToken span).span = span := rfl

/-- A lexeme that stands behind trivia, and in front of what ends it, is read off. -/
theorem Reading.ofText_of_writing (writing : Writing) {trivia rest : List Char}
    (htrivia : Trivia.IsTrivia trivia (writing.written ++ rest))
    (hbare : Trivia.Bare (writing.written ++ rest)) (hends : writing.lexeme.Ends rest) :
    ofText (trivia ++ (writing.written ++ rest)) =
      ⟨trivia, writing.written, rest, some (.ok writing.lexeme)⟩ := by
  obtain ⟨c, text, htext⟩ := List.exists_cons_of_ne_nil
    (List.append_ne_nil_of_left_ne_nil writing.denotes.ne_nil rest)
  have hskip := Trivia.skip_of_bare htrivia hbare
  have hscan := Lexeme.scan_append writing.denotes hends htext.symm
  rw [htext] at hskip hbare ⊢
  rw [ofText_of_skip hskip hbare.block, hscan]

/-! ## Occurrences -/

/-- A writing in a text: what stands before it and behind it.  No trivia and no comment
begins where it stands, and what follows ends it. -/
structure Occurrence extends Writing where
  /-- What stands before it, from the beginning of the text. -/
  before : List Char
  /-- What follows, to the end of the text. -/
  rest : List Char
  bare : Trivia.Bare (written ++ rest)
  ends : lexeme.Ends rest

namespace Occurrence

/-- The whole text. -/
def text (occurrence : Occurrence) : List Char :=
  occurrence.before ++ (occurrence.written ++ occurrence.rest)

/-- The token of the occurrence in a text that stands at `start`. -/
def token (occurrence : Occurrence) (start : Position) (fileId : Nat) : Token :=
  occurrence.lexeme.toToken
    ⟨start.after occurrence.before, start.after (occurrence.before ++ occurrence.written), fileId⟩

/-- The occurrence in the text with `more` in front. -/
def behind (occurrence : Occurrence) (more : List Char) : Occurrence :=
  { occurrence with before := more ++ occurrence.before }

@[simp] theorem text_behind (occurrence : Occurrence) (more : List Char) :
    (occurrence.behind more).text = more ++ occurrence.text := by
  simp [text, behind]

@[simp] theorem token_behind (occurrence : Occurrence) (more : List Char) (start : Position)
    (fileId : Nat) :
    (occurrence.behind more).token start fileId =
      occurrence.token (start.after more) fileId := by
  simp [token, behind]

/-- The span of the token cuts the writing out of the text. -/
theorem slice?_span (occurrence : Occurrence) (fileId : Nat) :
    (occurrence.token .start fileId).span.slice? (String.ofList occurrence.text) =
      some (String.ofList occurrence.written) :=
  Span.slice?_after occurrence.before occurrence.written occurrence.rest fileId

/-- What occurs in a text occurs in it behind `more` as well, with the same tokens. -/
theorem exists_behind {occurrences : List Occurrence} {text : List Char}
    (h : ∀ occurrence ∈ occurrences, occurrence.text = text) (more : List Char)
    (start : Position) (fileId : Nat) :
    ∃ moved : List Occurrence,
      (∀ occurrence ∈ moved, occurrence.text = more ++ text) ∧
      (moved.map fun occurrence => occurrence.token start fileId) =
        occurrences.map fun occurrence => occurrence.token (start.after more) fileId := by
  refine ⟨occurrences.map fun occurrence => occurrence.behind more, ?_, ?_⟩
  · intro occurrence hmem
    obtain ⟨later, hlater, rfl⟩ := List.mem_map.1 hmem
    rw [text_behind, h later hlater]
  · rw [List.map_map]
    refine List.map_congr_left fun occurrence _ => ?_
    rw [Function.comp_apply, token_behind]

end Occurrence

/-- A lexeme that is read occurs in the text, behind the trivia. -/
theorem Reading.exists_occurrence {text : List Char} {lexeme : Lexeme}
    (h : (ofText text).outcome = some (.ok lexeme)) :
    ∃ occurrence : Occurrence, occurrence.text = text ∧
      ∀ start fileId,
        (ofText text).toOutcome start fileId = .ok (occurrence.token start fileId) := by
  have happend := ofText_append text
  rcases ofText_cases text with ⟨_, htext⟩ | ⟨body, _, htext⟩ | ⟨c, rest, hrest, hblock, htext⟩
  · simp [htext] at h
  · simp [htext] at h
  · rw [htext] at h happend ⊢
    have hverdict := Option.some.inj h
    have haccepts := Lexeme.accepts_scan hverdict
    have hsplits : (Lexeme.scan c rest).read ++ (Lexeme.scan c rest).rest = c :: rest :=
      Lexeme.scan_splits c rest
    have hbare : Trivia.Bare (c :: rest) := Trivia.bare_skip hrest hblock
    refine ⟨⟨⟨_, lexeme, haccepts.denotes⟩, (Trivia.skip text).1, _, hsplits ▸ hbare,
      haccepts.ends⟩, happend, ?_⟩
    intro start fileId
    simp [toOutcome, stop, Occurrence.token, hverdict]

/-- The tokens up to the end of a text are occurrences in it. -/
theorem exists_occurrences_outcomesFrom (fileId : Nat) (start : Position) (text : List Char) :
    ∃ occurrences : List Occurrence,
      (∀ occurrence ∈ occurrences, occurrence.text = text) ∧
      ((outcomesFrom fileId start text).filterMap Outcome.token?).filter
          (fun token => !token.isEndOfInput) =
        occurrences.map fun occurrence => occurrence.token start fileId := by
  fun_induction outcomesFrom fileId start text with
  | case1 start text h =>
      refine ⟨[], by simp, ?_⟩
      simp [Reading.toOutcome, h, Outcome.token?, Token.isEndOfInput, Token.endOfInput]
  | case2 start text h ih =>
      obtain ⟨occurrences, htexts, htokens⟩ := ih
      -- What occurs in the rest occurs in the text, behind what was read.
      obtain ⟨moved, hmovedTexts, hmovedTokens⟩ := Occurrence.exists_behind htexts
        ((Reading.ofText text).trivia ++ (Reading.ofText text).read) start fileId
      rw [List.append_assoc, Reading.ofText_append] at hmovedTexts
      rw [Position.after_append, ← Reading.stop] at hmovedTokens
      rcases houtcome : (Reading.ofText text).outcome with _ | (fault | lexeme)
      · exact absurd houtcome h
      · refine ⟨moved, hmovedTexts, ?_⟩
        have hfirst : Outcome.token? ((Reading.ofText text).toOutcome start fileId) = none := by
          simp [Reading.toOutcome, houtcome, Outcome.token?]
        rw [List.filterMap_cons, hfirst, hmovedTokens]
        exact htokens
      · obtain ⟨occurrence, htext, htoken⟩ := Reading.exists_occurrence houtcome
        refine ⟨occurrence :: moved, ?_, ?_⟩
        · rw [List.forall_mem_cons]
          exact ⟨htext, hmovedTexts⟩
        · have hlexical : (!(occurrence.token start fileId).isEndOfInput) = true := by
            rw [Occurrence.token, Lexeme.isEndOfInput_toToken]
            rfl
          rw [htoken, List.map_cons, hmovedTokens, ← htokens, List.filterMap_cons]
          simp only [Outcome.token?, List.filter_cons, hlexical, if_true]

/-- The tokens of a source are occurrences in it, in order. -/
theorem exists_occurrences (source : String) (fileId : Nat) :
    ∃ occurrences : List Occurrence,
      (∀ occurrence ∈ occurrences, occurrence.text = source.toList) ∧
      tokensOf source fileId =
        occurrences.map fun occurrence => occurrence.token .start fileId := by
  rw [tokensOf, (tokenize_eq source fileId).1, Lexer.outcomes_ofSource]
  exact exists_occurrences_outcomesFrom fileId .start source.toList

/-- Every token of a source occurs in it. -/
theorem exists_occurrence_of_mem {source : String} {fileId : Nat} {token : Token}
    (h : token ∈ tokensOf source fileId) :
    ∃ occurrence : Occurrence, occurrence.text = source.toList ∧
      token = occurrence.token .start fileId := by
  obtain ⟨occurrences, htexts, htokens⟩ := exists_occurrences source fileId
  rw [htokens] at h
  obtain ⟨occurrence, hmem, rfl⟩ := List.mem_map.1 h
  exact ⟨occurrence, htexts occurrence hmem, rfl⟩

/-! ## A writing by itself -/

/-- A writing is a source of one token. -/
theorem Writing.outcomes (writing : Writing) (fileId : Nat) :
    (Lexer.ofSource (String.ofList writing.written) fileId).outcomes =
      [.ok (writing.lexeme.toToken
          ⟨.start, Position.start.after writing.written, fileId⟩),
        .ok (.endOfInput (.point (Position.start.after writing.written) fileId))] := by
  have hbare : Trivia.Bare (writing.written ++ []) := writing.denotes.bare (by simp)
  have hends : writing.lexeme.Ends [] := writing.lexeme.ends_of_blank (by simp)
  have hreading := Reading.ofText_of_writing writing .nil hbare hends
  rw [List.nil_append, List.append_nil] at hreading
  rw [Lexer.outcomes_ofSource, String.toList_ofList,
    outcomesFrom_of_ne_none (by simp [hreading]), hreading, outcomesFrom_of_eq_none (by simp)]
  rfl

theorem Writing.lexesAs (writing : Writing) (fileId : Nat) :
    LexesAs writing.written fileId
      (writing.lexeme.toToken ⟨.start, Position.start.after writing.written, fileId⟩) := by
  refine ⟨_, writing.outcomes fileId, Lexeme.isEndOfInput_toToken _ _, rfl, ?_⟩
  have hcut := Span.slice?_after [] writing.written [] fileId
  simpa using hcut

/-- The text of a token of a source is one token by itself, and the same. -/
theorem exists_lexesAs_of_mem {source : String} {fileId : Nat} {token : Token}
    (h : token ∈ tokensOf source fileId) :
    ∃ lexeme, token.span.slice? source = some (String.ofList lexeme) ∧
      ∀ otherId, ∃ other, LexesAs lexeme otherId other ∧ other.content = token.content := by
  obtain ⟨occurrence, htext, rfl⟩ := exists_occurrence_of_mem h
  refine ⟨occurrence.written, ?_, fun otherId => ?_⟩
  · have hslice := occurrence.slice?_span fileId
    rwa [htext, String.ofList_toList] at hslice
  · exact ⟨_, occurrence.toWriting.lexesAs otherId, rfl⟩

end Lexis
