import Lexis.Proofs.Lexer.Stream
import Lexis.Proofs.Text.Position
import Lexis.Proofs.Trivia

/-!
# The outcomes tile the source

Every character of a source belongs to one token, one error or one piece of
trivia.  `Tiles` is this law as a relation between a text and the outcomes of
reading it, each with the position of the lexer after it: a stretch of trivia, a
lexeme under the span of the outcome, and then the rest of the text.

* `Lexer.tiles_results` is the induction over the calls.
* `Tiles.pairwise_span` and `Tiles.slice?_span` read the order of the spans and
  the texts under them off the relation.
* `Lexer.results_tile_source` puts them together for a whole source.
-/

namespace Lexis

/-- The region that an outcome is about. -/
def Outcome.span : Outcome → Span
  | .ok token => token.span
  | .error error => error.span

/-- `results` are the outcomes of reading `text`, which stands at `start`, through its
end, each with the position of the lexer after it.  Every outcome covers
the characters between the trivia before it and the position after it. -/
inductive Tiles (fileId : Nat) : Position → List Char → List (Outcome × Position) → Prop where
  | atEnd {start trivia} (htrivia : Trivia.IsTrivia trivia []) :
      Tiles fileId start trivia
        [(.ok (.endOfInput (.point (start.after trivia) fileId)), start.after trivia)]
  | next {start trivia lexeme rest outcome results}
      (htrivia : Trivia.IsTrivia trivia (lexeme ++ rest)) (hlexeme : lexeme ≠ [])
      (hend : outcome.isEndOfInput = false)
      (hspan : outcome.span = ⟨start.after trivia, start.after (trivia ++ lexeme), fileId⟩)
      (hresults : Tiles fileId (start.after (trivia ++ lexeme)) rest results) :
      Tiles fileId start (trivia ++ (lexeme ++ rest))
        ((outcome, start.after (trivia ++ lexeme)) :: results)

/-! ## One step -/

namespace Reading

@[simp] theorem span_toOutcome (reading : Reading) (start : Position) (fileId : Nat) :
    (reading.toOutcome start fileId).span =
      ⟨start.after reading.trivia, reading.stop start, fileId⟩ := by
  unfold toOutcome
  rcases reading.outcome with _ | (fault | lexeme) <;> rfl

/-- What a step skips is trivia. -/
theorem isTrivia_ofText (text : List Char) :
    Trivia.IsTrivia (ofText text).trivia ((ofText text).read ++ (ofText text).rest) := by
  have hskip := Trivia.isTrivia_skip text
  have happend := Trivia.skip_append text
  rcases ofText_cases text with ⟨hnil, htext⟩ | ⟨body, hbody, htext⟩ | ⟨c, rest, hrest, _, htext⟩
  · rw [hnil] at hskip happend
    rw [List.append_nil] at happend
    rw [htext]
    simpa [happend] using hskip
  · rw [htext]
    simpa [hbody] using hskip
  · have hsplits : (Lexeme.scan c rest).read ++ (Lexeme.scan c rest).rest = c :: rest :=
      Lexeme.scan_splits c rest
    rw [htext]
    simpa [hsplits, hrest] using hskip

end Reading

/-! ## What the relation says about spans -/

namespace Tiles

variable {fileId : Nat} {start : Position} {text : List Char}
  {results : List (Outcome × Position)}

/-- No span begins before the text. -/
theorem offset_le_start (h : Tiles fileId start text results) :
    ∀ result ∈ results, start.offset ≤ result.1.span.start.offset := by
  induction h with
  | @atEnd start trivia htrivia =>
      intro result hresult
      obtain rfl := List.mem_singleton.1 hresult
      show start.offset ≤ (start.after trivia).offset
      rw [Position.offset_after]
      omega
  | @next start trivia lexeme rest outcome results htrivia hlexeme hend hspan hresults ih =>
      intro result hresult
      rcases List.mem_cons.1 hresult with rfl | hmem
      · show start.offset ≤ outcome.span.start.offset
        rw [hspan, Position.offset_after]
        omega
      · have hle := ih result hmem
        rw [Position.offset_after] at hle
        omega

/-- Every span ends where the lexer stands after the call, and knows its file. -/
theorem stop_span (h : Tiles fileId start text results) :
    ∀ result ∈ results, result.1.span.stop = result.2 ∧ result.1.span.fileId = fileId := by
  induction h with
  | atEnd htrivia =>
      intro result hresult
      obtain rfl := List.mem_singleton.1 hresult
      exact ⟨rfl, rfl⟩
  | next htrivia hlexeme hend hspan hresults ih =>
      intro result hresult
      rcases List.mem_cons.1 hresult with rfl | hmem
      · simp [hspan]
      · exact ih result hmem

/-- The spans come in the order of the text and do not overlap. -/
theorem pairwise_span (h : Tiles fileId start text results) :
    (results.map fun result => result.1.span).Pairwise
      fun first second => first.stop.offset ≤ second.start.offset := by
  induction h with
  | atEnd htrivia => simp
  | @next start trivia lexeme rest outcome results htrivia hlexeme hend hspan hresults ih =>
      rw [List.map_cons, List.pairwise_cons]
      refine ⟨?_, ih⟩
      intro span hmem
      obtain ⟨result, hresult, rfl⟩ := List.mem_map.1 hmem
      rw [hspan]
      exact hresults.offset_le_start result hresult

/-- The span of an outcome cuts its lexeme out of the source, which is empty at the
end of the source and nowhere else. -/
theorem slice?_span (h : Tiles fileId start text results) {source : String}
    {before : List Char} (hsource : source.toList = before ++ text)
    (hstart : start.offset = byteSize before) :
    ∀ result ∈ results, ∃ lexeme, result.1.span.slice? source = some lexeme ∧
      (lexeme = "" ↔ result.1.isEndOfInput = true) := by
  induction h generalizing before with
  | @atEnd start trivia htrivia =>
      intro result hresult
      obtain rfl := List.mem_singleton.1 hresult
      refine ⟨"", ?_, by simp [Outcome.isEndOfInput, Token.isEndOfInput, Token.endOfInput]⟩
      have hcut := slice?_append (before ++ trivia) [] []
      simpa [Span.slice?, Outcome.span, Token.endOfInput, Span.point, hsource,
        Position.offset_after, hstart] using hcut
  | @next start trivia lexeme rest outcome results htrivia hlexeme hend hspan hresults ih =>
      intro result hresult
      rcases List.mem_cons.1 hresult with rfl | hmem
      · refine ⟨String.ofList lexeme, ?_, by simp [hend, hlexeme]⟩
        have hcut := slice?_append (before ++ trivia) lexeme rest
        simp only [Span.slice?, hspan, hsource, Position.offset_after, byteSize_append, hstart,
          List.append_assoc, Nat.add_assoc] at hcut ⊢
        rw [hcut]
        rfl
      · have hbefore : source.toList = (before ++ (trivia ++ lexeme)) ++ rest := by
          simpa using hsource
        refine ih hbefore ?_ result hmem
        rw [Position.offset_after, hstart, byteSize_append before]

/-- The last outcome is the empty token at the end of the text. -/
theorem getLast?_eq (h : Tiles fileId start text results) :
    results.getLast? =
      some (.ok (.endOfInput (.point (start.after text) fileId)), start.after text) := by
  induction h with
  | atEnd htrivia => rfl
  | next htrivia hlexeme hend hspan hresults ih =>
      rw [List.getLast?_cons, ih]
      simp

end Tiles

namespace Lexer

/-- The outcomes tile what is still unread. -/
theorem tiles_results (lexer : Lexer) :
    Tiles lexer.cursor.fileId lexer.position lexer.cursor.rest
      (lexer.results.map fun result => (result.1, result.2.position)) := by
  fun_induction results lexer with
  | case1 lexer h =>
      have hend := Reading.ofText_of_outcome_eq_none ((isEndOfInput_nextToken_iff lexer).1 h)
      have htrivia := Reading.isTrivia_ofText lexer.cursor.rest
      have hresult : (lexer.nextToken.1, lexer.nextToken.2.position) =
          (.ok (.endOfInput (.point (lexer.position.after lexer.cursor.rest)
            lexer.cursor.fileId)), lexer.position.after lexer.cursor.rest) := by
        rw [nextToken_fst, position_nextToken, hend]
        rfl
      rw [hend] at htrivia
      rw [List.map_singleton, hresult]
      exact .atEnd htrivia
  | case2 lexer h ih =>
      have hnext := mt (isEndOfInput_nextToken_iff lexer).2 h
      have hstop : lexer.nextToken.2.position = lexer.position.after
          ((Reading.ofText lexer.cursor.rest).trivia ++
            (Reading.ofText lexer.cursor.rest).read) := by
        rw [position_nextToken, Reading.stop, Position.after_append]
      have hspan : lexer.nextToken.1.span =
          ⟨lexer.position.after (Reading.ofText lexer.cursor.rest).trivia,
            lexer.nextToken.2.position, lexer.cursor.fileId⟩ := by
        rw [nextToken_fst, Reading.span_toOutcome, position_nextToken]
      rw [fileId_nextToken, rest_nextToken, hstop] at ih
      rw [hstop] at hspan
      have htiles := Tiles.next (Reading.isTrivia_ofText lexer.cursor.rest)
        (Reading.ofText_read_ne_nil hnext) (by simpa using h) hspan ih
      rw [Reading.ofText_append] at htiles
      rw [List.map_cons, hstop]
      exact htiles

/-- For every source: the outcomes of repeated calls tile it, in order and without
overlap, each span ends at the position of the lexer after the call and cuts
its lexeme out of the source, and the end of the source comes last, empty, and
behind all bytes. -/
theorem results_tile_source (source : String) (fileId : Nat) :
    Tiles fileId .start source.toList
        ((ofSource source fileId).results.map fun result => (result.1, result.2.position)) ∧
      ((ofSource source fileId).results.map fun result => result.1.span).Pairwise
        (fun first second => first.stop.offset ≤ second.start.offset) ∧
      (∀ result ∈ (ofSource source fileId).results,
        result.1.span.stop = result.2.position ∧ result.1.span.fileId = fileId ∧
          ∃ lexeme, result.1.span.slice? source = some lexeme ∧
            (lexeme = "" ↔ result.1.isEndOfInput = true)) ∧
      ∃ last : Position, last.offset = source.utf8ByteSize ∧
        (ofSource source fileId).outcomes.getLast? =
          some (.ok (.endOfInput (.point last fileId))) := by
  have htiles := tiles_results (ofSource source fileId)
  have hsource : source.toList = [] ++ source.toList := rfl
  have hslices := htiles.slice?_span hsource rfl
  have hlast := htiles.getLast?_eq
  have hstops := htiles.stop_span
  have hpairwise := htiles.pairwise_span
  refine ⟨htiles, ?_, ?_, Position.start.after source.toList, ?_, ?_⟩
  · simpa [List.map_map, Function.comp_def] using hpairwise
  · intro result hresult
    have hmem : (result.1, result.2.position) ∈
        (ofSource source fileId).results.map fun result => (result.1, result.2.position) :=
      List.mem_map_of_mem (f := fun result => (result.1, result.2.position)) hresult
    have hstop := hstops _ hmem
    exact ⟨hstop.1, hstop.2, hslices _ hmem⟩
  · rw [Position.offset_after, byteSize_toList]
    simp [Position.start]
  · rw [List.getLast?_map] at hlast
    rw [outcomes, List.getLast?_map]
    obtain ⟨result, hresult, heq⟩ := Option.map_eq_some_iff.1 hlast
    rw [hresult]
    exact congrArg some (congrArg Prod.fst heq)

end Lexer

end Lexis
