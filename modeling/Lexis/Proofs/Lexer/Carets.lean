import Lexis.Proofs.Diagnostic.Carets
import Lexis.Proofs.Lexeme.Numeral.Extent
import Lexis.Proofs.Lexer.Quotations
import Lexis.Proofs.Lexer.Report

/-!
# Carets under a fault

The carets of a report stand under the characters that the fault is about.  A fault of several lines
has a caret for each character of its first line that is shown.  A fault of one line has a caret for
each of its characters, and that is one too many for every carriage return at its end, as the line
is shown without them.

A fault that ends in a carriage return ends with its line, so that nothing else is lost: no numeral
and no symbol has one in it, and a literal or a comment that is never closed goes on to the end of
the line at least.

* `Lexeme.endsLine_of_return` and `Reading.endsLine_of_return` say so for a lexeme and for a step.
* `LexicalError.IsAbout` is the stretch of the source that an error is about.
* `IsAbout.carets_of_lines` and `IsAbout.carets_of_line` count the carets in either case.
* `Diagnostic.Underlines` is what a report shows, and `fault_carets` says it of every report of a
  source.
-/

namespace Lexis

/-! ## Faults that end in a carriage return -/

/-- No numeral has a carriage return in it, accepted or refused. -/
theorem Numeral.Extent.return_not_mem {text taken : List Char} (h : Numeral.Extent text taken) :
    '\r' ∉ taken := by
  have hrun : ∀ text : List Char, '\r' ∉ text.takeWhile Numeral.isTail := by
    intro text hmem
    exact absurd (forall_mem_takeWhile _ _ _ hmem) (by decide +kernel)
  cases h with
  | run _ => exact hrun text
  | @signed sign digits hsigned hbehind =>
      have hsign : '\r' ≠ sign := by
        rintro rfl
        obtain ⟨-, hbegins⟩ := hsigned
        rw [hbehind] at hbegins
        obtain ⟨hsign, -⟩ := hbegins
        exact absurd hsign (by decide)
      simp only [List.mem_append, List.mem_cons, not_or]
      exact ⟨hrun text, hsign, hrun digits⟩

/-- A literal with a carriage return at its end is not closed, and the line ends there. -/
theorem Quotation.Extent.endsLine_of_return {quote : Char} (hquote : IsLineQuote quote)
    {text : List Char} {tail : Tail} (h : Extent quote text tail)
    (hlast : (quote :: tail.read).getLast? = some '\r') : ∀ c ∈ tail.rest.head?, c = '\n' := by
  cases h with
  | closed hbody =>
      have hreturn : quote = '\r' := by simpa [List.getLast?_cons] using hlast
      rcases hquote with rfl | rfl <;> cases hreturn
  | unclosed hbody hrest => exact hrest
  | backslash hbody hrest => exact hrest

/-- A lexeme that is none and has a carriage return at its end is the last on its line. -/
theorem Lexeme.endsLine_of_return {c : Char} {text : List Char} {fault : Fault}
    (h : (scan c text).verdict = .error fault) (hblank : isWhiteSpace c = false)
    (hlast : (scan c text).read.getLast? = some '\r') :
    ∀ d ∈ (scan c text).rest.head?, d = '\n' := by
  have hquoted : Quotation.IsLineQuote c → ∀ d ∈ (scan c text).rest.head?, d = '\n' := by
    intro hquote
    have hcovers := scan_covers hquote text
    rw [hcovers.read] at hlast
    rw [hcovers.rest]
    exact (Quotation.extent_skipTail c text).endsLine_of_return hquote hlast
  cases refused_of_scan h with
  | interpreted hc _ => exact hquoted (.inl hc)
  | raw hc hrest => simp [hrest]
  | character hc _ => exact hquoted (.inr hc)
  | numeral hc _ =>
      rw [scan_of_isDigit hc] at hlast
      exact absurd (List.mem_of_getLast? hlast) (Numeral.extent_scan hc text).1.return_not_mem
  | symbol hc hnone =>
      rw [scan_of_not_opensLiteralOrWord hc, Symbol.scanSymbol_eq, hnone] at hlast
      obtain rfl : c = '\r' := by simpa using hlast
      cases hblank

/-- A fault with a carriage return at its end is the last thing on its line. -/
theorem Reading.endsLine_of_return {text : List Char} {fault : Fault}
    (h : (ofText text).outcome = some (.error fault))
    (hlast : (ofText text).read.getLast? = some '\r') :
    ∀ c ∈ (ofText text).rest.head?, c = '\n' := by
  rcases ofText_cases text with ⟨_, htext⟩ | ⟨body, _, htext⟩ | ⟨c, rest, hrest, hblock, htext⟩
  · simp [htext] at h
  · simp [htext]
  · rw [htext] at h hlast ⊢
    exact Lexeme.endsLine_of_return (Option.some.inj h)
      ((Trivia.bare_skip hrest hblock).blank c rfl) hlast

/-! ## What an error is about -/

/-- `covered` is the stretch of the source that the error is about, between `before` and `rest`. -/
structure LexicalError.IsAbout (error : LexicalError) (source : String)
    (before covered rest : List Char) : Prop where
  source_eq : source.toList = before ++ (covered ++ rest)
  start_eq : error.span.start = Position.start.after before
  stop_eq : error.span.stop = Position.start.after (before ++ covered)
  head : ∃ c more, covered = c :: more ∧ isWhiteSpace c = false
  endsLine : covered.getLast? = some '\r' → ∀ c ∈ rest.head?, c = '\n'

theorem exists_isAbout_of_error {source : String} {fileId : Nat} {error : LexicalError}
    (h : .error error ∈ (Lexer.ofSource source fileId).outcomes) :
    ∃ before covered rest, error.IsAbout source before covered rest := by
  obtain ⟨before, unread, hsource, houtcome, hspan⟩ := exists_reading_of_error h
  have hfaulty : (Reading.ofText unread).outcome ≠ none := by simp [houtcome]
  refine ⟨before ++ (Reading.ofText unread).trivia, _, _, ?_, by rw [hspan], by rw [hspan],
    Reading.exists_read_eq_cons hfaulty, Reading.endsLine_of_return houtcome⟩
  rw [hsource, List.append_assoc, Reading.ofText_append]

namespace LexicalError.IsAbout

variable {error : LexicalError} {name source line : String} {before covered rest : List Char}

/-- The span of the error cuts out what the error is about. -/
theorem slice?_eq (h : error.IsAbout source before covered rest) :
    error.span.slice? source = some (String.ofList covered) := by
  have hcut := Span.slice?_source h.source_eq error.span.fileId
  rwa [← h.start_eq, ← h.stop_eq] at hcut

theorem column_pos (h : error.IsAbout source before covered rest) :
    1 ≤ error.span.start.column := by
  rw [h.start_eq]
  exact (Position.isPlace_start.after before).column

theorem stop_line_eq (h : error.IsAbout source before covered rest) :
    error.span.stop.line = error.span.start.line + covered.count '\n' := by
  rw [h.stop_eq, h.start_eq, Position.after_append, Position.line_after]

/-- The line is shown at least as far as the first character that the error is about. -/
theorem exists_line? (h : error.IsAbout source before covered rest) (name : String) :
    ∃ line, (SourceFile.ofText name source).line? error.span.start.line = some line ∧
      error.span.start.column ≤ line.length := by
  obtain ⟨c, more, rfl, hblank⟩ := h.head
  obtain ⟨line, hline, hcolumn⟩ := SourceFile.exists_line? name h.source_eq hblank
  rw [← h.start_eq] at hline hcolumn
  obtain ⟨hlength, -⟩ := List.getElem?_eq_some_iff.1 hcolumn
  rw [String.length_toList] at hlength
  exact ⟨line, hline, by omega⟩

/-- Of a stretch of one line, everything but the carriage returns at its end is shown.  If there are
any, the line is shown as far as what stands before them, and else further than the stretch goes. -/
theorem exists_shown (h : error.IsAbout source before covered rest) (hnewline : '\n' ∉ covered)
    {kept : List Char} (hkept : IsTrimmed covered kept) (name : String) :
    ∃ line, (SourceFile.ofText name source).line? error.span.start.line = some line ∧
      error.span.start.column - 1 + kept.length ≤ line.length ∧
      (covered.length ≠ kept.length →
        line.length = error.span.start.column - 1 + kept.length) := by
  obtain ⟨above, habove⟩ := exists_isLastLine before
  have hline := SourceFile.line?_after name h.source_eq habove
  have hcolumn := habove.column_after
  rw [← h.start_eq] at hline hcolumn
  rw [List.takeWhile_append_of_pos (forall_bne_of_not_mem hnewline)] at hline
  refine ⟨_, hline, ?_⟩
  rw [String.length_ofList, hcolumn, Nat.add_sub_cancel]
  have hne : kept ≠ [] := by
    rintro rfl
    obtain ⟨c, more, rfl, hblank⟩ := h.head
    obtain ⟨count, hcount⟩ := hkept.returns
    have hreturn : c = '\r' := List.eq_of_mem_replicate (hcount ▸ List.mem_cons_self)
    rw [hreturn] at hblank
    cases hblank
  by_cases hlast : covered.getLast? = some '\r'
  · -- The line ends here.
    have hend : rest.takeWhile (· != '\n') = [] := by
      cases rest with
      | nil => rfl
      | cons c rest => simp [h.endsLine hlast c rfl]
    rw [hend, List.append_nil, trimReturns_eq_iff.2 (hkept.behind hne above), List.length_append]
    omega
  · have hself := isTrimmed_self hlast
    obtain rfl := hkept.eq hself
    rw [← List.append_assoc, trimReturns_append (hself.behind hne above).getLast?_ne,
      List.length_append, List.length_append]
    omega

section Label

variable {label : Label}

/-- Under a fault of several lines there is a caret for each of its characters that is shown, as far
as the line is shown. -/
theorem carets_of_lines (h : error.IsAbout source before covered rest)
    (hspan : label.span = error.span) (hnewline : '\n' ∈ covered)
    (hline : (SourceFile.ofText name source).line? label.span.start.line = some line) :
    label.caretCount line = label.underlined line ∧
      label.span.start.column - 1 + label.caretCount line = line.length := by
  obtain ⟨shown, hshown, hlength⟩ := h.exists_line? name
  have hcolumn := h.column_pos
  have hstop := h.stop_line_eq
  rw [← hspan] at hshown hlength hcolumn hstop
  obtain rfl := Option.some.inj (hline.symm.trans hshown)
  have hlines : label.span.start.line < label.span.stop.line := by
    have hpos := List.count_pos_iff.2 hnewline
    omega
  exact Label.caretCount_of_lines hlines hcolumn hlength

/-- Under a fault of one line there is a caret for each of its characters.  All are shown but the
carriage returns at the end, and for each of these a caret stands behind the line. -/
theorem carets_of_line (h : error.IsAbout source before covered rest)
    (hspan : label.span = error.span) (hnewline : '\n' ∉ covered) {kept : List Char}
    (hkept : IsTrimmed covered kept)
    (hline : (SourceFile.ofText name source).line? label.span.start.line = some line) :
    label.caretCount line = covered.length ∧ label.underlined line = kept.length ∧
      (label.span.start.column - 1 + label.caretCount line ≤ line.length ↔
        covered.length = kept.length) := by
  obtain ⟨shown, hshown, hle, hends⟩ := h.exists_shown hnewline hkept name
  have hcolumn := h.column_pos
  have hlines : error.span.stop.line = error.span.start.line := by
    rw [h.stop_line_eq, List.count_eq_zero.2 hnewline]
    rfl
  have hstop : error.span.stop.column = error.span.start.column + covered.length := by
    rw [h.stop_eq, h.start_eq, Position.after_append, Position.column_after hnewline]
  rw [← hspan] at hshown hle hends hcolumn hlines hstop
  obtain rfl := Option.some.inj (hline.symm.trans hshown)
  have hpos : 0 < covered.length := by
    obtain ⟨c, more, rfl, _⟩ := h.head
    exact Nat.succ_pos _
  have hkeptLe : kept.length ≤ covered.length := by
    obtain ⟨count, rfl⟩ := hkept.returns
    rw [List.length_append]
    exact Nat.le_add_right _ _
  rw [Label.caretCount_of_line hlines (by omega), Label.underlined_of_line hlines hcolumn]
  omega

end Label

end LexicalError.IsAbout

/-! ## The reports of a source -/

/-- What a fault says of its place has no caret in it. -/
theorem Fault.caret_not_mem_remark (fault : Fault) : '^' ∉ fault.remark.toList := by
  fun_cases remark fault <;> decide

/-- The report shows the line of `file` on which its label begins, with a row of carets under it.
`covered` is the text that the label covers, and `kept` is the same less the carriage returns at its
end. -/
structure Diagnostic.Underlines (diagnostic : Diagnostic) (file : SourceFile) (label : Label)
    (line : String) (covered kept : List Char) : Prop where
  labels_eq : diagnostic.labels = [label]
  line?_eq : file.line? label.span.start.line = some line
  slice?_eq : label.span.slice? file.text = some (String.ofList covered)
  isTrimmed : IsTrimmed covered kept
  render_eq : diagnostic.render file = ofRows (diagnostic.rows file)
  rows : [label.sourceRow line, label.caretRow line] <:+: diagnostic.rows file
  carets_pos : 1 ≤ label.carets line
  /-- A text of several lines is underlined to the end of the first, as it is shown. -/
  of_lines : '\n' ∈ covered →
    label.carets line = label.underlined line ∧
      label.span.start.column - 1 + label.carets line = line.length
  /-- A text of one line is underlined as a whole, and shown less the carriage returns. -/
  of_line : '\n' ∉ covered →
    label.carets line = covered.length ∧ label.underlined line = kept.length
  /-- There are as many carets as characters that are shown. -/
  carets_eq_iff : label.carets line = label.underlined line ↔
    '\n' ∈ covered ∨ covered.getLast? ≠ some '\r'
  /-- No caret stands behind the end of the line. -/
  carets_le_iff : label.span.start.column - 1 + label.carets line ≤ line.length ↔
    '\n' ∈ covered ∨ covered.getLast? ≠ some '\r'

/-- The report of an error underlines what the error is about. -/
theorem LexicalError.underlines {name source : String} {fileId : Nat} {error : LexicalError}
    (h : .error error ∈ (Lexer.ofSource source fileId).outcomes) :
    ∃ line covered kept, error.toDiagnostic.Underlines (.ofText name source)
      ⟨error.span, error.fault.remark⟩ line covered kept := by
  obtain ⟨before, covered, rest, habout⟩ := exists_isAbout_of_error h
  obtain ⟨line, hline, -⟩ := habout.exists_line? name
  have hkept := isTrimmed_trimReturns covered
  have hlabels : error.toDiagnostic.labels = [⟨error.span, error.fault.remark⟩] := by
    rw [toDiagnostic_eq]
  have hcarets : Label.carets ⟨error.span, error.fault.remark⟩ line =
      Label.caretCount ⟨error.span, error.fault.remark⟩ line :=
    Label.carets_eq_caretCount error.fault.caret_not_mem_remark
  have hspan : Label.span ⟨error.span, error.fault.remark⟩ = error.span := rfl
  have hlines := fun hnewline => habout.carets_of_lines hspan hnewline hline
  have hone := fun hnewline => habout.carets_of_line hspan hnewline hkept hline
  rw [← hcarets] at hlines hone
  refine ⟨line, covered, trimReturns covered, hlabels, hline, habout.slice?_eq, hkept,
    Diagnostic.render_eq _ _, Diagnostic.shows_of_line? hlabels hline, ?_, hlines,
    fun hnewline => ⟨(hone hnewline).1, (hone hnewline).2.1⟩, ?_, ?_⟩
  · rw [hcarets]
    exact Nat.le_max_right _ _
  · rw [← hkept.length_eq_iff]
    by_cases hnewline : '\n' ∈ covered
    · exact iff_of_true (hlines hnewline).1 (.inl hnewline)
    · obtain ⟨hcount, hunderlined, -⟩ := hone hnewline
      rw [hcount, hunderlined, or_iff_right hnewline]
  · rw [← hkept.length_eq_iff]
    by_cases hnewline : '\n' ∈ covered
    · exact iff_of_true (Nat.le_of_eq (hlines hnewline).2) (.inl hnewline)
    · rw [(hone hnewline).2.2, or_iff_right hnewline]

/-- Every report of a source shows the line on which its fault begins, with a row of carets under
it.  There is at least one caret.  Under a fault of several lines there is one for each character
that is shown, up to the end of the line.  Under a fault of one line there is one for each character
of the fault.  These are as many as are shown, and none stands behind the line, unless the fault
ends in a carriage return: then there is one caret more for each carriage return at the end. -/
theorem fault_carets (name source : String) (fileId : Nat) (diagnostic : Diagnostic)
    (h : diagnostic ∈ (tokenize source fileId).2.toList) :
    ∃ label line covered kept,
      diagnostic.Underlines (.ofText name source) label line covered kept := by
  rw [(tokenize_eq source fileId).2] at h
  obtain ⟨outcome, houtcome, hreport⟩ := List.mem_filterMap.1 h
  cases outcome with
  | ok token => cases hreport
  | error error =>
      obtain rfl : error.toDiagnostic = diagnostic := Option.some.inj hreport
      exact ⟨_, LexicalError.underlines houtcome⟩

/-- A comment that is not closed in front of a carriage return and goes on behind it. -/
theorem fault_carets_comment :
    LexicalError.toDiagnostic ⟨.unterminatedComment, ⟨⟨1, 3, 2⟩, ⟨2, 2, 8⟩, 0⟩⟩ ∈
        (tokenize "a /* \r\nb" 0).2.toList ∧
      ∃ label line covered kept,
        (LexicalError.toDiagnostic
          ⟨.unterminatedComment, ⟨⟨1, 3, 2⟩, ⟨2, 2, 8⟩, 0⟩⟩).Underlines
            (.ofText "a.go" "a /* \r\nb") label line covered kept :=
  ⟨by decide +kernel, fault_carets "a.go" "a /* \r\nb" 0 _ (by decide +kernel)⟩

/-- A string that is not closed in front of a carriage return: five carets stand under a line of
four characters. -/
theorem fault_carets_carriage_return :
    ∃ diagnostic ∈ (tokenize "\"abc\r\n" 0).2.toList, ∃ label line,
      diagnostic.labels = [label] ∧
      (SourceFile.ofText "a.go" "\"abc\r\n").line? label.span.start.line = some line ∧
      line = "\"abc" ∧ label.underlined line = 4 ∧ label.carets line = 5 ∧
      ¬ label.span.start.column - 1 + label.carets line ≤ line.length := by
  refine ⟨LexicalError.toDiagnostic ⟨.unterminatedString, ⟨⟨1, 1, 0⟩, ⟨1, 6, 5⟩, 0⟩⟩, ?_, _,
    "\"abc", rfl, ?_⟩
  · decide +kernel
  · decide +kernel

end Lexis
