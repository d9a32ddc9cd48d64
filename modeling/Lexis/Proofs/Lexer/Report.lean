import Lexis.Proofs.Fault
import Lexis.Proofs.Lexer.Tiling
import Lexis.Proofs.Run
import Lexis.Proofs.Text.Slice

/-!
# Reports point at what they report

An error begins at the first character of a lexeme that is none, and its position counts lines and
columns as a source file and a row of carets do.  So a rendered report shows the right line, with
the first caret under that character.

* `exists_faulty_of_error` says what stands in the source where an error is found.
* `LexicalError.points` is the report of one error.
* `headlines_faultReport` reads the errors of a source back from the text of all reports about it.
* `fault_reports` puts these together.
-/

namespace Lexis

/-! ## Where an error is found -/

/-- What is taken behind the trivia begins with something else than white space. -/
theorem Reading.exists_read_eq_cons {text : List Char} (h : (ofText text).outcome ≠ none) :
    ∃ c more, (ofText text).read = c :: more ∧ isWhiteSpace c = false := by
  rcases ofText_cases text with ⟨_, htext⟩ | ⟨body, _, htext⟩ | ⟨c, rest, hrest, hblock, htext⟩
  · simp [htext] at h
  · rw [htext]
    exact ⟨'/', _, rfl, by decide⟩
  · have hsplits : (Lexeme.scan c rest).read ++ (Lexeme.scan c rest).rest = c :: rest :=
      Lexeme.scan_splits c rest
    obtain ⟨first, more, hread⟩ := List.exists_cons_of_ne_nil (Lexeme.scan_read_ne_nil c rest)
    rw [hread, List.cons_append, List.cons.injEq] at hsplits
    refine ⟨first, more, ?_, ?_⟩
    · rw [htext]
      exact hread
    · rw [hsplits.1]
      exact (Trivia.bare_skip hrest hblock).blank c rfl

/-- Every outcome is what the text is read as from some place on. -/
theorem exists_reading_of_mem {fileId : Nat} {start : Position} {text : List Char}
    {outcome : Outcome} (h : outcome ∈ outcomesFrom fileId start text) :
    ∃ before unread, text = before ++ unread ∧
      outcome = (Reading.ofText unread).toOutcome (start.after before) fileId := by
  fun_induction outcomesFrom fileId start text with
  | case1 start text hend => exact ⟨[], text, rfl, List.mem_singleton.1 h⟩
  | case2 start text hend ih =>
      rcases List.mem_cons.1 h with hfirst | hlater
      · exact ⟨[], text, rfl, hfirst⟩
      · obtain ⟨before, unread, hrest, houtcome⟩ := ih hlater
        refine ⟨(Reading.ofText text).trivia ++ ((Reading.ofText text).read ++ before), unread,
          ?_, ?_⟩
        · rw [List.append_assoc, List.append_assoc, ← hrest, Reading.ofText_append]
        · rw [houtcome, Position.after_append, Position.after_append]
          rfl

/-- An error is what the source is read as from some place on, and its span covers what is taken
there. -/
theorem exists_reading_of_error {source : String} {fileId : Nat} {error : LexicalError}
    (h : .error error ∈ (Lexer.ofSource source fileId).outcomes) :
    ∃ before unread, source.toList = before ++ unread ∧
      (Reading.ofText unread).outcome = some (.error error.fault) ∧
      error.span =
        ⟨Position.start.after (before ++ (Reading.ofText unread).trivia),
          Position.start.after
            (before ++ (Reading.ofText unread).trivia ++ (Reading.ofText unread).read),
          fileId⟩ := by
  rw [Lexer.outcomes_ofSource] at h
  obtain ⟨before, unread, hsource, houtcome⟩ := exists_reading_of_mem h
  have hspan : error.span = _ := congrArg Outcome.span houtcome
  refine ⟨before, unread, hsource, ?_, ?_⟩
  · rw [Reading.toOutcome] at houtcome
    rcases hreading : (Reading.ofText unread).outcome with _ | (fault | lexeme)
    · rw [hreading] at houtcome
      cases houtcome
    · rw [hreading] at houtcome
      obtain rfl := Except.error.inj houtcome
      rfl
    · rw [hreading] at houtcome
      cases houtcome
  · rw [hspan, Reading.span_toOutcome, Reading.stop, Position.after_append, Position.after_append,
      Position.after_append]

/-- The span of an error covers a stretch of the source that begins with something else than white
space. -/
theorem exists_faulty_of_error {source : String} {fileId : Nat} {error : LexicalError}
    (h : .error error ∈ (Lexer.ofSource source fileId).outcomes) :
    ∃ before c more rest, source.toList = before ++ (c :: more ++ rest) ∧
      isWhiteSpace c = false ∧
      error.span =
        ⟨Position.start.after before, Position.start.after (before ++ c :: more), fileId⟩ := by
  obtain ⟨before, unread, hsource, houtcome, hspan⟩ := exists_reading_of_error h
  have hfaulty : (Reading.ofText unread).outcome ≠ none := by simp [houtcome]
  obtain ⟨c, more, hread, hblank⟩ := Reading.exists_read_eq_cons hfaulty
  have happend := Reading.ofText_append unread
  rw [hread] at happend hspan
  refine ⟨before ++ (Reading.ofText unread).trivia, c, more, (Reading.ofText unread).rest, ?_,
    hblank, hspan⟩
  rw [hsource, List.append_assoc, happend]

/-! ## The report of one error -/

/-- The report shows the line of `file` on which its label begins, and its carets begin under the
first character that the label covers. -/
structure Diagnostic.Points (diagnostic : Diagnostic) (file : SourceFile) (label : Label)
    (line : String) (first : Char) : Prop where
  labels_eq : diagnostic.labels = [label]
  /-- The line is there to be shown. -/
  line?_eq : file.line? label.span.start.line = some line
  /-- What is shown is the line of the text, less the carriage returns at its end. -/
  line_eq : ((file.text.toList.splitOn '\n')[label.span.start.line - 1]?).map trimReturns =
    some line.toList
  /-- The label covers a text that begins with the character. -/
  slice?_eq : ∃ more, label.span.slice? file.text = some (String.ofList (first :: more))
  column_pos : 1 ≤ label.span.start.column
  /-- The line has the character in the column of the label. -/
  column_eq : line.toList[label.span.start.column - 1]? = some first
  /-- Columns of the two rows are counted from the same edge. -/
  carets : ∃ shown carets : String, [shown, carets] <:+: rowsOf (diagnostic.render file) ∧
    shown = toString label.span.start.line ++ " | " ++ line ∧ '^' ∈ carets.toList ∧
    carets.toList.idxOf '^' =
      (toString label.span.start.line ++ " | ").length + (label.span.start.column - 1) ∧
    shown.toList[carets.toList.idxOf '^']? = some first

/-- The rows of a report that show a line and point into it. -/
theorem Diagnostic.carets_of_line? {diagnostic : Diagnostic} {name text : String}
    (htexts : diagnostic.HasRowTexts) (hname : IsRow name) {label : Label}
    (hlabels : diagnostic.labels = [label]) {line : String}
    (hline : (SourceFile.ofText name text).line? label.span.start.line = some line) :
    [label.sourceRow line, label.caretRow line] <:+:
      rowsOf (diagnostic.render (.ofText name text)) := by
  have hrows := rowsOf_ofRows_append (htexts.isRow_rows hname text) ""
  rw [String.append_empty, rowsOf_empty] at hrows
  rw [render_eq, hrows]
  exact (shows_of_line? hlabels hline).trans (List.prefix_append _ [""]).isInfix

/-- The line on which a character stands is shown with the character in its column, unless that
is white space, which may be cut off. -/
theorem SourceFile.exists_line? (name : String) {source : String} {before rest : List Char}
    {c : Char} (hsource : source.toList = before ++ c :: rest) (hblank : isWhiteSpace c = false) :
    ∃ line, (ofText name source).line? (Position.start.after before).line = some line ∧
      line.toList[(Position.start.after before).column - 1]? = some c := by
  have hnewline : c ≠ '\n' := by
    rintro rfl
    exact absurd hblank (by decide)
  have hreturn : c ≠ '\r' := by
    rintro rfl
    exact absurd hblank (by decide)
  obtain ⟨above, habove⟩ := exists_isLastLine before
  refine ⟨_, line?_after name hsource habove, ?_⟩
  rw [List.takeWhile_cons_of_pos (by simpa using hnewline), trimReturns_append_cons hreturn,
    habove.column_after, String.toList_ofList]
  simp

/-- The report of an error points at the first character of the lexeme that is none. -/
theorem LexicalError.points {name source : String} (hname : IsRow name) {fileId : Nat}
    {error : LexicalError} (h : .error error ∈ (Lexer.ofSource source fileId).outcomes) :
    ∃ line first, error.toDiagnostic.Points (.ofText name source)
      ⟨error.span, error.fault.remark⟩ line first := by
  obtain ⟨before, first, more, rest, hsource, hblank, hspan⟩ := exists_faulty_of_error h
  obtain ⟨line, hline, hcolumn⟩ := SourceFile.exists_line? name hsource hblank
  have hstart : error.span.start = Position.start.after before := by rw [hspan]
  have hcut : error.span.slice? source = some (String.ofList (first :: more)) := by
    rw [hspan]
    exact Span.slice?_source hsource fileId
  rw [← hstart] at hline hcolumn
  have hlabels : error.toDiagnostic.labels = [⟨error.span, error.fault.remark⟩] := by
    rw [toDiagnostic_eq]
  obtain ⟨hcaret, hindex⟩ := Label.idxOf_caretRow ⟨error.span, error.fault.remark⟩ line
  refine ⟨line, first, hlabels, hline, SourceFile.map_trimReturns_of_line? hline, ⟨more, hcut⟩, ?_,
    hcolumn, ?_⟩
  · rw [hstart]
    exact (Position.isPlace_start.after before).column
  · refine ⟨_, _, Diagnostic.carets_of_line? error.hasRowTexts hname hlabels hline, rfl, hcaret,
      hindex, ?_⟩
    rw [hindex, Label.getElem?_sourceRow]
    exact hcolumn

/-! ## The text of all reports -/

/-- The rows of a text that begin as the headline of an error does, each with the row under it. -/
def headlines (text : String) : List (String × Option String) :=
  (withNext (rowsOf text)).filter fun pair => pair.1.startsWith "error["

/-- What the headline of an error and the row under it say. -/
def LexicalError.headline (error : LexicalError) (name : String) : String × Option String :=
  ("error[" ++ toString error.code ++ "]: " ++ error.fault.message,
    some (" --> " ++ name ++ ":" ++
      (toString error.span.start.line ++ ":" ++ toString error.span.start.column)))

namespace LexicalError

/-- The headline of an error is told from the rows of its report. -/
theorem filter_withNext_rows (error : LexicalError) (name text : String) (rest : List String) :
    (withNext (error.toDiagnostic.rows (.ofText name text) ++ [""] ++ rest)).filter
        (fun pair => pair.1.startsWith "error[") =
      error.headline name :: (withNext rest).filter fun pair => pair.1.startsWith "error[" := by
  have hhead : error.toDiagnostic.headRow = (error.headline name).1 := by
    rw [toDiagnostic_eq]
    rfl
  have hplace : (error.toDiagnostic.bodyRows (.ofText name text)).head? =
      (error.headline name).2 := by
    rw [toDiagnostic_eq]
    rfl
  have hbody : ∀ row ∈ error.toDiagnostic.bodyRows (.ofText name text) ++ [""],
      row.startsWith "error[" = false := by
    intro row hmem
    rcases List.mem_append.1 hmem with hrow | hempty
    · exact Diagnostic.startsWith_of_mem_bodyRows hrow
    · rw [List.mem_singleton.1 hempty, String.startsWith_string_eq_false_iff]
      decide
  have hstarts : (error.headline name).1.startsWith "error[" = true := by
    rw [String.startsWith_string_iff]
    exact ⟨(toString error.code ++ "]: " ++ error.fault.message).toList, by simp [headline]⟩
  rw [Diagnostic.rows, List.append_assoc, List.cons_append, ← List.append_assoc, withNext,
    List.filter_cons_of_pos (by rw [hhead]; exact hstarts), filter_withNext_append hbody]
  congr 1
  rw [hhead, List.append_assoc, List.head?_append, hplace]
  rfl

/-- The headlines of reports one under the other are those of the errors. -/
theorem filter_withNext_reports (errors : List LexicalError) (name text : String) :
    (withNext (errors.flatMap fun error =>
        error.toDiagnostic.rows (.ofText name text) ++ [""])).filter
        (fun pair => pair.1.startsWith "error[") =
      errors.map fun error => error.headline name := by
  induction errors with
  | nil => rfl
  | cons error errors ih =>
      rw [List.flatMap_cons, filter_withNext_rows, ih, List.map_cons]

end LexicalError

/-- There is nothing to say about a source without errors. -/
theorem faultReport_of_errors_eq_nil (name : String) {source : String}
    (h : (Run.ofSource source).errors = []) : faultReport name source = "" := by
  rw [faultReport, Diagnostics.render, toList_tokenize, h]
  exact String.intercalate_nil

/-- The rows of the text of all reports. -/
theorem rowsOf_faultReport {name source : String} (hname : IsRow name)
    (hne : (Run.ofSource source).errors ≠ []) :
    rowsOf (faultReport name source) = (Run.ofSource source).errors.flatMap fun error =>
      error.toDiagnostic.rows (.ofText name source) ++ [""] := by
  have hreport : faultReport name source = "\n".intercalate
      (((Run.ofSource source).errors.map fun error =>
        error.toDiagnostic.rows (.ofText name source)).map ofRows) := by
    rw [faultReport, Diagnostics.render, toList_tokenize, List.map_map, List.map_map]
    congr 2
    funext error
    exact error.toDiagnostic.render_eq _
  rw [hreport, rowsOf_intercalate (by simpa using hne), List.flatMap_map]
  intro block hblock
  obtain ⟨error, _, rfl⟩ := List.mem_map.1 hblock
  exact error.hasRowTexts.isRow_rows hname source

theorem headlines_empty : headlines "" = [] := by
  have hstarts : "".startsWith "error[" = false := by
    rw [String.startsWith_string_eq_false_iff]
    decide
  rw [headlines, rowsOf_empty, withNext, List.filter_cons_of_neg (by simp [hstarts])]
  rfl

/-- The headlines are those of the errors, in the order of the source. -/
theorem headlines_faultReport {name : String} (hname : IsRow name) (source : String) :
    headlines (faultReport name source) =
      (Run.ofSource source).errors.map fun error => error.headline name := by
  by_cases hnil : (Run.ofSource source).errors = []
  · rw [faultReport_of_errors_eq_nil name hnil, headlines_empty, hnil]
    rfl
  · rw [headlines, rowsOf_faultReport hname hnil]
    exact LexicalError.filter_withNext_reports _ name source

/-- Every diagnostic of a source reports an error.  It shows the line on which the error begins, and
points there at the first character of the lexeme that is none.  The headlines in the text of all
reports are those of the errors, one for each in the order of the source, and under each stands
the place of the error.  There is no text just if there are no errors. -/
theorem fault_reports (name source : String) (hname : IsRow name) :
    (∀ fileId, ∀ diagnostic ∈ (tokenize source fileId).2.toList,
      ∃ error, .error error ∈ (Lexer.ofSource source fileId).outcomes ∧
        diagnostic = error.toDiagnostic ∧
        ∃ line first,
          diagnostic.Points (.ofText name source) ⟨error.span, error.fault.remark⟩ line first) ∧
    headlines (faultReport name source) =
      (Run.ofSource source).errors.map (fun error =>
        ("error[" ++ toString error.code ++ "]: " ++ error.fault.message,
          some (" --> " ++ name ++ ":" ++
            (toString error.span.start.line ++ ":" ++ toString error.span.start.column)))) ∧
    (faultReport name source = "" ↔ (Run.ofSource source).errors = []) := by
  have hheadlines := headlines_faultReport hname source
  refine ⟨?_, hheadlines, ?_, faultReport_of_errors_eq_nil name⟩
  · intro fileId diagnostic hmem
    rw [(tokenize_eq source fileId).2] at hmem
    obtain ⟨outcome, houtcome, hreport⟩ := List.mem_filterMap.1 hmem
    cases outcome with
    | ok token => cases hreport
    | error error =>
        obtain rfl : error.toDiagnostic = diagnostic := Option.some.inj hreport
        exact ⟨error, houtcome, rfl, LexicalError.points hname houtcome⟩
  · intro hempty
    rw [hempty, headlines_empty] at hheadlines
    exact List.map_eq_nil_iff.1 hheadlines.symm

/-- An error in front of the carriage return of its line, and one on a last line without an
end. -/
theorem fault_reports_carriage_return :
    IsRow "a\r.go" ∧ (Run.ofSource "é @\r\n \"\\n").errors.length = 2 ∧
      (∀ fileId, ∀ diagnostic ∈ (tokenize "é @\r\n \"\\n" fileId).2.toList,
        ∃ error, .error error ∈ (Lexer.ofSource "é @\r\n \"\\n" fileId).outcomes ∧
          diagnostic = error.toDiagnostic ∧
          ∃ line first, diagnostic.Points (.ofText "a\r.go" "é @\r\n \"\\n")
            ⟨error.span, error.fault.remark⟩ line first) ∧
      headlines (faultReport "a\r.go" "é @\r\n \"\\n") =
        (Run.ofSource "é @\r\n \"\\n").errors.map (fun error =>
          ("error[" ++ toString error.code ++ "]: " ++ error.fault.message,
            some (" --> " ++ "a\r.go" ++ ":" ++
              (toString error.span.start.line ++ ":" ++ toString error.span.start.column)))) ∧
      (faultReport "a\r.go" "é @\r\n \"\\n" = "" ↔
        (Run.ofSource "é @\r\n \"\\n").errors = []) :=
  ⟨by decide, by decide +kernel, fault_reports "a\r.go" "é @\r\n \"\\n" (by decide)⟩

end Lexis
