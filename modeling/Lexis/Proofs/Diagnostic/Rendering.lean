import Lexis.Diagnostic.Rendering
import Lexis.Proofs.Character.Classes
import Lexis.Proofs.Text.Lines
import Lexis.Proofs.Text.Rows

/-!
# The rows of a report

A rendered diagnostic is a headline, the rows of its labels and the rows of its advice, each
ended by a line feed: `Diagnostic.render_eq`.  If nothing that is put into the rows breaks one
(`Diagnostic.HasRowTexts`), they are what a reader finds between the line feeds.

* `Diagnostic.startsWith_of_mem_rest` says that no row but the headline can be taken for one.
* `Label.getElem?_sourceRow` and `Label.idxOf_caretRow` count the columns of a source line and of
  the carets under it from the same edge.
-/

namespace Lexis

/-! ## Numbers and codes -/

@[simp] theorem isRow_repr (n : Nat) : IsRow n.repr := by
  rw [IsRow, Nat.toList_repr]
  exact newline_not_mem_toDigits 10 n (by decide) (by decide)

theorem isRow_toString_position (p : Position) : IsRow (toString p) := by
  show IsRow (toString p.line ++ ":" ++ toString p.column)
  simp [show IsRow ":" by decide]

theorem isRow_toString_code {code : ErrorCode} (h : code.category ≠ '\n') :
    IsRow (toString code) := by
  have hdigits := newline_not_mem_toDigits 10 code.number (by decide) (by decide)
  show '\n' ∉ (String.ofList _).toList
  rw [String.toList_ofList]
  simp [hdigits, h.symm]

theorem isRow_repeated {c : Char} (h : c ≠ '\n') (n : Nat) : IsRow (repeated c n) := by
  rw [repeated, isRow_ofList]
  intro hmem
  exact h (List.eq_of_mem_replicate hmem).symm

/-! ## Labels -/

namespace Label

/-- The place of a label. -/
def placeRow (label : Label) (file : SourceFile) : String :=
  " --> " ++ file.name ++ ":" ++ toString label.span.start

/-- The blanks under the number of the line. -/
def gutter (label : Label) : String :=
  repeated ' ' (toString label.span.start.line).length

/-- The source line of a label behind its number. -/
def sourceRow (label : Label) (line : String) : String :=
  toString label.span.start.line ++ " | " ++ line

/-- The carets of a label and what it says. -/
def caretRow (label : Label) (line : String) : String :=
  label.gutter ++ " | " ++ repeated ' ' (label.span.start.column - 1) ++
    repeated '^' (label.caretCount line) ++ " " ++ label.message

/-- The rows under the place, where the file has the line. -/
def excerptRows (label : Label) (line : String) : List String :=
  [label.gutter ++ " |", label.sourceRow line, label.caretRow line]

/-- What a label is shown as. -/
def rows (label : Label) (file : SourceFile) : List String :=
  label.placeRow file ::
    match file.line? label.span.start.line with
    | some line => label.excerptRows line
    | none => []

theorem excerpt_eq (label : Label) (line : String) :
    label.excerpt line = ofRows (label.excerptRows line) := by
  simp [excerpt, excerptRows, gutter, sourceRow, caretRow, String.append_assoc]

theorem render_eq (label : Label) (file : SourceFile) :
    label.render file = ofRows (label.rows file) := by
  rw [render, rows, ofRows_cons, placeRow]
  cases file.line? label.span.start.line with
  | none => rfl
  | some line => simp only [excerpt_eq]

theorem isRow_rows {label : Label} (hmessage : IsRow label.message) {name : String}
    (hname : IsRow name) (text : String) : ∀ row ∈ label.rows (.ofText name text), IsRow row := by
  have hgutter : IsRow label.gutter := isRow_repeated (by decide) _
  have hbar : IsRow " | " := by decide
  have hplace : IsRow (label.placeRow (.ofText name text)) := by
    simp [placeRow, SourceFile.ofText, hname, isRow_toString_position, show IsRow " --> " by decide,
      show IsRow ":" by decide]
  rw [rows, List.forall_mem_cons]
  refine ⟨hplace, ?_⟩
  cases hline : (SourceFile.ofText name text).line? label.span.start.line with
  | none => simp
  | some line =>
      have hrow : IsRow line := SourceFile.newline_not_mem_of_line? hline
      simp [excerptRows, sourceRow, caretRow, hgutter, hbar, hrow, hmessage, isRow_repeated,
        show IsRow " |" by decide, show IsRow " " by decide]

/-- Behind the bar, the source line is counted from its beginning. -/
theorem getElem?_sourceRow (label : Label) (line : String) (index : Nat) :
    (label.sourceRow line).toList[(toString label.span.start.line ++ " | ").length + index]? =
      line.toList[index]? := by
  rw [sourceRow, String.toList_append, ← String.length_toList,
    List.getElem?_append_right (Nat.le_add_right _ _), Nat.add_sub_cancel_left]

/-- The first caret stands as far behind the bar as the label begins behind the first column. -/
theorem idxOf_caretRow (label : Label) (line : String) :
    '^' ∈ (label.caretRow line).toList ∧
      (label.caretRow line).toList.idxOf '^' =
        (toString label.span.start.line ++ " | ").length + (label.span.start.column - 1) := by
  obtain ⟨count, hcount⟩ : ∃ count, label.caretCount line = count + 1 :=
    Nat.exists_eq_add_one_of_ne_zero (Nat.ne_of_gt (Nat.le_max_right _ _))
  have hrow : (label.caretRow line).toList =
      (label.gutter ++ " | " ++ repeated ' ' (label.span.start.column - 1)).toList ++
        '^' :: (List.replicate count '^' ++ ' ' :: label.message.toList) := by
    simp [caretRow, repeated, hcount, List.replicate_succ]
  have hblank : '^' ∉
      (label.gutter ++ " | " ++ repeated ' ' (label.span.start.column - 1)).toList := by
    simp [gutter, repeated, List.mem_replicate]
  rw [hrow, List.idxOf_append, if_neg hblank, List.idxOf_cons_self]
  refine ⟨by simp, ?_⟩
  have hbar : " | ".length = 3 := by decide
  simp [gutter, repeated, hbar]
  omega

end Label

/-! ## Reports -/

namespace Diagnostic

/-- The headline of a report. -/
def headRow (diagnostic : Diagnostic) : String :=
  match diagnostic.code with
  | some code => "error[" ++ toString code ++ "]: " ++ diagnostic.message
  | none => "error: " ++ diagnostic.message

/-- The rows under the headline. -/
def bodyRows (diagnostic : Diagnostic) (file : SourceFile) : List String :=
  diagnostic.labels.flatMap (·.rows file) ++ diagnostic.help.map ("  = help: " ++ ·)

/-- What a report is shown as. -/
def rows (diagnostic : Diagnostic) (file : SourceFile) : List String :=
  diagnostic.headRow :: diagnostic.bodyRows file

/-- A label whose line is there shows it, with the carets under it. -/
theorem shows_of_line? {diagnostic : Diagnostic} {file : SourceFile} {label : Label}
    (hlabels : diagnostic.labels = [label]) {line : String}
    (hline : file.line? label.span.start.line = some line) :
    [label.sourceRow line, label.caretRow line] <:+: diagnostic.rows file := by
  rw [rows, bodyRows, hlabels, List.flatMap_singleton, Label.rows, hline]
  exact ⟨[diagnostic.headRow, label.placeRow file, label.gutter ++ " |"],
    diagnostic.help.map ("  = help: " ++ ·), by simp [Label.excerptRows]⟩

theorem headline_eq (diagnostic : Diagnostic) :
    diagnostic.headline = diagnostic.headRow ++ "\n" := by
  rw [headline, headRow]
  cases diagnostic.code <;> rfl

theorem render_eq (diagnostic : Diagnostic) (file : SourceFile) :
    diagnostic.render file = ofRows (diagnostic.rows file) := by
  have hlabels : String.join (diagnostic.labels.map (·.render file)) =
      ofRows (diagnostic.labels.flatMap (·.rows file)) := by
    induction diagnostic.labels with
    | nil => rfl
    | cons label labels ih =>
        rw [List.map_cons, String.join_cons, ih, Label.render_eq, List.flatMap_cons, ofRows_append]
  have hhelp : String.join (diagnostic.help.map fun help => "  = help: " ++ help ++ "\n") =
      ofRows (diagnostic.help.map ("  = help: " ++ ·)) := by
    rw [ofRows, List.map_map]
    rfl
  rw [render, rows, bodyRows, hlabels, hhelp, headline_eq, ofRows_cons, ofRows_append]
  exact String.append_assoc

/-- Nothing that is put into the rows of the report breaks one. -/
structure HasRowTexts (diagnostic : Diagnostic) : Prop where
  code : ∀ code ∈ diagnostic.code, code.category ≠ '\n'
  message : IsRow diagnostic.message
  labels : ∀ label ∈ diagnostic.labels, IsRow label.message
  help : ∀ help ∈ diagnostic.help, IsRow help

theorem HasRowTexts.isRow_headRow {diagnostic : Diagnostic} (h : diagnostic.HasRowTexts) :
    IsRow diagnostic.headRow := by
  rw [headRow]
  cases hcode : diagnostic.code with
  | none => simp [h.message, show IsRow "error: " by decide]
  | some code =>
      have hrow := isRow_toString_code (h.code code hcode)
      simp [h.message, hrow, show IsRow "error[" by decide, show IsRow "]: " by decide]

theorem HasRowTexts.isRow_rows {diagnostic : Diagnostic} (h : diagnostic.HasRowTexts)
    {name : String} (hname : IsRow name) (text : String) :
    ∀ row ∈ diagnostic.rows (.ofText name text), IsRow row := by
  intro row hmem
  rcases List.mem_cons.1 hmem with rfl | hbody
  · exact h.isRow_headRow
  · rcases List.mem_append.1 hbody with hlabel | hhelp
    · obtain ⟨label, hlabel, hrow⟩ := List.mem_flatMap.1 hlabel
      exact Label.isRow_rows (h.labels label hlabel) hname text row hrow
    · obtain ⟨help, hgiven, rfl⟩ := List.mem_map.1 hhelp
      simp [h.help help hgiven, show IsRow "  = help: " by decide]

/-! ### Headlines and other rows -/

theorem startsWith_error_of_head? {row : String} {c : Char} (h : row.toList.head? = some c)
    (hc : c ≠ 'e') : row.startsWith "error[" = false := by
  rw [String.startsWith_string_eq_false_iff]
  rintro ⟨more, hmore⟩
  rw [← hmore] at h
  exact hc (Option.some.inj h).symm

/-- Behind the gutter, or behind no gutter, stands a blank. -/
theorem startsWith_error_gutter (label : Label) (more : String) :
    (label.gutter ++ " |" ++ more).startsWith "error[" = false := by
  refine startsWith_error_of_head? (c := ' ') ?_ (by decide)
  rw [Label.gutter, repeated]
  cases (toString label.span.start.line).length <;> simp [List.replicate_succ]

/-- A source line stands behind its number. -/
theorem startsWith_error_sourceRow (label : Label) (line : String) :
    (label.sourceRow line).startsWith "error[" = false := by
  obtain ⟨digit, digits, hdigits⟩ := List.exists_cons_of_ne_nil
    (Nat.toDigits_ne_nil (n := label.span.start.line) (b := 10))
  have hdigit : isDigitIn 10 digit = true :=
    isDigitIn_of_mem_toDigits (by decide) (by decide) (hdigits ▸ List.mem_cons_self)
  refine startsWith_error_of_head? (c := digit) ?_ ?_
  · simp [Label.sourceRow, Nat.toList_repr, hdigits]
  · rintro rfl
    cases hdigit

/-- No row but the headline begins as a headline does. -/
theorem startsWith_of_mem_bodyRows {diagnostic : Diagnostic} {file : SourceFile} {row : String}
    (h : row ∈ diagnostic.bodyRows file) : row.startsWith "error[" = false := by
  rcases List.mem_append.1 h with hlabel | hhelp
  · obtain ⟨label, _, hrow⟩ := List.mem_flatMap.1 hlabel
    rcases List.mem_cons.1 hrow with rfl | hrow
    · exact startsWith_error_of_head? (c := ' ') (by simp [Label.placeRow]) (by decide)
    · split at hrow
      · next line hline =>
          rw [Label.excerptRows, List.mem_cons, List.mem_cons, List.mem_singleton] at hrow
          rcases hrow with rfl | rfl | rfl
          · simpa using startsWith_error_gutter label ""
          · exact startsWith_error_sourceRow label line
          · have hcarets := startsWith_error_gutter label
              (" " ++ repeated ' ' (label.span.start.column - 1) ++
                repeated '^' (label.caretCount line) ++ " " ++ label.message)
            simpa [Label.caretRow, String.append_assoc] using hcarets
      · cases hrow
  · obtain ⟨help, _, rfl⟩ := List.mem_map.1 hhelp
    exact startsWith_error_of_head? (c := ' ') (by simp) (by decide)

end Diagnostic

end Lexis
