import Lexis.Proofs.Diagnostic.Rendering

/-!
# How many carets there are

Carets stand under the columns that a label covers.  The region of a label is given by lines and
columns of the source, while the line above the carets may be shorter than the line of the source.

* `Span.covers` says which columns of a line a region covers, and `Label.underlined` counts those
  among them that are shown.
* `Label.carets` counts the carets in their row, and `Label.carets_eq_caretCount` says how many they
  are.
* `Label.caretCount_of_lines`: under a region of several lines there are as many carets as columns.
* `Label.underlined_of_line` and `Label.caretCount_of_line`: under a region of one line there are as
  many carets as the region has columns, whether the line is shown as far or not.
-/

namespace Lexis

/-- Whether the region covers the character in a column of a line. -/
def Span.covers (span : Span) (line column : Nat) : Bool :=
  (span.start.line < line || span.start.line == line && span.start.column ≤ column) &&
    (line < span.stop.line || line == span.stop.line && column < span.stop.column)

/-- The columns from one on that lie between two bounds. -/
theorem countP_columns {first : Nat} (hfirst : 1 ≤ first) (stop count : Nat) :
    ((List.range' 1 count).countP fun column => decide (first ≤ column) && decide (column < stop)) =
      min stop (count + 1) - first := by
  induction count with
  | zero =>
      rw [List.range'_zero, List.countP_nil]
      omega
  | succ count ih =>
      rw [List.range'_1_concat, List.countP_append, ih, List.countP_singleton, Nat.add_comm 1 count]
      by_cases hcolumn : first ≤ count + 1 ∧ count + 1 < stop
      · rw [if_pos (by simpa using hcolumn)]
        omega
      · rw [if_neg (by simpa using hcolumn)]
        omega

namespace Label

variable {label : Label} {line : String}

/-- The number of the characters of `line` that the label covers, where `line` is what is shown for
the line on which the label begins. -/
def underlined (label : Label) (line : String) : Nat :=
  (List.range' 1 line.length).countP (label.span.covers label.span.start.line)

/-- The number of the carets in their row. -/
def carets (label : Label) (line : String) : Nat :=
  (label.caretRow line).toList.count '^'

/-- All carets stand under the label, if it says nothing with a caret in it. -/
theorem carets_eq_caretCount (hmessage : '^' ∉ label.message.toList) :
    label.carets line = label.caretCount line := by
  have hgutter : label.gutter.toList.count '^' = 0 := by
    simp [gutter, repeated, List.count_replicate]
  have hblanks : (repeated ' ' (label.span.start.column - 1)).toList.count '^' = 0 := by
    simp [repeated, List.count_replicate]
  have hcarets : (repeated '^' (label.caretCount line)).toList.count '^' =
      label.caretCount line := by
    simp [repeated]
  have hbar : " | ".toList.count '^' = 0 := by decide
  have hblank : " ".toList.count '^' = 0 := by decide
  simp only [carets, caretRow, String.toList_append, List.count_append, hgutter, hbar, hblanks,
    hcarets, hblank, List.count_eq_zero.2 hmessage]
  omega

/-! ## Regions of several lines -/

section Lines

variable (hlines : label.span.start.line < label.span.stop.line)

include hlines

/-- A region of several lines covers the rest of its first line. -/
theorem underlined_of_lines (hcolumn : 1 ≤ label.span.start.column) (line : String) :
    label.underlined line = line.length + 1 - label.span.start.column := by
  have hcovers : ∀ column ∈ List.range' 1 line.length,
      (label.span.covers label.span.start.line column = true ↔
        (decide (label.span.start.column ≤ column) &&
          decide (column < line.length + 1)) = true) := by
    intro column hmem
    have hshown : column < line.length + 1 := by
      have hrange := List.mem_range'_1.1 hmem
      omega
    simp [Span.covers, hlines, hshown]
  rw [underlined, List.countP_congr hcovers, countP_columns hcolumn]
  omega

/-- Under a region of several lines there is a caret for each column, up to the end of the line. -/
theorem caretCount_of_lines (hcolumn : 1 ≤ label.span.start.column)
    (hshown : label.span.start.column ≤ line.length) :
    label.caretCount line = label.underlined line ∧
      label.span.start.column - 1 + label.caretCount line = line.length := by
  have hcount : label.caretCount line = line.length + 1 - label.span.start.column := by
    rw [caretCount, if_neg (by omega)]
    omega
  rw [underlined_of_lines hlines hcolumn, hcount]
  omega

end Lines

/-! ## Regions of one line -/

section Line

variable (hline : label.span.stop.line = label.span.start.line)

include hline

/-- A region of one line covers as much of it as is shown. -/
theorem underlined_of_line (hcolumn : 1 ≤ label.span.start.column) (line : String) :
    label.underlined line =
      min label.span.stop.column (line.length + 1) - label.span.start.column := by
  have hcovers : ∀ column ∈ List.range' 1 line.length,
      (label.span.covers label.span.start.line column = true ↔
        (decide (label.span.start.column ≤ column) &&
          decide (column < label.span.stop.column)) = true) := by
    intro column _
    simp [Span.covers, hline]
  rw [underlined, List.countP_congr hcovers, countP_columns hcolumn]

/-- There is a caret for each column of a region, whether it is shown or not. -/
theorem caretCount_of_line (hwidth : label.span.start.column < label.span.stop.column)
    (line : String) :
    label.caretCount line = label.span.stop.column - label.span.start.column := by
  rw [caretCount, if_pos hline]
  omega

end Line

end Label

end Lexis
