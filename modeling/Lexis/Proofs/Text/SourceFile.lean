import Lexis.Proofs.Text.Lines
import Lexis.Proofs.Text.Slice

/-!
# Source files and the lines of their texts

A source file finds its lines by byte offsets: the beginnings of the lines are collected once, and a
line is cut out from one of them up to the byte in front of the next.  A cut can fail in three ways,
by offsets in the wrong order, beyond the text or inside a character.

* `SourceFile.range?` is the range of bytes that a line is cut from, and `line?_eq_range?` says that
  nothing else decides what is shown.
* `exists_range?_ofText`: for each line of the text the range is there and stands between two
  characters, so that the cut succeeds.
* `line?_ofText_eq_some_iff` and `isSome_line?_ofText` say which lines there are and what is shown.
* `SourceFile.lines_of_text` puts these together.
-/

namespace Lexis

/-- There is one more beginning of a line than there are line feeds. -/
theorem length_lineStartsAfter (offset : Nat) (text : List Char) :
    (lineStartsAfter offset text).length = text.count '\n' := by
  induction text generalizing offset with
  | nil => rfl
  | cons c text ih =>
      rw [lineStartsAfter, List.count_cons]
      by_cases hc : c = '\n'
      · simp [hc, ih]
      · simp [hc, ih]

namespace SourceFile

/-- The byte offsets between which a line stands: from where it begins up to the byte in front of
the next line, or up to the end of the text. -/
def range? (file : SourceFile) (number : Nat) : Option (Nat × Nat) := do
  guard (1 ≤ number)
  let first ← file.lineStarts[number - 1]?
  let last := match file.lineStarts[number]? with
    | some next => next - 1
    | none => byteSize file.text.toList
  return (first, last)

/-- A line is what its range cuts out, less the carriage returns at the end. -/
theorem line?_eq_range? (file : SourceFile) (number : Nat) :
    file.line? number = (file.range? number).bind fun range =>
      (slice? file.text.toList range.1 range.2).map fun line =>
        String.ofList (trimReturns line) := by
  rw [line?, range?]
  cases hguard : (guard (1 ≤ number) : Option Unit) with
  | none => rfl
  | some _ =>
      cases hfirst : file.lineStarts[number - 1]? with
      | none => rfl
      | some first => exact Option.map_eq_bind.symm

/-- Lines are counted from one. -/
theorem line?_zero (file : SourceFile) : file.line? 0 = none := rfl

section OfText

variable (name text : String)

theorem lineCount_ofText : (ofText name text).lineCount = text.toList.count '\n' + 1 := by
  rw [lineCount, ofText, List.size_toArray, List.length_cons, length_lineStartsAfter]

/-- A line that exists has a range, and the range cuts it out of the text. -/
theorem exists_range?_ofText {index : Nat} {piece : List Char}
    (h : (text.toList.splitOn '\n')[index]? = some piece) :
    ∃ before behind, text.toList = before ++ (piece ++ behind) ∧
      (ofText name text).range? (index + 1) =
        some (byteSize before, byteSize before + byteSize piece) := by
  have hcut := cutLine_eq [] text.toList index
  rw [List.nil_append, byteSize_nil, cutLine, h, Option.bind_eq_some_iff] at hcut
  obtain ⟨first, hfirst, hslice⟩ := hcut
  obtain ⟨before, behind, htext, hbefore, hlast⟩ := slice?_eq_some_iff.1 hslice
  refine ⟨before, behind, htext, ?_⟩
  have hguard : (guard (1 ≤ index + 1) : Option Unit) = some () :=
    if_pos (Nat.le_add_left 1 index)
  rw [range?, ofText, hguard]
  simp only [Option.bind_eq_bind, Option.bind_some, Nat.add_one_sub_one, List.getElem?_toArray,
    hfirst, Option.pure_def, Option.some.injEq, Prod.mk.injEq]
  exact ⟨hbefore.symm, hlast.symm⟩

/-- The line with a number is the piece of the text with this number, less the carriage returns at
its end. -/
theorem line?_ofText_eq_some_iff {number : Nat} {line : String} :
    (ofText name text).line? number = some line ↔
      1 ≤ number ∧ ∃ piece, (text.toList.splitOn '\n')[number - 1]? = some piece ∧
        IsTrimmed piece line.toList := by
  cases number with
  | zero => simp [line?_zero]
  | succ index =>
      rw [line?_ofText, Option.map_eq_some_iff, Nat.add_one_sub_one,
        and_iff_right (Nat.le_add_left 1 index)]
      refine exists_congr fun piece => and_congr_right fun _ => ?_
      rw [← trimReturns_eq_iff, ← String.toList_inj, String.toList_ofList]

/-- There is a line for each number up to the count, and for no other. -/
theorem isSome_line?_ofText (number : Nat) :
    ((ofText name text).line? number).isSome = true ↔
      1 ≤ number ∧ number ≤ (ofText name text).lineCount := by
  cases number with
  | zero => simp [line?_zero]
  | succ index =>
      rw [line?_ofText, Option.isSome_map, lineCount_ofText, ← length_lines, isSome_getElem?]
      omega

/-- A source file agrees with its text parted at the line feeds.  It has a line for each piece, and
no other, and shows the piece without the carriage returns at its end.  The range of each line goes
from one character of the text to another, so that it always cuts something out. -/
theorem lines_of_text :
    (ofText name text).lineCount = text.toList.count '\n' + 1 ∧
      (∀ number, ((ofText name text).line? number).isSome = true ↔
        1 ≤ number ∧ number ≤ (ofText name text).lineCount) ∧
      (∀ number line, (ofText name text).line? number = some line ↔
        1 ≤ number ∧ ∃ piece, (text.toList.splitOn '\n')[number - 1]? = some piece ∧
          IsTrimmed piece line.toList) ∧
      (∀ number, (ofText name text).line? number =
        ((ofText name text).range? number).bind fun range =>
          (slice? text.toList range.1 range.2).map fun line => String.ofList (trimReturns line)) ∧
      ∀ number, 1 ≤ number → number ≤ (ofText name text).lineCount →
        ∃ before piece behind, text.toList = before ++ (piece ++ behind) ∧
          (text.toList.splitOn '\n')[number - 1]? = some piece ∧
          (ofText name text).range? number =
            some (byteSize before, byteSize before + byteSize piece) ∧
          slice? text.toList (byteSize before) (byteSize before + byteSize piece) =
            some piece := by
  refine ⟨lineCount_ofText name text, isSome_line?_ofText name text,
    fun _ _ => line?_ofText_eq_some_iff name text, line?_eq_range? (ofText name text), ?_⟩
  intro number hpos hle
  obtain ⟨index, rfl⟩ := Nat.exists_eq_add_one.2 hpos
  rw [lineCount_ofText, ← length_lines] at hle
  obtain ⟨before, behind, htext, hrange⟩ :=
    exists_range?_ofText name text (List.getElem?_eq_getElem hle)
  exact ⟨before, _, behind, htext, List.getElem?_eq_getElem hle, hrange,
    slice?_eq_some_iff.2 ⟨before, behind, htext, rfl, rfl⟩⟩

end OfText

end SourceFile

end Lexis
