import Lexis.Proofs.Text.Position
import Lexis.Proofs.Text.Runs
import Lexis.Text.SourceFile

/-!
# Lines of a text

Line feeds part a text into lines, and `List.splitOn` cuts it there.  A position and a source
file know the lines of a text in ways of their own: the position counts what it has gone over,
and the source file holds byte offsets.  This module ties both to the lines themselves.

* `lines_induction` is the induction over the lines of a text, the first one first.
* `IsLastLine` is what a text has behind its last line feed.  The column of a position behind
  the text counts its characters (`IsLastLine.column_after`), and a text that goes on has it at
  the head of the line there (`IsLastLine.getElem?_lines`).
* `IsTrimmed` is what is left of a line without the carriage returns at its end, and
  `trimReturns_eq_iff` says that they are cut off.
* `SourceFile.line?_ofText` says that a source file cuts out the lines of its text, less the
  carriage returns at their ends, and `SourceFile.line?_after` which one it shows for a position.
-/

namespace Lexis

/-! ## Line by line -/

/-- What holds of every text of one line, and of a line before a text of which it holds, holds
of every text. -/
@[elab_as_elim]
theorem lines_induction {motive : List Char → Prop}
    (single : ∀ line, '\n' ∉ line → motive line)
    (cons : ∀ line text, '\n' ∉ line → motive text → motive (line ++ '\n' :: text))
    (text : List Char) : motive text := by
  by_cases hmem : '\n' ∈ text
  · obtain ⟨line, rest, htext, hline⟩ := List.eq_append_cons_of_mem hmem
    have hlength : rest.length < text.length := by
      rw [htext, List.length_append, List.length_cons]
      omega
    rw [htext]
    exact cons line rest hline (lines_induction single cons rest)
  · exact single text hmem
termination_by text.length

/-- There is one line more than there are line feeds. -/
theorem length_lines (text : List Char) :
    (text.splitOn '\n').length = text.count '\n' + 1 := by
  induction text using lines_induction with
  | single line hline =>
      rw [List.splitOn_eq_singleton hline, List.count_eq_zero.2 hline]
      rfl
  | cons line text hline ih =>
      rw [List.splitOn_append_cons_self_of_not_mem hline, List.length_cons, ih, List.count_append,
        List.count_eq_zero.2 hline, List.count_cons_self]
      omega

/-- No line has a line feed in it. -/
theorem newline_not_mem_of_mem_lines {text line : List Char} (h : line ∈ text.splitOn '\n') :
    '\n' ∉ line := by
  induction text using lines_induction with
  | single first hfirst =>
      rw [List.splitOn_eq_singleton hfirst, List.mem_singleton] at h
      rw [h]
      exact hfirst
  | cons first text hfirst ih =>
      rw [List.splitOn_append_cons_self_of_not_mem hfirst, List.mem_cons] at h
      rcases h with rfl | h
      · exact hfirst
      · exact ih h

/-- The first line goes as far as the first line feed. -/
theorem head?_lines {line : List Char} (hline : '\n' ∉ line) (rest : List Char) :
    ((line ++ rest).splitOn '\n').head? = some (line ++ rest.takeWhile (· != '\n')) := by
  induction rest using lines_induction with
  | single rest hrest =>
      have hwhole : '\n' ∉ line ++ rest := by simp [hline, hrest]
      have hrun : (rest ++ []).takeWhile (· != '\n') = rest :=
        takeWhile_of_ends (forall_bne_of_not_mem hrest) rfl
      rw [List.append_nil] at hrun
      rw [List.splitOn_eq_singleton hwhole, hrun]
      rfl
  | cons first rest hfirst ih =>
      have hwhole : '\n' ∉ line ++ first := by simp [hline, hfirst]
      rw [← List.append_assoc, List.splitOn_append_cons_self_of_not_mem hwhole,
        takeWhile_of_ends (forall_bne_of_not_mem hfirst) (by simp)]
      rfl

/-! ## The line at the end -/

/-- `line` is what `text` has behind its last line feed, or all of it if there is none. -/
inductive IsLastLine : (text line : List Char) → Prop where
  | only {line : List Char} (h : '\n' ∉ line) : IsLastLine line line
  | behind (above : List Char) {line : List Char} (h : '\n' ∉ line) :
      IsLastLine (above ++ '\n' :: line) line

theorem exists_isLastLine (text : List Char) : ∃ line, IsLastLine text line := by
  induction text using lines_induction with
  | single line hline => exact ⟨line, .only hline⟩
  | cons first text hfirst ih =>
      obtain ⟨line, hline⟩ := ih
      refine ⟨line, ?_⟩
      cases hline with
      | only h => exact .behind first h
      | behind above h =>
          have hlast := IsLastLine.behind (first ++ '\n' :: above) h
          rwa [List.append_assoc, List.cons_append] at hlast

/-- On one line the column counts characters. -/
theorem Position.column_after {line : List Char} (h : '\n' ∉ line) (p : Position) :
    (p.after line).column = p.column + line.length := by
  induction line generalizing p with
  | nil => rfl
  | cons c line ih =>
      rw [List.mem_cons, not_or] at h
      have hnext : (p.next c).column = p.column + 1 := by
        rw [Position.next, if_neg (Ne.symm h.1)]
      rw [Position.after_cons, ih h.2, hnext, List.length_cons]
      omega

namespace IsLastLine

variable {text line : List Char}

/-- The column behind a text counts the characters behind its last line feed. -/
theorem column_after (h : IsLastLine text line) :
    (Position.start.after text).column = line.length + 1 := by
  cases h with
  | only h =>
      rw [Position.column_after h]
      exact Nat.add_comm _ _
  | behind above h =>
      rw [List.append_cons, Position.after_append, Position.column_after h,
        Position.after_append_newline]
      exact Nat.add_comm _ _

/-- The line at the end of a text goes on with what follows, up to the next line feed. -/
theorem getElem?_lines (h : IsLastLine text line) (rest : List Char) :
    ((text ++ rest).splitOn '\n')[text.count '\n']? =
      some (line ++ rest.takeWhile (· != '\n')) := by
  cases h with
  | only h => rw [List.count_eq_zero.2 h, ← List.head?_eq_getElem?, head?_lines h]
  | behind above h =>
      have hcount : (above ++ '\n' :: line).count '\n' = (above.splitOn '\n').length := by
        rw [length_lines, List.count_append, List.count_cons_self, List.count_eq_zero.2 h]
      rw [hcount, List.append_assoc, List.cons_append, List.splitOn_append_cons_self,
        List.getElem?_append_right (Nat.le_refl _), Nat.sub_self, ← List.head?_eq_getElem?,
        head?_lines h]

end IsLastLine

/-! ## Carriage returns at the end of a line -/

/-- `kept` is `line` without the carriage returns at its end, however many they are. -/
structure IsTrimmed (line kept : List Char) : Prop where
  returns : ∃ count, line = kept ++ List.replicate count '\r'
  getLast?_ne : kept.getLast? ≠ some '\r'

theorem isTrimmed_trimReturns (line : List Char) : IsTrimmed line (trimReturns line) where
  returns := by
    refine ⟨(line.reverse.takeWhile (· == '\r')).length, ?_⟩
    have hreturns : line.reverse.takeWhile (· == '\r') =
        List.replicate (line.reverse.takeWhile (· == '\r')).length '\r' :=
      List.eq_replicate_of_mem fun c hc => by
        simpa using forall_mem_takeWhile (· == '\r') line.reverse c hc
    rw [← List.reverse_replicate, ← hreturns, trimReturns, ← List.reverse_append,
      List.takeWhile_append_dropWhile, List.reverse_reverse]
  getLast?_ne := by
    intro hlast
    have hstop := any_head?_dropWhile (· == '\r') line.reverse
    rw [trimReturns, List.getLast?_reverse] at hlast
    simp [hlast] at hstop

/-- The carriage returns at the end are cut off, and nothing else. -/
theorem trimReturns_eq_iff {line kept : List Char} :
    trimReturns line = kept ↔ IsTrimmed line kept := by
  constructor
  · rintro rfl
    exact isTrimmed_trimReturns line
  · rintro ⟨⟨count, rfl⟩, hlast⟩
    have hreturns : ∀ c ∈ List.replicate count '\r', (c == '\r') = true := by
      intro c hc
      simp [List.eq_of_mem_replicate hc]
    have hstop : kept.reverse.head?.any (· == '\r') = false := by
      rw [List.head?_reverse]
      cases hkept : kept.getLast? with
      | none => rfl
      | some c =>
          rw [hkept] at hlast
          simpa using hlast
    rw [trimReturns, List.reverse_append, List.reverse_replicate,
      dropWhile_of_ends hreturns hstop, List.reverse_reverse]

/-- The carriage returns at the end stand behind everything that ends in none. -/
theorem trimReturns_append {front : List Char} (h : front.getLast? ≠ some '\r')
    (rest : List Char) : trimReturns (front ++ rest) = front ++ trimReturns rest := by
  obtain ⟨⟨count, hrest⟩, hlast⟩ := isTrimmed_trimReturns rest
  refine trimReturns_eq_iff.2 ⟨⟨count, ?_⟩, ?_⟩
  · rw [List.append_assoc, ← hrest]
  · rw [List.getLast?_append]
    cases hend : (trimReturns rest).getLast? with
    | none => exact h
    | some c => rwa [hend] at hlast

/-- The same of a front with its last character. -/
theorem trimReturns_append_cons {c : Char} (h : c ≠ '\r') (line rest : List Char) :
    trimReturns (line ++ c :: rest) = line ++ c :: trimReturns rest := by
  have hfront : (line ++ [c]).getLast? ≠ some '\r' := by simpa using h
  rw [List.append_cons, trimReturns_append hfront, ← List.append_cons]

/-- What ends in no carriage return is left as it is. -/
theorem isTrimmed_self {line : List Char} (h : line.getLast? ≠ some '\r') : IsTrimmed line line :=
  ⟨⟨0, (List.append_nil line).symm⟩, h⟩

theorem IsTrimmed.eq {line kept other : List Char} (h : IsTrimmed line kept)
    (hother : IsTrimmed line other) : kept = other :=
  (trimReturns_eq_iff.2 h).symm.trans (trimReturns_eq_iff.2 hother)

/-- A line is as long as what is left of it just if it ends in no carriage return. -/
theorem IsTrimmed.length_eq_iff {line kept : List Char} (h : IsTrimmed line kept) :
    line.length = kept.length ↔ line.getLast? ≠ some '\r' := by
  constructor
  · intro hlength
    obtain ⟨⟨count, rfl⟩, hlast⟩ := h
    obtain rfl : count = 0 := by simpa using hlength
    rwa [List.replicate_zero, List.append_nil]
  · intro hlast
    rw [h.eq (isTrimmed_self hlast)]

/-- In front of carriage returns that are cut off, everything is left. -/
theorem IsTrimmed.behind {line kept : List Char} (h : IsTrimmed line kept) (hne : kept ≠ [])
    (before : List Char) : IsTrimmed (before ++ line) (before ++ kept) := by
  obtain ⟨⟨count, rfl⟩, hlast⟩ := h
  refine ⟨⟨count, (List.append_assoc _ _ _).symm⟩, ?_⟩
  rwa [List.getLast?_append, Option.or_of_isSome (List.getLast?_isSome.2 hne)]

theorem mem_of_mem_trimReturns {c : Char} {line : List Char} (h : c ∈ trimReturns line) :
    c ∈ line := by
  rw [trimReturns, List.mem_reverse] at h
  have hmem := (List.dropWhile_suffix _).subset h
  rwa [List.mem_reverse] at hmem

/-! ## Lines by byte offsets -/

theorem lineStartsAfter_of_not_mem {line : List Char} (h : '\n' ∉ line) (offset : Nat) :
    lineStartsAfter offset line = [] := by
  induction line generalizing offset with
  | nil => rfl
  | cons c line ih =>
      rw [List.mem_cons, not_or] at h
      rw [lineStartsAfter]
      simp only [if_neg (Ne.symm h.1)]
      exact ih h.2 _

/-- The next line begins behind the line feed, which is one byte. -/
theorem lineStartsAfter_append {line : List Char} (h : '\n' ∉ line) (offset : Nat)
    (text : List Char) :
    lineStartsAfter offset (line ++ '\n' :: text) =
      (offset + byteSize (line ++ ['\n'])) ::
        lineStartsAfter (offset + byteSize (line ++ ['\n'])) text := by
  induction line generalizing offset with
  | nil => rfl
  | cons c line ih =>
      rw [List.mem_cons, not_or] at h
      rw [List.cons_append, lineStartsAfter]
      simp only [if_neg (Ne.symm h.1)]
      rw [ih h.2, List.cons_append, byteSize_cons, Nat.add_assoc]

/-- What the offsets `starts` cut out of `text` as the line number `index`, counted from zero: up
to the byte before the next offset, or up to the end. -/
def cutLine (text : List Char) (starts : List Nat) (index : Nat) : Option (List Char) :=
  starts[index]?.bind fun first =>
    slice? text first (match starts[index + 1]? with
      | some next => next - 1
      | none => byteSize text)

/-- The offsets of the lines behind `before` cut these lines out of the whole text. -/
theorem cutLine_eq (before text : List Char) (index : Nat) :
    cutLine (before ++ text) (byteSize before :: lineStartsAfter (byteSize before) text) index =
      (text.splitOn '\n')[index]? := by
  induction text using lines_induction generalizing before index with
  | single line hline =>
      rw [lineStartsAfter_of_not_mem hline, List.splitOn_eq_singleton hline]
      cases index with
      | zero =>
          have hslice := slice?_append before line []
          rw [List.append_nil] at hslice
          simpa [cutLine] using hslice
      | succ index => simp [cutLine]
  | cons line text hline ih =>
      have hnext : byteSize before + byteSize (line ++ ['\n']) =
          byteSize (before ++ (line ++ ['\n'])) := (byteSize_append _ _).symm
      rw [lineStartsAfter_append hline, List.splitOn_append_cons_self_of_not_mem hline, hnext]
      cases index with
      | zero =>
          have hlast : byteSize (before ++ (line ++ ['\n'])) - 1 =
              byteSize before + byteSize line := by
            rw [← hnext, byteSize_append]
            show byteSize before + (byteSize line + 1) - 1 = _
            omega
          show slice? _ (byteSize before) (byteSize (before ++ (line ++ ['\n'])) - 1) = _
          rw [hlast]
          exact slice?_append before line ('\n' :: text)
      | succ index =>
          rw [List.getElem?_cons_succ, ← ih (before ++ (line ++ ['\n'])) index]
          simp [cutLine]

namespace SourceFile

/-- A source file cuts out the lines of its text, less the carriage returns at their ends. -/
theorem line?_ofText (name text : String) (index : Nat) :
    (ofText name text).line? (index + 1) =
      (text.toList.splitOn '\n')[index]?.map fun line => String.ofList (trimReturns line) := by
  have hcut := cutLine_eq [] text.toList index
  rw [List.nil_append, byteSize_nil, cutLine] at hcut
  have hguard : (guard (1 ≤ index + 1) : Option Unit) = some () :=
    if_pos (Nat.le_add_left 1 index)
  rw [← hcut, line?, ofText, hguard]
  simp only [Nat.add_one_sub_one, List.getElem?_toArray]
  show (_[index]?).bind _ = _
  rw [Option.map_bind]
  congr 1
  funext first
  exact Option.map_eq_bind.symm

/-- The line that is shown for a position: what stands before the position on its line and what
follows there, less the carriage returns at the end. -/
theorem line?_after {before rest line : List Char} (name : String) {text : String}
    (htext : text.toList = before ++ rest) (hline : IsLastLine before line) :
    (ofText name text).line? (Position.start.after before).line =
      some (String.ofList (trimReturns (line ++ rest.takeWhile (· != '\n')))) := by
  have hnumber : (Position.start.after before).line = before.count '\n' + 1 := by
    rw [Position.line_after]
    exact Nat.add_comm _ _
  rw [hnumber, line?_ofText, htext, hline.getElem?_lines]
  rfl

/-- What is shown is a line of the text, less the carriage returns at its end. -/
theorem map_trimReturns_of_line? {name text line : String} {number : Nat}
    (h : (ofText name text).line? number = some line) :
    ((text.toList.splitOn '\n')[number - 1]?).map trimReturns = some line.toList := by
  cases number with
  | zero => cases h
  | succ index =>
      rw [line?_ofText, Option.map_eq_some_iff] at h
      obtain ⟨whole, hwhole, rfl⟩ := h
      rw [Nat.add_one_sub_one, hwhole, String.toList_ofList]
      rfl

/-- No line that is shown has a line feed in it. -/
theorem newline_not_mem_of_line? {name text line : String} {number : Nat}
    (h : (ofText name text).line? number = some line) : '\n' ∉ line.toList := by
  obtain ⟨whole, hwhole, hline⟩ := Option.map_eq_some_iff.1 (map_trimReturns_of_line? h)
  rw [← hline]
  intro hmem
  exact newline_not_mem_of_mem_lines (List.mem_of_getElem? hwhole) (mem_of_mem_trimReturns hmem)

end SourceFile

end Lexis
