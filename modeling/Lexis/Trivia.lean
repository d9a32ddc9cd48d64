import Lexis.Character.WhiteSpace

/-!
# Trivia

The text between lexemes that means nothing: white space, comments from `//` to the end of the line
and comments from `/*` to `*/`.  Comments do not nest, and anything may stand in them.

A block comment that is never closed is no trivia: skipping stops in front of it.
-/

namespace Lexis

namespace Trivia

/-- The body of a block comment through the closing `*/`, and the text behind it.  The scan begins
behind the opening `/*`. -/
def blockBody? : List Char → Option (List Char × List Char)
  | [] => none
  | '*' :: '/' :: text => some (['*', '/'], text)
  | c :: text => (blockBody? text).map fun (body, behind) => (c :: body, behind)

/-- The piece of trivia at the head of a text, and the text behind it. -/
def piece? : List Char → Option (List Char × List Char)
  | [] => none
  | '/' :: '/' :: text =>
      some ('/' :: '/' :: text.takeWhile (· != '\n'), text.dropWhile (· != '\n'))
  | '/' :: '*' :: text =>
      (blockBody? text).map fun (body, behind) => ('/' :: '*' :: body, behind)
  | c :: text => if isWhiteSpace c then some ([c], text) else none

theorem blockBody?_append {text body behind : List Char}
    (h : blockBody? text = some (body, behind)) : body ++ behind = text := by
  fun_induction blockBody? text generalizing body with
  | case1 => simp at h
  | case2 text =>
      simp at h
      obtain ⟨rfl, rfl⟩ := h
      rfl
  | case3 c text _ ih =>
      simp only [Option.map_eq_some_iff, Prod.exists, Prod.mk.injEq] at h
      obtain ⟨body', _, hbody, rfl, rfl⟩ := h
      rw [List.cons_append, ih hbody]

theorem piece?_append {text piece behind : List Char} (h : piece? text = some (piece, behind)) :
    piece ++ behind = text := by
  unfold piece? at h
  split at h
  · simp at h
  · simp at h
    obtain ⟨rfl, rfl⟩ := h
    simp
  · simp only [Option.map_eq_some_iff, Prod.exists, Prod.mk.injEq] at h
    obtain ⟨body, _, hbody, rfl, rfl⟩ := h
    simp [blockBody?_append hbody]
  · split at h
    · simp at h
      obtain ⟨rfl, rfl⟩ := h
      rfl
    · simp at h

theorem piece?_ne_nil {text piece behind : List Char} (h : piece? text = some (piece, behind)) :
    piece ≠ [] := by
  rintro rfl
  unfold piece? at h
  split at h
  · simp at h
  · simp at h
  · simp [Option.map_eq_some_iff] at h
  · split at h <;> simp at h

theorem piece?_length_lt {text piece behind : List Char}
    (h : piece? text = some (piece, behind)) : behind.length < text.length := by
  have hlength := congrArg List.length (piece?_append h)
  have hpos := List.length_pos_iff.2 (piece?_ne_nil h)
  simp at hlength
  omega

/-- All trivia at the head of a text, and the text behind it. -/
def skip (text : List Char) : List Char × List Char :=
  match _h : piece? text with
  | some (piece, behind) =>
      let (more, behind) := skip behind
      (piece ++ more, behind)
  | none => ([], text)
termination_by text.length
decreasing_by exact piece?_length_lt _h

/-- Skipping loses nothing. -/
theorem skip_append (text : List Char) : (skip text).1 ++ (skip text).2 = text := by
  fun_induction skip text with
  | case1 text piece behind h more behind' hskip ih =>
      rw [hskip] at ih
      simp only at ih ⊢
      rw [List.append_assoc, ih, piece?_append h]
  | case2 text h => rfl

/-- Behind all trivia, no further piece of trivia begins. -/
theorem piece?_skip (text : List Char) : piece? (skip text).2 = none := by
  fun_induction skip text with
  | case1 text piece behind h more behind' hskip ih =>
      rw [hskip] at ih
      exact ih
  | case2 text h => exact h

end Trivia

end Lexis
