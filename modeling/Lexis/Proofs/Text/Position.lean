import Lexis.Text.Slice
import Lexis.Text.Position

/-!
# Positions behind a text

The position behind a text is the position before it, moved over the text.
`Position.line_after` and `Position.offset_after` say by how much, and
`Position.after_append_newline` says where a line feed leads.

A text that is moved to another place takes its positions along.
`Position.Moves` says of a map of positions that it describes such a move.
`Position.down` is the move by whole lines, and `Position.moves_down` says that
it is one.  `Position.placedAt` is the move of a whole text to any place of another,
by `Position.moves_placedAt`.
-/

namespace Lexis

/-! ## How far a text reaches -/

/-- The size of a text in bytes is that of the string. -/
theorem byteSize_toList (s : String) : byteSize s.toList = s.utf8ByteSize := by
  suffices hofList : ∀ text, (String.ofList text).utf8ByteSize = byteSize text by
    rw [← hofList, String.ofList_toList]
  intro text
  induction text with
  | nil => rfl
  | cons c text ih =>
      rw [← List.singleton_append, String.ofList_append, String.utf8ByteSize_append, ih,
        ← String.singleton_eq_ofList, String.utf8ByteSize_singleton, byteSize_append]
      rfl

namespace Position

/-- A text of `n` line feeds is `n` lines high. -/
theorem line_after (p : Position) (text : List Char) :
    (p.after text).line = p.line + text.count '\n' := by
  induction text generalizing p with
  | nil => rfl
  | cons c text ih =>
      rw [after_cons, ih, next]
      by_cases hc : c = '\n'
      · simp [hc]
        omega
      · simp [hc]

/-- Offsets count bytes. -/
theorem offset_after (p : Position) (text : List Char) :
    (p.after text).offset = p.offset + byteSize text := by
  induction text generalizing p with
  | nil => rfl
  | cons c text ih =>
      have hnext : (p.next c).offset = p.offset + c.utf8Size := by
        rw [next]
        split <;> rfl
      rw [after_cons, ih, hnext, byteSize_cons]
      omega

/-- Behind a line feed a line begins. -/
theorem after_append_newline (p : Position) (text : List Char) :
    p.after (text ++ ['\n']) =
      ⟨p.line + text.count '\n' + 1, 1, p.offset + byteSize text + 1⟩ := by
  rw [after_append, after_cons, after_nil, next, if_pos rfl, line_after, offset_after]
  rfl

/-! ## Ways of moving -/

/-- The position `lines` lines and `bytes` bytes further down. -/
def down (lines bytes : Nat) (p : Position) : Position :=
  ⟨p.line + lines, p.column, p.offset + bytes⟩

theorem down_next (lines bytes : Nat) (p : Position) (c : Char) :
    (p.next c).down lines bytes = (p.down lines bytes).next c := by
  by_cases hc : c = '\n'
  · simp [next, down, hc]
    omega
  · simp [next, down, hc]
    omega

/-- `move` takes the text at `p` to the place `q`: every position in the text goes
to the position of the same character there. -/
def Moves (move : Position → Position) (p q : Position) : Prop :=
  ∀ text, move (p.after text) = q.after text

theorem Moves.after {move : Position → Position} {p q : Position} (h : Moves move p q)
    (text : List Char) : Moves move (p.after text) (q.after text) := by
  intro more
  rw [← after_append, ← after_append]
  exact h (text ++ more)

/-- Moving down takes a text along, wherever it stands. -/
theorem moves_down (lines bytes : Nat) (p : Position) :
    Moves (down lines bytes) p (p.down lines bytes) := by
  intro text
  induction text generalizing p with
  | nil => rfl
  | cons c text ih => rw [after_cons, after_cons, ih, down_next]

/-! ## Moving to any place -/

/-- Lines and columns begin at one. -/
structure IsPlace (p : Position) : Prop where
  line : 1 ≤ p.line
  column : 1 ≤ p.column

theorem isPlace_start : start.IsPlace :=
  ⟨Nat.le_refl 1, Nat.le_refl 1⟩

theorem IsPlace.next {p : Position} (h : p.IsPlace) (c : Char) : (p.next c).IsPlace := by
  rw [Position.next]
  split
  · exact ⟨Nat.le_add_left 1 _, Nat.le_refl 1⟩
  · exact ⟨h.line, Nat.le_add_left 1 _⟩

theorem IsPlace.after {p : Position} (h : p.IsPlace) (text : List Char) :
    (p.after text).IsPlace := by
  induction text generalizing p with
  | nil => exact h
  | cons c text ih => exact ih (h.next c)

/-- What a position of a text becomes where the text stands at `origin`.  Only the first line of
the text goes on with the line of `origin`; the others begin lines of their own. -/
def placedAt (origin p : Position) : Position :=
  ⟨p.line + (origin.line - 1),
    if p.line = 1 then p.column + (origin.column - 1) else p.column,
    p.offset + origin.offset⟩

theorem placedAt_next (origin : Position) {p : Position} (h : p.IsPlace) (c : Char) :
    placedAt origin (p.next c) = (placedAt origin p).next c := by
  have hline := h.line
  by_cases hc : c = '\n'
  · simp only [next, hc, if_true, placedAt, mk.injEq]
    rw [if_neg (by omega)]
    omega
  · simp only [next, hc, if_false, placedAt, mk.injEq]
    refine ⟨trivial, ?_, ?_⟩
    · split
      · omega
      · rfl
    · omega

/-- A text that stands at `origin` has its positions placed there. -/
theorem moves_placedAt {origin : Position} (h : origin.IsPlace) :
    Moves (placedAt origin) start origin := by
  have hafter : ∀ (text : List Char) (p : Position), p.IsPlace →
      placedAt origin (p.after text) = (placedAt origin p).after text := by
    intro text
    induction text with
    | nil => exact fun _ _ => rfl
    | cons c text ih =>
        intro p hp
        rw [after_cons, after_cons, ih _ (hp.next c), placedAt_next origin hp]
  have horigin : placedAt origin start = origin := by
    obtain ⟨line, column, offset⟩ := origin
    have hline := h.line
    have hcolumn := h.column
    simp only [placedAt, start, if_true, mk.injEq] at hline hcolumn ⊢
    omega
  intro text
  rw [hafter text start isPlace_start, horigin]

end Position

end Lexis
