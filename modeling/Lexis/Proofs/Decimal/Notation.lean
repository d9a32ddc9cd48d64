import Lexis.Decimal.Notation
import Lexis.Proofs.Character.Classes
import Lexis.Proofs.Text.Runs

/-!
# The shape of the text of a float

Whatever number a float denotes, its canonical text is digits, a point, and digits again:
`isFloatText_of_canonicalFloat?`.  This rests on `positional` alone and not on how the
number is rounded.  A text of this shape is parsed: `parseDecimal?_point`.
-/

namespace Lexis

/-- Digits, at least one. -/
structure IsDigits (text : List Char) : Prop where
  ne_nil : text ≠ []
  isDigit : ∀ c ∈ text, isDigit c = true

theorem isDigits_of_all {text : List Char} (hne : text ≠ []) (h : text.all isDigit = true) :
    IsDigits text :=
  ⟨hne, List.all_eq_true.1 h⟩

/-- Digits, a point, and digits. -/
inductive IsFloatText : List Char → Prop where
  | point {whole fraction : List Char} (hwhole : IsDigits whole) (hfraction : IsDigits fraction) :
      IsFloatText (whole ++ '.' :: fraction)

/-- Digits around a point are parsed as what they are. -/
theorem parseDecimal?_point {whole fraction : List Char} (hwhole : ∀ c ∈ whole, isDigit c = true)
    (hfraction : IsDigits fraction) :
    parseDecimal? (whole ++ '.' :: fraction) = some (whole, fraction) := by
  have hpoint : ('.' :: fraction).head?.any isDigit = false := rfl
  have hparsed : fraction.all isDigit = true ∧ ¬ (whole = [] ∧ fraction = []) :=
    ⟨List.all_eq_true.2 hfraction.isDigit, fun hempty => hfraction.ne_nil hempty.2⟩
  rw [parseDecimal?]
  simp only [takeWhile_of_ends hwhole hpoint, dropWhile_of_ends hwhole hpoint, if_pos hparsed]

/-- A number in decimal is digits. -/
theorem isDigits_toDigits (n : Nat) : IsDigits (Nat.toDigits 10 n) where
  ne_nil := Nat.toDigits_ne_nil
  isDigit _ hc := isDigitIn_of_mem_toDigits (by decide) (by decide) hc

/-- So are the zeros that are put in front of it. -/
theorem isDigit_of_mem_padded {count n : Nat} {c : Char}
    (h : c ∈ List.replicate count '0' ++ Nat.toDigits 10 n) : isDigit c = true := by
  rcases List.mem_append.1 h with hzero | hdigit
  · rw [List.eq_of_mem_replicate hzero]
    rfl
  · exact (isDigits_toDigits n).isDigit c hdigit

theorem mem_of_mem_trimZeros {digits : List Char} {c : Char} (h : c ∈ trimZeros digits) :
    c ∈ digits := by
  induction digits with
  | nil => exact h
  | cons first digits ih =>
      rw [trimZeros] at h
      split at h
      · split at h
        · cases h
        · rw [List.mem_singleton.1 h]
          exact List.mem_cons_self
      · next second kept htrim =>
          rcases List.mem_cons.1 h with rfl | h
          · exact List.mem_cons_self
          · exact List.mem_cons_of_mem _ (ih (htrim ▸ h))

/-- Zeros are put in front of the digits behind the point, and taken away at the end. -/
theorem isDigits_fraction {digits : List Char} (h : ∀ c ∈ digits, isDigit c = true) :
    IsDigits (if trimZeros digits = [] then ['0'] else trimZeros digits) := by
  split
  · exact ⟨List.cons_ne_nil _ _, List.forall_mem_singleton.2 rfl⟩
  · next hne => exact ⟨hne, fun c hc => h c (mem_of_mem_trimZeros hc)⟩

theorem isFloatText_positional (multiple : Nat) : IsFloatText (positional multiple) := by
  refine .point (isDigits_toDigits _) (isDigits_fraction ?_)
  intro c hc
  exact isDigit_of_mem_padded hc

theorem isFloatText_of_canonicalFloat? {whole fraction text : List Char}
    (h : canonicalFloat? whole fraction = some text) : IsFloatText text := by
  rw [canonicalFloat?, Option.map_eq_some_iff] at h
  obtain ⟨x, _, rfl⟩ := h
  exact isFloatText_positional _

end Lexis
