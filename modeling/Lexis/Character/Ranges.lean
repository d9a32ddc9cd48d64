/-!
# Sets of code points as ranges

A Unicode property is carried as a list of closed ranges in ascending order, so that a look-up can
stop at the first range that begins after the code point.  `covers` compares two lists, and so tells
whether one property is part of another.
-/

namespace Lexis

/-- Closed ranges of code points, each given by its first and last member, in ascending order. -/
abbrev CodeRanges := List (Nat × Nat)

namespace CodeRanges

/-- Whether `code` lies in one of the ranges. -/
def contains : CodeRanges → Nat → Bool
  | [], _ => false
  | (first, last) :: ranges, code =>
      if code < first then false
      else if code ≤ last then true
      else contains ranges code

/-- Whether all of `ranges` lie within the first list, each within one range of it.  Both lists are
gone through once. -/
def covers : CodeRanges → CodeRanges → Bool
  | [], ranges => ranges.isEmpty
  | (first, last) :: wider, ranges =>
      covers wider (ranges.dropWhile fun range => first ≤ range.1 && range.2 ≤ last)

/-- Whether no range is empty and each begins behind the one before it. -/
def isAscending : CodeRanges → Bool
  | [] => true
  | (first, last) :: ranges =>
      first ≤ last && (ranges.head?.all fun next => last < next.1) && isAscending ranges

/-- A code point that is found lies in one of the ranges. -/
theorem exists_range_of_contains {ranges : CodeRanges} {code : Nat}
    (h : ranges.contains code = true) : ∃ range ∈ ranges, range.1 ≤ code ∧ code ≤ range.2 := by
  induction ranges with
  | nil => simp [contains] at h
  | cons range ranges ih =>
      rw [contains] at h
      split at h
      · simp at h
      · next hfirst =>
          split at h
          · next hlast => exact ⟨range, List.mem_cons_self, by omega, hlast⟩
          · obtain ⟨other, hmem, hbounds⟩ := ih h
            exact ⟨other, List.mem_cons_of_mem _ hmem, hbounds⟩

theorem isAscending_cons {range : Nat × Nat} {ranges : CodeRanges} :
    isAscending (range :: ranges) = true ↔
      range.1 ≤ range.2 ∧ (∀ next ∈ ranges.head?, range.2 < next.1) ∧
        ranges.isAscending = true := by
  simp [isAscending, Option.all_eq_true, and_assoc]

/-- The first range of an ascending list ends before every other begins. -/
theorem lt_of_mem_of_isAscending {range other : Nat × Nat} {ranges : CodeRanges}
    (h : isAscending (range :: ranges) = true) (hmem : other ∈ ranges) : range.2 < other.1 := by
  induction ranges generalizing range with
  | nil => cases hmem
  | cons next ranges ih =>
      obtain ⟨-, hnext, hranges⟩ := isAscending_cons.1 h
      have hlt := hnext next rfl
      rcases List.mem_cons.1 hmem with rfl | hmem
      · exact hlt
      · have hle := (isAscending_cons.1 hranges).1
        have hbehind := ih hranges hmem
        omega

/-- The look-up stops early, but it misses no code point of an ascending list. -/
theorem contains_of_mem {ranges : CodeRanges} (h : ranges.isAscending = true) {range : Nat × Nat}
    {code : Nat} (hmem : range ∈ ranges) (hfirst : range.1 ≤ code) (hlast : code ≤ range.2) :
    ranges.contains code = true := by
  induction ranges with
  | nil => cases hmem
  | cons first ranges ih =>
      obtain ⟨hle, -, hranges⟩ := isAscending_cons.1 h
      rw [contains]
      rcases List.mem_cons.1 hmem with rfl | hmem
      · rw [if_neg (by omega), if_pos hlast]
      · have hlt := lt_of_mem_of_isAscending h hmem
        rw [if_neg (by omega), if_neg (by omega)]
        exact ih hranges hmem

theorem exists_range_of_covers {wider ranges : CodeRanges} (h : wider.covers ranges = true)
    {range : Nat × Nat} (hmem : range ∈ ranges) :
    ∃ wide ∈ wider, wide.1 ≤ range.1 ∧ range.2 ≤ wide.2 := by
  induction wider generalizing ranges with
  | nil =>
      rw [covers, List.isEmpty_iff] at h
      rw [h] at hmem
      cases hmem
  | cons wide wider ih =>
      rw [covers] at h
      rw [← List.takeWhile_append_dropWhile
        (p := fun range => wide.1 ≤ range.1 && range.2 ≤ wide.2) (l := ranges),
        List.mem_append] at hmem
      rcases hmem with hmem | hmem
      · have hbounds := List.all_eq_true.1 List.all_takeWhile range hmem
        rw [Bool.and_eq_true, decide_eq_true_eq, decide_eq_true_eq] at hbounds
        exact ⟨wide, List.mem_cons_self, hbounds⟩
      · obtain ⟨other, hother, hbounds⟩ := ih h hmem
        exact ⟨other, List.mem_cons_of_mem _ hother, hbounds⟩

/-- What is found in one list is found in every ascending list that covers it. -/
theorem contains_of_covers {wider ranges : CodeRanges} (hwider : wider.isAscending = true)
    (h : wider.covers ranges = true) {code : Nat} (hcode : ranges.contains code = true) :
    wider.contains code = true := by
  obtain ⟨range, hmem, hfirst, hlast⟩ := exists_range_of_contains hcode
  obtain ⟨wide, hwide, hlower, hupper⟩ := exists_range_of_covers h hmem
  exact contains_of_mem hwider hwide (by omega) (by omega)

end CodeRanges

end Lexis
