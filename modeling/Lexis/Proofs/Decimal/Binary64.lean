import Lexis.Decimal.Binary64
import Mathlib.Algebra.Ring.Nat

/-!
# The numbers of the binary64 format

`Binary64.InFormat` says which counts of units are numbers of the format: those of at most 53 binary
digits, and zeros behind.  Such a number is its significand times the gap to the next greater one.

* `InFormat.dvd_or_lt` is the fact that the gaps rest on: a number of the format that is no multiple
  of a gap is below all numbers that have this gap.
* `InFormat.add_gap_le` and `InFormat.add_gapBelow_le` keep other numbers of the format at their
  distance.
-/

namespace Lexis

namespace Binary64

/-- The numbers of the format, as if there were no greatest. -/
def InFormat (x : Binary64) : Prop :=
  ∃ digits zeros, digits < 2 ^ 53 ∧ x.units = digits * 2 ^ zeros

/-- The gap to the next greater number. -/
def gap (x : Binary64) : Nat :=
  2 ^ x.exponent

/-- The gap to the next smaller number.  At the bottom of a binade it is half the other. -/
def gapBelow (x : Binary64) : Nat :=
  if x.exponent > 0 ∧ x.significand = 2 ^ 52 then 2 ^ (x.exponent - 1) else x.gap

/-! ## Gaps and binary digits -/

theorem lt_two_pow_gapExponent (units : Nat) : units < 2 ^ (gapExponent units + 53) := by
  have hlog : units < 2 ^ (units.log2 + 1) := Nat.lt_log2_self
  refine Nat.lt_of_lt_of_le hlog (Nat.pow_le_pow_right (by decide) ?_)
  rw [gapExponent]
  omega

theorem two_pow_gapExponent_le {units : Nat} (h : 0 < gapExponent units) :
    2 ^ (gapExponent units + 52) ≤ units := by
  rw [gapExponent] at h ⊢
  have hne : units ≠ 0 := by
    rintro rfl
    simp at h
  rw [Nat.sub_add_cancel (by omega)]
  exact Nat.log2_self_le hne

/-- The gap around a number is read off its binary digits. -/
theorem gapExponent_mul {digits zeros : Nat} (hdigits : digits < 2 ^ 53)
    (hnormal : 0 < zeros → 2 ^ 52 ≤ digits) : gapExponent (digits * 2 ^ zeros) = zeros := by
  rw [gapExponent]
  rcases Nat.eq_zero_or_pos zeros with rfl | hzeros
  · rw [Nat.pow_zero, Nat.mul_one, Nat.sub_eq_zero_iff_le]
    by_cases hzero : digits = 0
    · simp [hzero]
    · exact Nat.le_of_lt_succ ((Nat.log2_lt hzero).2 hdigits)
  · have hne : digits ≠ 0 := by
      have := hnormal hzeros
      omega
    have hproduct : digits * 2 ^ zeros ≠ 0 :=
      Nat.mul_ne_zero hne (Nat.ne_of_gt (Nat.two_pow_pos zeros))
    have hlower : 52 + zeros ≤ (digits * 2 ^ zeros).log2 := by
      rw [Nat.le_log2 hproduct, Nat.pow_add]
      exact Nat.mul_le_mul_right _ (hnormal hzeros)
    have hupper : (digits * 2 ^ zeros).log2 < 53 + zeros := by
      rw [Nat.log2_lt hproduct, Nat.pow_add]
      exact Nat.mul_lt_mul_of_pos_right hdigits (Nat.two_pow_pos zeros)
    omega

/-! ## Significand and gap -/

variable {x y : Binary64}

theorem significand_lt (x : Binary64) : x.significand < 2 ^ 53 := by
  have hunits := lt_two_pow_gapExponent x.units
  rw [Nat.pow_add] at hunits
  exact Nat.div_lt_of_lt_mul hunits

/-- A number with zeros behind its significand has all digits. -/
theorem le_significand (h : 0 < x.exponent) : 2 ^ 52 ≤ x.significand := by
  have hunits := two_pow_gapExponent_le h
  rw [Nat.add_comm, Nat.pow_add] at hunits
  exact (Nat.le_div_iff_mul_le (Nat.two_pow_pos _)).2 hunits

/-- A number of the format is a multiple of a gap, or below the numbers that have it. -/
theorem InFormat.dvd_or_lt (h : y.InFormat) (exponent : Nat) :
    2 ^ exponent ∣ y.units ∨ y.units < 2 ^ (exponent + 52) := by
  obtain ⟨digits, zeros, hdigits, hunits⟩ := h
  rw [hunits]
  rcases Nat.lt_or_ge zeros exponent with hless | hmore
  · right
    calc digits * 2 ^ zeros < 2 ^ 53 * 2 ^ zeros :=
          Nat.mul_lt_mul_of_pos_right hdigits (Nat.two_pow_pos zeros)
      _ = 2 ^ (53 + zeros) := (Nat.pow_add 2 53 zeros).symm
      _ ≤ 2 ^ (exponent + 52) := Nat.pow_le_pow_right (by decide) (by omega)
  · left
    exact Nat.dvd_mul_left_of_dvd (Nat.pow_dvd_pow 2 hmore) digits

/-- A number of the format is a multiple of its gap. -/
theorem InFormat.gap_dvd (h : x.InFormat) : x.gap ∣ x.units := by
  rcases h.dvd_or_lt x.exponent with hdvd | hlt
  · exact hdvd
  · rcases Nat.eq_zero_or_pos x.exponent with hzero | hpos
    · simp [gap, hzero]
    · exact absurd (two_pow_gapExponent_le hpos) (Nat.not_le.2 hlt)

theorem InFormat.units_eq (h : x.InFormat) : x.units = x.significand * x.gap :=
  (Nat.div_mul_cancel h.gap_dvd).symm

theorem inFormat_of_le {digits : Nat} (h : digits ≤ 2 ^ 53) (zeros : Nat) :
    InFormat ⟨digits * 2 ^ zeros⟩ := by
  rcases Nat.lt_or_eq_of_le h with hlt | rfl
  · exact ⟨digits, zeros, hlt, rfl⟩
  · refine ⟨2 ^ 52, zeros + 1, by decide, ?_⟩
    simp only [Nat.pow_succ]
    omega

theorem exponent_mk {digits zeros : Nat} (hdigits : digits < 2 ^ 53)
    (hnormal : 0 < zeros → 2 ^ 52 ≤ digits) : exponent ⟨digits * 2 ^ zeros⟩ = zeros :=
  gapExponent_mul hdigits hnormal

/-- The significand of a number is read off its binary digits. -/
theorem significand_mk {digits zeros : Nat} (hdigits : digits < 2 ^ 53)
    (hnormal : 0 < zeros → 2 ^ 52 ≤ digits) :
    significand ⟨digits * 2 ^ zeros⟩ = digits := by
  simp only [significand, exponent, Nat.pow_eq]
  rw [gapExponent_mul hdigits hnormal, Nat.mul_div_cancel _ (Nat.two_pow_pos zeros)]

/-! ## Neighbours -/

/-- Two multiples lie apart. -/
theorem add_le_of_dvd {step a b : Nat} (ha : step ∣ a) (hb : step ∣ b) (h : a < b) :
    a + step ≤ b := by
  have hdvd : step ∣ b - a := Nat.dvd_sub hb ha
  have hle := Nat.le_of_dvd (by omega) hdvd
  omega

theorem gap_pos (x : Binary64) : 0 < x.gap :=
  Nat.two_pow_pos _

theorem InFormat.units_add_gap (h : x.InFormat) :
    x.units + x.gap = (x.significand + 1) * 2 ^ x.exponent := by
  conv => lhs; lhs; rw [h.units_eq]
  rw [Nat.add_mul, Nat.one_mul, gap]

/-- The next greater number. -/
theorem InFormat.next (h : x.InFormat) : InFormat ⟨x.units + x.gap⟩ := by
  rw [h.units_add_gap]
  exact inFormat_of_le (significand_lt x) x.exponent

/-- Behind an even significand comes the next odd one. -/
theorem InFormat.significand_next (h : x.InFormat) (heven : x.significand % 2 = 0) :
    significand ⟨x.units + x.gap⟩ = x.significand + 1 := by
  have hlt := significand_lt x
  rw [h.units_add_gap]
  refine significand_mk (by omega) ?_
  intro hpos
  have := le_significand hpos
  omega

theorem InFormat.add_gap_le (hx : x.InFormat) (hy : y.InFormat) (h : x.units < y.units) :
    x.units + x.gap ≤ y.units := by
  refine add_le_of_dvd hx.gap_dvd ?_ h
  rcases hy.dvd_or_lt x.exponent with hdvd | hlt
  · exact hdvd
  · rcases Nat.eq_zero_or_pos x.exponent with hzero | hpos
    · simp [gap, hzero]
    · exact absurd (two_pow_gapExponent_le hpos) (by simp only [exponent] at hlt; omega)

/-- Unless it is the least that has its gap, a number lies a whole gap above all smaller ones. -/
theorem InFormat.add_gap_le_of_gt (hx : x.InFormat) (hy : y.InFormat) (h : y.units < x.units)
    (hsignificand : 0 < x.exponent → x.significand ≠ 2 ^ 52) : y.units + x.gap ≤ x.units := by
  rcases hy.dvd_or_lt x.exponent with hdvd | hlt
  · exact add_le_of_dvd hdvd hx.gap_dvd h
  · rcases Nat.eq_zero_or_pos x.exponent with hzero | hpos
    · have hgap : x.gap = 1 := by rw [gap, hzero, Nat.pow_zero]
      rw [hgap]
      exact h
    · have hless : 2 ^ 52 + 1 ≤ x.significand :=
        Nat.lt_of_le_of_ne (le_significand hpos) (hsignificand hpos).symm
      calc y.units + x.gap ≤ 2 ^ (x.exponent + 52) + x.gap :=
          Nat.add_le_add_right (Nat.le_of_lt hlt) _
        _ = (2 ^ 52 + 1) * x.gap := by rw [Nat.pow_add, gap, Nat.add_mul, Nat.mul_comm, Nat.one_mul]
        _ ≤ x.significand * x.gap := Nat.mul_le_mul_right _ hless
        _ = x.units := hx.units_eq.symm

/-- The bottom of a binade in multiples of the gap below. -/
theorem InFormat.units_eq_of_bottom (h : x.InFormat) (hpos : 0 < x.exponent)
    (hsignificand : x.significand = 2 ^ 52) : x.units = 2 ^ 53 * 2 ^ (x.exponent - 1) := by
  have hsucc : x.exponent = x.exponent - 1 + 1 := by omega
  rw [h.units_eq, hsignificand, gap, hsucc, Nat.pow_succ, Nat.add_sub_cancel]
  omega

theorem InFormat.add_gapBelow_le (hx : x.InFormat) (hy : y.InFormat) (h : y.units < x.units) :
    y.units + x.gapBelow ≤ x.units := by
  unfold gapBelow
  split
  · next hbottom =>
      have hunits := hx.units_eq_of_bottom hbottom.1 hbottom.2
      generalize x.exponent - 1 = exponent at *
      -- Below the bottom, the smaller numbers are multiples of half the gap.
      rcases hy.dvd_or_lt exponent with hdvd | hlt
      · exact add_le_of_dvd hdvd (hunits ▸ Nat.dvd_mul_left _ _) h
      · have hstep : 2 ^ (exponent + 52) = 2 ^ 52 * 2 ^ exponent := by
          rw [Nat.add_comm, Nat.pow_add]
        omega
  · next hbottom =>
      refine hx.add_gap_le_of_gt hy h ?_
      intro hpos hsignificand
      exact hbottom ⟨hpos, hsignificand⟩

theorem inFormat_zero : InFormat ⟨0⟩ :=
  ⟨0, 0, by decide, rfl⟩

theorem InFormat.gapBelow_le (h : x.InFormat) (hpos : 0 < x.units) : x.gapBelow ≤ x.units := by
  have hzero := h.add_gapBelow_le inFormat_zero hpos
  rwa [Nat.zero_add] at hzero

/-- The next smaller number. -/
theorem InFormat.previous (h : x.InFormat) : InFormat ⟨x.units - x.gapBelow⟩ := by
  unfold gapBelow
  split
  · next hbottom =>
      rw [h.units_eq_of_bottom hbottom.1 hbottom.2]
      have hprevious := @inFormat_of_le (2 ^ 53 - 1) (by decide) (x.exponent - 1)
      rwa [Nat.sub_mul, Nat.one_mul] at hprevious
  · have hunits : x.units - x.gap = (x.significand - 1) * 2 ^ x.exponent := by
      conv => lhs; lhs; rw [h.units_eq]
      rw [Nat.sub_mul, Nat.one_mul, gap]
    have hlt := significand_lt x
    rw [hunits]
    exact inFormat_of_le (by omega) x.exponent

end Binary64

end Lexis
