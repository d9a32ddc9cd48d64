import Lexis.Proofs.Decimal.Nearest
import Mathlib.Tactic.FieldSimp
import Mathlib.Tactic.Ring

/-!
# Rounding of fractions

Fractions are rounded to the nearest number of the binary64 format, in the sense of
`Binary64.IsNearest`.

* `roundsTo_roundEven` is the rounding to a multiple of a gap, and `within_nearestUnits` what it
  comes to for the format: half a gap at most, on the side of a smaller gap as well.
* `exists_isNearest` says that `Binary64.ofFraction?` finds the nearest number, and
  `ofFraction?_eq_some_iff` and `ofFraction?_eq_none_iff` when it does.
-/

namespace Lexis

/-! ## Rounding to a multiple -/

/-- No multiple of `step` is nearer to `r` than the `m`-th, which is an even one if another is as
near. -/
structure RoundsTo (step r : ℚ) (m : Nat) : Prop where
  lower : (m : ℚ) * step - step / 2 ≤ r
  upper : r ≤ (m : ℚ) * step + step / 2
  even : r = (m : ℚ) * step - step / 2 ∨ r = (m : ℚ) * step + step / 2 → m % 2 = 0

section Multiple

variable {step part : ℚ}

theorem roundsTo_down (m : Nat) (hstep : 0 < step) (hnonneg : 0 ≤ part) (h : part < 1 / 2) :
    RoundsTo step ((m + part) * step) m := by
  have hlower : 0 ≤ part * step := mul_nonneg hnonneg hstep.le
  have hupper : part * step < 1 / 2 * step := mul_lt_mul_of_pos_right h hstep
  refine ⟨by linarith, by linarith, ?_⟩
  rintro (htie | htie) <;> linarith

theorem roundsTo_up (m : Nat) (hstep : 0 < step) (h : 1 / 2 < part) (hlt : part < 1) :
    RoundsTo step ((m + part) * step) (m + 1) := by
  have hlower : 1 / 2 * step < part * step := mul_lt_mul_of_pos_right h hstep
  have hupper : part * step < 1 * step := mul_lt_mul_of_pos_right hlt hstep
  have hcast : ((m + 1 : Nat) : ℚ) = m + 1 := Nat.cast_succ m
  refine ⟨by rw [hcast]; linarith, by rw [hcast]; linarith, ?_⟩
  rw [hcast]
  rintro (htie | htie) <;> linarith

theorem roundsTo_half (m : Nat) (hstep : 0 < step) :
    RoundsTo step ((m + 1 / 2) * step) (m + m % 2) := by
  rcases Nat.mod_two_eq_zero_or_one m with heven | hodd
  · rw [heven, Nat.add_zero]
    exact ⟨by linarith, by linarith, fun _ => heven⟩
  · have hcast : ((m + 1 : Nat) : ℚ) = m + 1 := Nat.cast_succ m
    rw [hodd]
    exact ⟨by rw [hcast]; linarith, by rw [hcast]; linarith, fun _ => by omega⟩

end Multiple

theorem roundsTo_roundEven (num : Nat) {den step : Nat} (hden : 0 < den) (hstep : 0 < step) :
    RoundsTo step (num / den) (roundEven num (den * step)) := by
  have hwhole : 0 < den * step := Nat.mul_pos hden hstep
  have hsplit : (num / den : ℚ) =
      ((num / (den * step) : Nat) + (num % (den * step) : Nat) / (den * step : Nat)) * step := by
    have hnum : ((den * step : Nat) : ℚ) * (num / (den * step) : Nat) +
        (num % (den * step) : Nat) = num := by
      exact_mod_cast Nat.div_add_mod num (den * step)
    have hden' : (den : ℚ) ≠ 0 := by exact_mod_cast hden.ne'
    have hstep' : (step : ℚ) ≠ 0 := by exact_mod_cast hstep.ne'
    rw [← hnum, Nat.cast_mul]
    field_simp
  have hpos : (0 : ℚ) < step := by exact_mod_cast hstep
  rw [hsplit, roundEven]
  generalize den * step = den at *
  have hpos' : (0 : ℚ) < den := by exact_mod_cast hwhole
  have hnonneg : (0 : ℚ) ≤ (num % den : Nat) / den := by positivity
  have hlt : ((num % den : Nat) / den : ℚ) < 1 := by
    rw [div_lt_one hpos']
    exact_mod_cast Nat.mod_lt num hwhole
  have hless : 2 * (num % den) < den ↔ ((num % den : Nat) / den : ℚ) < 1 / 2 := by
    rw [div_lt_div_iff₀ hpos' two_pos, mul_comm, one_mul]
    norm_cast
  have hmore : den < 2 * (num % den) ↔ (1 / 2 : ℚ) < (num % den : Nat) / den := by
    rw [div_lt_div_iff₀ two_pos hpos', one_mul, mul_comm]
    norm_cast
  simp only [hless, hmore]
  split
  · next hpart => exact roundsTo_down _ hpos hnonneg hpart
  · next hdown =>
      split
      · next hpart => exact roundsTo_up _ hpos hpart hlt
      · next hup =>
          rw [le_antisymm (not_lt.1 hup) (not_lt.1 hdown)]
          exact roundsTo_half _ hpos

namespace Binary64

/-! ## The nearest number is computed -/

section Computed

variable {r : ℚ} {digits zeros : Nat}

/-- The nearest multiple of a gap has at most as many digits as the format, or one more and all of
them zeros. -/
theorem digits_le_of_roundsTo (h : RoundsTo (2 ^ zeros) r digits) (hlt : r < 2 ^ 53 * 2 ^ zeros) :
    digits ≤ 2 ^ 53 := by
  have hgap : (0 : ℚ) < 2 ^ zeros := by positivity
  by_contra hmore
  have hdigits : (2 ^ 53 + 1 : ℚ) ≤ digits := by exact_mod_cast Nat.lt_of_not_le hmore
  have hproduct : (2 ^ 53 + 1 : ℚ) * 2 ^ zeros ≤ digits * 2 ^ zeros :=
    mul_le_mul_of_nonneg_right hdigits hgap.le
  have hlower := h.lower
  linarith

/-- The nearest multiple of a gap has at least as many digits as the format. -/
theorem le_digits_of_roundsTo (h : RoundsTo (2 ^ zeros) r digits)
    (hle : 2 ^ 52 * 2 ^ zeros ≤ r) : 2 ^ 52 ≤ digits := by
  have hgap : (0 : ℚ) < 2 ^ zeros := by positivity
  by_contra hless
  have hdigits : (digits + 1 : ℚ) ≤ 2 ^ 52 := by exact_mod_cast Nat.lt_of_not_le hless
  have hproduct : (digits + 1 : ℚ) * 2 ^ zeros ≤ 2 ^ 52 * 2 ^ zeros :=
    mul_le_mul_of_nonneg_right hdigits hgap.le
  have hupper := h.upper
  linarith

/-- A multiple of a gap that is nearest, and that has this gap. -/
theorem within_of_lt (h : RoundsTo (2 ^ zeros) r digits) (hdigits : digits < 2 ^ 53)
    (hle : 0 < zeros → 2 ^ 52 * 2 ^ zeros ≤ r) : Within r ⟨digits * 2 ^ zeros⟩ := by
  have hnormal : 0 < zeros → 2 ^ 52 ≤ digits := fun hpos => le_digits_of_roundsTo h (hle hpos)
  have hsignificand := significand_mk hdigits hnormal
  have hexponent := exponent_mk hdigits hnormal
  have hunits : ((digits * 2 ^ zeros : Nat) : ℚ) = digits * 2 ^ zeros := by push_cast; rfl
  have hgap : (gap ⟨digits * 2 ^ zeros⟩ : ℚ) = 2 ^ zeros := by
    rw [gap, hexponent]
    push_cast
    rfl
  have hlower := h.lower
  have hupper := h.upper
  by_cases hbottom : 0 < zeros ∧ digits = 2 ^ 52
  · -- At the bottom of a binade, nothing smaller rounds up to the number with this gap.
    have hpos : (0 : ℚ) < gapBelow ⟨digits * 2 ^ zeros⟩ := by exact_mod_cast gapBelow_pos _
    have hunits_le : (digits : ℚ) * 2 ^ zeros ≤ r := by
      rw [hbottom.2]
      push_cast
      exact hle hbottom.1
    refine ⟨?_, ?_, ?_⟩
    · rw [hunits]
      linarith
    · rw [hunits, hgap]
      exact hupper
    · rw [hunits, hgap, hsignificand]
      rintro (htie | htie)
      · linarith
      · exact h.even (.inr htie)
  · have hbelow : gapBelow ⟨digits * 2 ^ zeros⟩ = gap ⟨digits * 2 ^ zeros⟩ := by
      rw [gapBelow, hsignificand, hexponent, if_neg hbottom]
    refine ⟨?_, ?_, ?_⟩
    · rw [hunits, hbelow, hgap]
      exact hlower
    · rw [hunits, hgap]
      exact hupper
    · rw [hunits, hbelow, hgap, hsignificand]
      exact h.even

/-- A multiple of a gap that is nearest, and that is the least with the next greater gap. -/
theorem within_of_eq (h : RoundsTo (2 ^ zeros) r (2 ^ 53)) (hlt : r < 2 ^ 53 * 2 ^ zeros) :
    Within r ⟨2 ^ 53 * 2 ^ zeros⟩ := by
  have hshift : 2 ^ 53 * 2 ^ zeros = 2 ^ 52 * 2 ^ (zeros + 1) := by
    rw [Nat.pow_succ 2 zeros]
    omega
  have hnormal : 0 < zeros + 1 → 2 ^ 52 ≤ 2 ^ 52 := fun _ => le_refl _
  have hsignificand := significand_mk (by decide) hnormal
  have hexponent := exponent_mk (by decide) hnormal
  have hunits : ((2 ^ 53 * 2 ^ zeros : Nat) : ℚ) = 2 ^ 53 * 2 ^ zeros := by push_cast; rfl
  have hbelow : gapBelow ⟨2 ^ 53 * 2 ^ zeros⟩ = 2 ^ zeros := by
    rw [hshift, gapBelow, hsignificand, hexponent, if_pos ⟨Nat.succ_pos _, rfl⟩,
      Nat.add_sub_cancel]
  have hlower := h.lower
  have hgap : (0 : ℚ) < gap ⟨2 ^ 53 * 2 ^ zeros⟩ := by exact_mod_cast gap_pos _
  push_cast at hlower
  refine ⟨?_, ?_, ?_⟩
  · rw [hunits, hbelow]
    push_cast
    exact hlower
  · rw [hunits]
    exact (lt_add_of_lt_of_pos hlt (half_pos hgap)).le
  · rw [hshift, hsignificand]
    intro _
    rfl

end Computed

/-- The number is in the format and within half a gap. -/
theorem within_nearestUnits (num : Nat) {den : Nat} (hden : 0 < den) :
    InFormat ⟨nearestUnits num den⟩ ∧ Within (num / den) ⟨nearestUnits num den⟩ := by
  simp only [nearestUnits, Nat.pow_eq]
  have hden' : (0 : ℚ) < den := by exact_mod_cast hden
  have hround := roundsTo_roundEven num hden (Nat.two_pow_pos (gapExponent (num / den)))
  have hlt : (num / den : ℚ) < 2 ^ 53 * 2 ^ gapExponent (num / den) := by
    have hdigits := lt_two_pow_gapExponent (num / den)
    rw [Nat.div_lt_iff_lt_mul hden, Nat.add_comm, Nat.pow_add] at hdigits
    rw [div_lt_iff₀ hden']
    exact_mod_cast hdigits
  have hle : 0 < gapExponent (num / den) →
      2 ^ 52 * 2 ^ gapExponent (num / den) ≤ (num / den : ℚ) := by
    intro hpos
    have hdigits := two_pow_gapExponent_le hpos
    rw [Nat.le_div_iff_mul_le hden, Nat.add_comm, Nat.pow_add] at hdigits
    rw [le_div_iff₀ hden']
    exact_mod_cast hdigits
  push_cast at hround
  generalize gapExponent (num / den) = zeros at *
  generalize roundEven num (den * 2 ^ zeros) = digits at *
  have hdigits := digits_le_of_roundsTo hround hlt
  refine ⟨inFormat_of_le hdigits zeros, ?_⟩
  rcases Nat.lt_or_eq_of_le hdigits with hless | rfl
  · exact within_of_lt hround hless hle
  · exact within_of_eq hround hlt

/-- The same with the fraction counted in finer units. -/
theorem within_nearestUnits_mul (num : Nat) {den : Nat} (hden : 0 < den) (exponent : Nat) :
    InFormat ⟨nearestUnits (num * Nat.pow 2 exponent) den⟩ ∧
      Within (num / den * 2 ^ exponent) ⟨nearestUnits (num * Nat.pow 2 exponent) den⟩ := by
  have hwithin := within_nearestUnits (num * 2 ^ exponent) hden
  rw [div_mul_eq_mul_div]
  push_cast at hwithin
  exact hwithin

/-- What is computed is the nearest number, unless that is out of range. -/
theorem exists_isNearest (num : Nat) {den : Nat} (hden : 0 < den) :
    ∃ x, IsNearest (num / den) x ∧
      ofFraction? num den = if x.units < limit then some x else none := by
  obtain ⟨exponent, hexponent⟩ : ∃ exponent : Nat, exponent = 1074 := ⟨1074, rfl⟩
  obtain ⟨hformat, hwithin⟩ := within_nearestUnits_mul num hden exponent
  refine ⟨⟨nearestUnits (num * Nat.pow 2 exponent) den⟩, isNearest_of_within hformat ?_, ?_⟩
  · rw [← hexponent]
    exact hwithin
  · rw [ofFraction?, ← hexponent]

/-! ## Fractions -/

section Fractions

variable {x : Binary64} {num den : Nat}

theorem ofFraction?_eq_some_iff (hden : 0 < den) :
    ofFraction? num den = some x ↔ IsNearest (num / den) x ∧ x.units < limit := by
  obtain ⟨nearest, hnearest, hresult⟩ := exists_isNearest num hden
  rw [hresult]
  constructor
  · intro h
    split at h
    · next hlt =>
        obtain rfl := Option.some.inj h
        exact ⟨hnearest, hlt⟩
    · cases h
  · rintro ⟨hx, hlt⟩
    obtain rfl := hx.eq hnearest
    exact if_pos hlt

theorem ofFraction?_eq_none_iff (hden : 0 < den) :
    ofFraction? num den = none ↔ (2 : ℚ) ^ 1024 - 2 ^ 970 ≤ num / den := by
  obtain ⟨nearest, hnearest, hresult⟩ := exists_isNearest num hden
  rw [hresult, ← hnearest.limit_le_iff, ← Nat.not_lt]
  simp

end Fractions

end Binary64

end Lexis
