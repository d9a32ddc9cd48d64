import Lexis.Decimal.Shortest
import Lexis.Proofs.Decimal.Rounding

/-!
# The shortest decimal reads back

The interval around a number that `Neighbourhood.ofBinary64` describes is that of the fractions that
round to it: `contains_iff_isNearest`.  So the search for the shortest decimal is followed on the
interval alone.

* `onGrid?_eq_some` and `onGrid?_eq_none` say what is found on one grid.
* `isShortest_shortestFrom` says what the search over all grids finds: a point that reads back, on
  the coarsest grid that has one, and of those on this grid the nearest.
* `isShortest_shortestDecimal` and `isNearest_shortestDecimal` are the results for a number.
-/

namespace Lexis

namespace Neighbourhood

/-! ## Searching the grids -/

section Search

variable {around : Neighbourhood} {step point : Nat}

/-- How far a point is from the number. -/
def distance (around : Neighbourhood) (point : Nat) : Nat :=
  (around.value - point) + (point - around.value)

/-- What lies between two points of the interval is in it. -/
theorem contains_of_between {low high : Nat} (hlow : around.contains low = true)
    (hhigh : around.contains high = true) (hle : low ≤ point) (hge : point ≤ high) :
    around.contains point = true := by
  cases hclosed : around.closed with
  | true =>
      simp only [contains, hclosed, if_true, Bool.and_eq_true, decide_eq_true_eq] at *
      omega
  | false =>
      simp only [contains, hclosed, Bool.false_eq_true, if_false, Bool.and_eq_true,
        decide_eq_true_eq] at *
      omega

/-- Another multiple is not between a number and the multiples next to it. -/
theorem le_or_ge_of_dvd {other : Nat} (value : Nat) (h : step ∣ other) :
    other ≤ value / step * step ∨ value / step * step + step ≤ other := by
  obtain ⟨count, rfl⟩ := h
  have hcases : count ≤ value / step ∨ value / step + 1 ≤ count := by omega
  rcases hcases with hle | hge
  · left
    rw [Nat.mul_comm]
    exact Nat.mul_le_mul_right step hle
  · right
    rw [← Nat.succ_mul, Nat.mul_comm step]
    exact Nat.mul_le_mul_right step hge

/-- The number is between the two multiples next to it. -/
theorem between_multiples (value : Nat) (hstep : 0 < step) :
    value / step * step ≤ value ∧ value < value / step * step + step := by
  have hsplit := Nat.div_add_mod value step
  have hlt := Nat.mod_lt value hstep
  rw [Nat.mul_comm] at hsplit
  omega

/-- What is found on a grid is in the interval, and nothing on the grid that is in it is nearer. -/
theorem onGrid?_eq_some (hstep : 0 < step) (h : around.onGrid? step = some point) :
    around.contains point = true ∧ step ∣ point ∧
      ∀ other, step ∣ other → around.contains other = true →
        around.distance point ≤ around.distance other := by
  have hbetween := between_multiples around.value hstep
  have hothers := fun other => @le_or_ge_of_dvd step other around.value
  have hlower : step ∣ around.value / step * step := Nat.dvd_mul_left _ _
  unfold onGrid? at h
  generalize around.value / step * step = lower at *
  have hupper : step ∣ lower + step := Nat.dvd_add hlower (Nat.dvd_refl step)
  simp only at h
  split at h
  · next hlow hhigh =>
      obtain rfl := Option.some.inj h
      split
      · next hnearer =>
          refine ⟨hlow, hlower, fun other hother _ => ?_⟩
          unfold distance
          have := hothers other hother
          omega
      · next hnearer =>
          refine ⟨hhigh, hupper, fun other hother _ => ?_⟩
          unfold distance
          have := hothers other hother
          omega
  · next hlow hhigh =>
      obtain rfl := Option.some.inj h
      refine ⟨hlow, hlower, fun other hother hin => ?_⟩
      rcases hothers other hother with hle | hge
      · unfold distance
        omega
      · have := contains_of_between hlow hin (Nat.le_add_right _ _) hge
        simp [hhigh] at this
  · next hlow hhigh =>
      obtain rfl := Option.some.inj h
      refine ⟨hhigh, hupper, fun other hother hin => ?_⟩
      rcases hothers other hother with hle | hge
      · have := contains_of_between hin hhigh hle (Nat.le_add_right _ _)
        simp [hlow] at this
      · unfold distance
        omega
  · cases h

/-- If nothing is found on a grid, nothing on it is in the interval. -/
theorem onGrid?_eq_none (hstep : 0 < step) (hvalue : around.contains around.value = true)
    (h : around.onGrid? step = none) {other : Nat} (hother : step ∣ other) :
    around.contains other = false := by
  have hbetween := between_multiples around.value hstep
  have hothers := le_or_ge_of_dvd around.value hother
  rw [Bool.eq_false_iff]
  intro hin
  unfold onGrid? at h
  generalize around.value / step * step = lower at *
  simp only at h
  split at h
  · cases h
  · cases h
  · cases h
  · next hlow hhigh =>
      rcases hothers with hle | hge
      · have := contains_of_between hin hvalue hle hbetween.1
        simp [hlow] at this
      · have := contains_of_between hvalue hin (Nat.le_of_lt hbetween.2) hge
        simp [hhigh] at this

/-- The point is in the interval, and on the coarsest of the grids, from the multiples of
`10 ^ places` on, that has such a point; and none on this grid is nearer to the number. -/
structure IsShortest (around : Neighbourhood) (places point : Nat) : Prop where
  contains : around.contains point = true
  coarsest : ∃ grid ≤ places, 10 ^ grid ∣ point ∧
    (∀ other, 10 ^ grid ∣ other → around.contains other = true →
      around.distance point ≤ around.distance other) ∧
    ∀ coarser, grid < coarser → coarser ≤ places →
      ∀ other, 10 ^ coarser ∣ other → around.contains other = false

theorem isShortest_shortestFrom (hvalue : around.contains around.value = true) (places : Nat) :
    around.IsShortest places (around.shortestFrom places) := by
  induction places with
  | zero =>
      refine ⟨hvalue, 0, Nat.le_refl 0, Nat.one_dvd _, ?_, ?_⟩
      · intro other _ _
        simp [shortestFrom, distance]
      · intro coarser hgrid hle
        omega
  | succ places ih =>
      have hstep : 0 < Nat.pow 10 (places + 1) := Nat.pow_pos (by decide)
      rw [shortestFrom]
      split
      · next point hpoint =>
          obtain ⟨hin, hdvd, hnearest⟩ := onGrid?_eq_some hstep hpoint
          refine ⟨hin, places + 1, Nat.le_refl _, hdvd, hnearest, ?_⟩
          intro coarser hgrid hle
          omega
      · next hnone =>
          obtain ⟨hin, grid, hgrid, hdvd, hnearest, hcoarser⟩ := ih
          refine ⟨hin, grid, Nat.le_succ_of_le hgrid, hdvd, hnearest, ?_⟩
          intro coarser hlt hle other hother
          rcases Nat.lt_or_eq_of_le hle with hless | rfl
          · exact hcoarser coarser hlt (Nat.le_of_lt_succ hless) other hother
          · exact onGrid?_eq_none hstep hvalue hnone hother

end Search

/-! ## The interval of a number -/

section Interval

open Binary64

variable {x : Binary64} {point : Nat}

theorem halfUnit_pos : 0 < halfUnit := by
  unfold halfUnit
  generalize 1075 = exponent
  exact Nat.pow_pos (by decide)

/-- The multiples that points are counted in are those of half a unit. -/
theorem ten_pow_eq : (10 : ℚ) ^ 1075 = 2 ^ 1074 * (2 * halfUnit) := by
  obtain ⟨exponent, hexponent⟩ : ∃ exponent : Nat, exponent = 1074 := ⟨1074, rfl⟩
  have hsucc : 1075 = exponent + 1 := by omega
  have hhalf : (halfUnit : ℚ) = 5 ^ (exponent + 1) := by
    unfold halfUnit
    rw [hsucc]
    exact Nat.cast_pow 5 (exponent + 1)
  rw [hhalf, hsucc, ← hexponent, ← mul_assoc, ← pow_succ, ← mul_pow]
  norm_num

theorem high_ofBinary64 (x : Binary64) :
    (ofBinary64 x).high = x.units * 2 * halfUnit + x.gap * halfUnit := rfl

theorem low_ofBinary64 (x : Binary64) :
    (ofBinary64 x).low = x.units * 2 * halfUnit - x.gapBelow * halfUnit := by
  simp only [ofBinary64, gapBelow, gap, Nat.pow_eq]
  split
  · next hbottom =>
      obtain ⟨exponent, hexponent⟩ : ∃ exponent, x.exponent = exponent + 1 :=
        ⟨x.exponent - 1, by omega⟩
      have hhalf : 2 ^ (exponent + 1) * halfUnit = 2 ^ exponent * halfUnit * 2 := by
        rw [Nat.pow_succ, Nat.mul_right_comm]
      rw [hexponent, hhalf, Nat.mul_div_cancel _ (by decide), Nat.add_sub_cancel]
  · rfl

theorem closed_ofBinary64 (x : Binary64) :
    (ofBinary64 x).closed = true ↔ x.significand % 2 = 0 :=
  beq_iff_eq

/-- The gap below an odd number is not wider than the number. -/
theorem gapBelow_le_of_odd (hx : x.InFormat) (hodd : x.significand % 2 ≠ 0) :
    x.gapBelow * halfUnit ≤ x.units * 2 * halfUnit := by
  have hpos : 0 < x.units := by
    refine Nat.pos_of_ne_zero fun hzero => hodd ?_
    rw [significand, hzero, Nat.zero_div]
  have hle := hx.gapBelow_le hpos
  exact Nat.mul_le_mul_right _ (by omega)

/-- Half a gap on either side, in the multiples that points are counted in. -/
theorem within_iff :
    Within (point / (2 * halfUnit)) x ↔
      x.units * 2 * halfUnit ≤ point + x.gapBelow * halfUnit ∧
        point ≤ x.units * 2 * halfUnit + x.gap * halfUnit ∧
        (x.units * 2 * halfUnit = point + x.gapBelow * halfUnit ∨
          point = x.units * 2 * halfUnit + x.gap * halfUnit → x.significand % 2 = 0) := by
  have hhalf : (0 : ℚ) < 2 * halfUnit := by
    have : (0 : ℚ) < halfUnit := by exact_mod_cast halfUnit_pos
    linarith
  have hlower : (x.units : ℚ) - x.gapBelow / 2 ≤ point / (2 * halfUnit) ↔
      x.units * 2 * halfUnit ≤ point + x.gapBelow * halfUnit := by
    rw [le_div_iff₀ hhalf, ← @Nat.cast_le ℚ]
    push_cast
    constructor <;> intro <;> linarith
  have hupper : (point : ℚ) / (2 * halfUnit) ≤ x.units + x.gap / 2 ↔
      point ≤ x.units * 2 * halfUnit + x.gap * halfUnit := by
    rw [div_le_iff₀ hhalf, ← @Nat.cast_le ℚ]
    push_cast
    constructor <;> intro <;> linarith
  have hlowerEnd : (point : ℚ) / (2 * halfUnit) = x.units - x.gapBelow / 2 ↔
      x.units * 2 * halfUnit = point + x.gapBelow * halfUnit := by
    rw [div_eq_iff hhalf.ne', ← @Nat.cast_inj ℚ]
    push_cast
    constructor <;> intro <;> linarith
  have hupperEnd : (point : ℚ) / (2 * halfUnit) = x.units + x.gap / 2 ↔
      point = x.units * 2 * halfUnit + x.gap * halfUnit := by
    rw [div_eq_iff hhalf.ne', ← @Nat.cast_inj ℚ]
    push_cast
    constructor <;> intro <;> linarith
  rw [← hlower, ← hupper, ← hlowerEnd, ← hupperEnd]
  constructor
  · intro h
    exact ⟨h.lower, h.upper, h.even⟩
  · rintro ⟨hlow, hhigh, heven⟩
    exact ⟨hlow, hhigh, heven⟩

/-- A point is in the interval just if it is within half a gap. -/
theorem contains_iff_within (hx : x.InFormat) :
    (ofBinary64 x).contains point = true ↔ Within (point / (2 * halfUnit)) x := by
  have hclosed := closed_ofBinary64 x
  rw [within_iff]
  cases hends : (ofBinary64 x).closed with
  | true =>
      have heven := hclosed.1 hends
      rw [contains, if_pos hends, Bool.and_eq_true, decide_eq_true_eq, decide_eq_true_eq,
        low_ofBinary64, high_ofBinary64]
      omega
  | false =>
      have hodd : x.significand % 2 ≠ 0 := by
        intro heven
        simp [hclosed.2 heven] at hends
      have hbelow := gapBelow_le_of_odd hx hodd
      rw [contains, if_neg (by simp [hends]), Bool.and_eq_true, decide_eq_true_eq,
        decide_eq_true_eq, low_ofBinary64, high_ofBinary64]
      omega

/-- A point is in the interval just if it rounds to the number. -/
theorem contains_iff_isNearest (hx : x.InFormat) :
    (ofBinary64 x).contains point = true ↔ IsNearest (point / 10 ^ 1075) x := by
  have hscale : (point : ℚ) / 10 ^ 1075 * 2 ^ 1074 = point / (2 * halfUnit) := by
    have hunit : (2 : ℚ) ^ 1074 ≠ 0 := by positivity
    rw [ten_pow_eq, div_mul_eq_mul_div, mul_comm (point : ℚ), mul_div_mul_left _ _ hunit]
  rw [contains_iff_within hx, ← hscale]
  constructor
  · intro h
    exact isNearest_of_within hx h
  · intro h
    exact h.within (by positivity)

/-- The number itself is in the interval. -/
theorem contains_value (hx : x.InFormat) :
    (ofBinary64 x).contains (ofBinary64 x).value = true := by
  have hhalf : (halfUnit : ℚ) ≠ 0 := by exact_mod_cast halfUnit_pos.ne'
  have hvalue : ((ofBinary64 x).value : ℚ) / (2 * halfUnit) = x.units := by
    simp only [ofBinary64]
    push_cast
    field_simp
  have habove : (0 : ℚ) < x.gap := by exact_mod_cast x.gap_pos
  have hbelow : (0 : ℚ) < x.gapBelow := by exact_mod_cast x.gapBelow_pos
  rw [contains_iff_within hx, hvalue]
  refine ⟨by linarith, by linarith, ?_⟩
  rintro (htie | htie)
  · linarith
  · linarith

end Interval

end Neighbourhood

/-- The decimal of a number is the shortest. -/
theorem isShortest_shortestDecimal {x : Binary64} (hx : x.InFormat) :
    (Neighbourhood.ofBinary64 x).IsShortest (decimalOrder (Neighbourhood.ofBinary64 x).value)
      (shortestDecimal x) :=
  Neighbourhood.isShortest_shortestFrom (Neighbourhood.contains_value hx) _

/-- The decimal of a number rounds to it. -/
theorem isNearest_shortestDecimal {x : Binary64} (hx : x.InFormat) :
    Binary64.IsNearest (shortestDecimal x / 10 ^ 1075) x :=
  (Neighbourhood.contains_iff_isNearest hx).1 (isShortest_shortestDecimal hx).contains

end Lexis
