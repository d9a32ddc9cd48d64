import Lexis.Proofs.Decimal.Binary64
import Mathlib.Algebra.Order.Field.Rat
import Mathlib.Algebra.Order.Ring.Abs
import Mathlib.Data.Nat.Cast.Order.Field
import Mathlib.Tactic.Linarith
import Mathlib.Tactic.Positivity

/-!
# The nearest number

`Binary64.IsNearest` is what rounding to the binary64 format is meant to be, apart from how it is
computed: no number of the format is nearer, and of two nearest it is the one with the even
significand.

* `isNearest_of_within` and `IsNearest.within` say that this is a bound of half a gap on each side.
* `IsNearest.eq` says that there is only one such number.
* `IsNearest.limit_le_iff` is the exact value from which on it is out of range.
-/

namespace Lexis

/-! ## The nearer of two -/

section Nearer

variable {r a b : ℚ}

theorem abs_sub_le_iff_of_lt (h : a < b) : |r - a| ≤ |r - b| ↔ r ≤ (a + b) / 2 := by
  rcases abs_cases (r - a) with ⟨ha, _⟩ | ⟨ha, _⟩ <;>
    rcases abs_cases (r - b) with ⟨hb, _⟩ | ⟨hb, _⟩ <;>
    rw [ha, hb] <;> constructor <;> intro <;> linarith

theorem abs_sub_le_iff_of_gt (h : b < a) : |r - a| ≤ |r - b| ↔ (a + b) / 2 ≤ r := by
  rcases abs_cases (r - a) with ⟨ha, _⟩ | ⟨ha, _⟩ <;>
    rcases abs_cases (r - b) with ⟨hb, _⟩ | ⟨hb, _⟩ <;>
    rw [ha, hb] <;> constructor <;> intro <;> linarith

theorem abs_sub_eq_iff (h : a ≠ b) : |r - b| = |r - a| ↔ r = (a + b) / 2 := by
  rcases lt_or_gt_of_ne h with hlt | hgt
  · rw [le_antisymm_iff, le_antisymm_iff, abs_sub_le_iff_of_gt hlt, abs_sub_le_iff_of_lt hlt,
      add_comm b, and_comm]
  · rw [le_antisymm_iff, le_antisymm_iff, abs_sub_le_iff_of_lt hgt, abs_sub_le_iff_of_gt hgt,
      add_comm b]

end Nearer

namespace Binary64

/-! ## The nearest number -/

/-- How far a number is from `q`, in units. -/
def distance (x : Binary64) (q : ℚ) : ℚ :=
  |q * 2 ^ 1074 - x.units|

/-- No number of the format is nearer to `q`, and of two nearest it is the even one. -/
structure IsNearest (q : ℚ) (x : Binary64) : Prop where
  inFormat : x.InFormat
  nearest : ∀ y : Binary64, y.InFormat → x.distance q ≤ y.distance q
  even : ∀ y : Binary64, y.InFormat → y ≠ x → y.distance q = x.distance q →
    x.significand % 2 = 0

/-- `r`, in units, lies within half a gap of the number on either side, and at the ends only if the
number is even. -/
structure Within (r : ℚ) (x : Binary64) : Prop where
  lower : (x.units : ℚ) - x.gapBelow / 2 ≤ r
  upper : r ≤ x.units + x.gap / 2
  even : r = x.units - x.gapBelow / 2 ∨ r = x.units + x.gap / 2 → x.significand % 2 = 0

section Nearest

variable {q : ℚ} {x y : Binary64}

theorem gapBelow_pos (x : Binary64) : 0 < x.gapBelow := by
  unfold gapBelow
  split
  · exact Nat.two_pow_pos _
  · exact x.gap_pos

/-- Another number of the format is a gap away, on one side or the other. -/
theorem InFormat.apart (hx : x.InFormat) (hy : y.InFormat) (hne : y ≠ x) :
    (y.units : ℚ) + x.gapBelow ≤ x.units ∨ (x.units : ℚ) + x.gap ≤ y.units := by
  have hunits : y.units ≠ x.units := fun h => hne (congrArg Binary64.mk h)
  rcases Nat.lt_or_gt_of_ne hunits with hless | hmore
  · left
    exact_mod_cast hx.add_gapBelow_le hy hless
  · right
    exact_mod_cast hx.add_gap_le hy hmore

/-- What lies within half a gap on either side rounds to the number. -/
theorem isNearest_of_within (hx : x.InFormat) (h : Within (q * 2 ^ 1074) x) : IsNearest q x := by
  obtain ⟨hlower, hupper, heven⟩ := h
  have hbelow : (0 : ℚ) < x.gapBelow := by exact_mod_cast x.gapBelow_pos
  have habove : (0 : ℚ) < x.gap := by exact_mod_cast x.gap_pos
  refine ⟨hx, ?_, ?_⟩
  · intro y hy
    by_cases hne : y = x
    · rw [hne]
    simp only [distance]
    generalize q * 2 ^ 1074 = r at *
    rcases hx.apart hy hne with hapart | hapart
    · rw [abs_sub_le_iff_of_gt (by linarith)]
      linarith
    · rw [abs_sub_le_iff_of_lt (by linarith)]
      linarith
  · intro y hy hne htie
    simp only [distance] at htie
    generalize q * 2 ^ 1074 = r at *
    rcases hx.apart hy hne with hapart | hapart
    · have hunits : (x.units : ℚ) ≠ y.units := by linarith
      rw [abs_sub_eq_iff hunits] at htie
      exact heven (.inl (by linarith))
    · have hunits : (x.units : ℚ) ≠ y.units := by linarith
      rw [abs_sub_eq_iff hunits] at htie
      exact heven (.inr (by linarith))

namespace IsNearest

theorem le_midpoint (h : IsNearest q x) (hy : y.InFormat) (hlt : (x.units : ℚ) < y.units) :
    q * 2 ^ 1074 ≤ (x.units + y.units) / 2 :=
  (abs_sub_le_iff_of_lt hlt).1 (h.nearest y hy)

theorem midpoint_le (h : IsNearest q x) (hy : y.InFormat) (hlt : (y.units : ℚ) < x.units) :
    (x.units + y.units) / 2 ≤ q * 2 ^ 1074 :=
  (abs_sub_le_iff_of_gt hlt).1 (h.nearest y hy)

theorem even_of_midpoint (h : IsNearest q x) (hy : y.InFormat) (hne : (x.units : ℚ) ≠ y.units)
    (hmidpoint : q * 2 ^ 1074 = (x.units + y.units) / 2) : x.significand % 2 = 0 := by
  refine h.even y hy ?_ ((abs_sub_eq_iff hne).2 hmidpoint)
  rintro rfl
  exact hne rfl

/-- What rounds to a number lies within half a gap on either side. -/
theorem within (h : IsNearest q x) (hq : 0 ≤ q) : Within (q * 2 ^ 1074) x := by
  have hr : 0 ≤ q * 2 ^ 1074 := mul_nonneg hq (by positivity)
  have habove : (0 : ℚ) < x.gap := by exact_mod_cast x.gap_pos
  have hbelow : (0 : ℚ) < x.gapBelow := by exact_mod_cast x.gapBelow_pos
  have hnext : ((x.units + x.gap : Nat) : ℚ) = x.units + x.gap := Nat.cast_add _ _
  have hupper := h.le_midpoint h.inFormat.next
  have hupperEven := h.even_of_midpoint h.inFormat.next
  simp only [hnext] at hupper hupperEven
  rcases Nat.eq_zero_or_pos x.units with hzero | hpos
  · have hunits : (x.units : ℚ) = 0 := by exact_mod_cast hzero
    generalize q * 2 ^ 1074 = r at *
    have hle := hupper (by linarith)
    refine ⟨by linarith, by linarith, ?_⟩
    rintro (htie | htie)
    · linarith
    · exact hupperEven (by linarith) (by linarith)
  · have hprevious : ((x.units - x.gapBelow : Nat) : ℚ) = x.units - x.gapBelow :=
      Nat.cast_sub (h.inFormat.gapBelow_le hpos)
    have hlower := h.midpoint_le h.inFormat.previous
    have hlowerEven := h.even_of_midpoint h.inFormat.previous
    simp only [hprevious] at hlower hlowerEven
    generalize q * 2 ^ 1074 = r at *
    have hle := hupper (by linarith)
    have hge := hlower (by linarith)
    refine ⟨by linarith, by linarith, ?_⟩
    rintro (htie | htie)
    · exact hlowerEven (by linarith) (by linarith)
    · exact hupperEven (by linarith) (by linarith)

/-- Two numbers that are nearest are not neighbours, since both would be even. -/
theorem not_lt (hx : IsNearest q x) (hy : IsNearest q y) : ¬ x.units < y.units := by
  intro hlt
  have hne : y ≠ x := by
    rintro rfl
    exact lt_irrefl _ hlt
  have htie : y.distance q = x.distance q :=
    le_antisymm (hy.nearest x hx.inFormat) (hx.nearest y hy.inFormat)
  have hxeven := hx.even y hy.inFormat hne htie
  have hyeven := hy.even x hx.inFormat hne.symm htie.symm
  -- The number behind `x` is odd, so that it is not `y` and lies between the two.
  have hodd := hx.inFormat.significand_next hxeven
  have hbetween : x.units + x.gap < y.units := by
    refine lt_of_le_of_ne (hx.inFormat.add_gap_le hy.inFormat hlt) ?_
    intro heq
    rw [heq] at hodd
    have : y.significand = x.significand + 1 := hodd
    omega
  have hless : (x.units : ℚ) < (x.units + x.gap : Nat) := by
    exact_mod_cast Nat.lt_add_of_pos_right x.gap_pos
  have hmore : ((x.units + x.gap : Nat) : ℚ) < y.units := by exact_mod_cast hbetween
  have hupper := hx.le_midpoint hx.inFormat.next hless
  have hlower := hy.midpoint_le hx.inFormat.next hmore
  generalize q * 2 ^ 1074 = r at *
  linarith

/-- There is only one nearest number. -/
theorem eq (hx : IsNearest q x) (hy : IsNearest q y) : x = y := by
  have hunits : x.units = y.units :=
    le_antisymm (Nat.le_of_not_lt (hy.not_lt hx)) (Nat.le_of_not_lt (hx.not_lt hy))
  exact congrArg Binary64.mk hunits

end IsNearest

end Nearest

/-! ## Out of range -/

section Range

variable {q : ℚ} {x y : Binary64}

/-- The greatest number of the format below a power of two. -/
def beforePower (exponent : Nat) : Binary64 :=
  ⟨(2 ^ 53 - 1) * 2 ^ (exponent + 1)⟩

theorem inFormat_beforePower (exponent : Nat) : (beforePower exponent).InFormat :=
  inFormat_of_le (by decide) _

theorem odd_beforePower (exponent : Nat) : (beforePower exponent).significand % 2 = 1 := by
  rw [beforePower, significand_mk (by decide) (fun _ => by decide)]
  rfl

theorem gap_beforePower (exponent : Nat) : (beforePower exponent).gap = 2 ^ (exponent + 1) := by
  rw [beforePower, gap, exponent_mk (by decide) (fun _ => by decide)]

theorem beforePower_add_gap (exponent : Nat) :
    (beforePower exponent).units + (beforePower exponent).gap = 2 ^ (exponent + 54) := by
  have hpower : 2 ^ (exponent + 54) = 2 ^ 53 * 2 ^ (exponent + 1) := by
    rw [← Nat.pow_add, Nat.add_comm 53, Nat.add_assoc]
  rw [gap_beforePower, beforePower, hpower]
  dsimp only
  omega

theorem inFormat_two_pow (exponent : Nat) : InFormat ⟨2 ^ (exponent + 54)⟩ := by
  have hformat := (inFormat_beforePower exponent).next
  rwa [beforePower_add_gap] at hformat

/-- A power of two or more is what rounds to it from halfway to the number before, which is odd. -/
theorem IsNearest.two_pow_le_iff (h : IsNearest q x) (exponent : Nat) :
    2 ^ (exponent + 54) ≤ x.units ↔ 2 ^ (exponent + 54) - 2 ^ exponent ≤ q * 2 ^ 1074 := by
  have hunits : ((beforePower exponent).units : ℚ) + 2 * 2 ^ exponent = 2 ^ (exponent + 54) := by
    rw [← pow_succ']
    exact_mod_cast gap_beforePower exponent ▸ beforePower_add_gap exponent
  have hcast : ((2 ^ (exponent + 54) : Nat) : ℚ) = 2 ^ (exponent + 54) := by push_cast; rfl
  have hpos : (0 : ℚ) < 2 ^ exponent := by positivity
  constructor
  · intro hle
    have hle' : (2 : ℚ) ^ (exponent + 54) ≤ x.units := by exact_mod_cast hle
    have hnearest := h.midpoint_le (inFormat_beforePower exponent) (by linarith)
    generalize q * 2 ^ 1074 = r at *
    linarith
  · intro hle
    by_contra hless
    have hbefore : x.units ≤ (beforePower exponent).units := by
      by_contra hmore
      have hgap := (inFormat_beforePower exponent).add_gap_le h.inFormat (Nat.lt_of_not_le hmore)
      rw [beforePower_add_gap] at hgap
      exact hless hgap
    have hbefore' : (x.units : ℚ) ≤ (beforePower exponent).units := by exact_mod_cast hbefore
    have hlt : (x.units : ℚ) < (2 ^ (exponent + 54) : Nat) := by linarith
    have hnearest := h.le_midpoint (inFormat_two_pow exponent) hlt
    have heven := h.even_of_midpoint (inFormat_two_pow exponent) hlt.ne
    simp only [hcast] at hnearest heven
    generalize q * 2 ^ 1074 = r at *
    -- So it is the one before the power, and the power is as near.
    have hsame : x = beforePower exponent := by
      have hge : ((beforePower exponent).units : ℚ) ≤ x.units := by linarith
      exact congrArg Binary64.mk (le_antisymm hbefore (by exact_mod_cast hge))
    have hsignificand := heven (by linarith)
    rw [hsame, odd_beforePower] at hsignificand
    cases hsignificand

/-- From here on, a number rounds to nothing that is in range. -/
theorem IsNearest.limit_le_iff (h : IsNearest q x) :
    limit ≤ x.units ↔ 2 ^ 1024 - 2 ^ 970 ≤ q := by
  have hunit : (0 : ℚ) < 2 ^ 1074 := by positivity
  have hscale : (2 : ℚ) ^ 1024 - 2 ^ 970 ≤ q ↔
      ((2 : ℚ) ^ 1024 - 2 ^ 970) * 2 ^ 1074 ≤ q * 2 ^ 1074 :=
    (mul_le_mul_iff_left₀ hunit).symm
  -- The powers are far too great to be computed, so that the exponents stay variables.
  obtain ⟨exponent, hexponent⟩ : ∃ exponent : Nat, exponent = 2044 := ⟨2044, rfl⟩
  have hhigh : 1024 + 1074 = exponent + 54 := by omega
  have hlow : 970 + 1074 = exponent := by omega
  have htop : 2098 = exponent + 54 := by omega
  have hlimit : limit = 2 ^ (exponent + 54) := by
    unfold limit
    rw [htop]
    rfl
  rw [hlimit, h.two_pow_le_iff exponent, hscale, sub_mul, ← pow_add, ← pow_add, hhigh, hlow]

end Range

end Binary64

end Lexis
