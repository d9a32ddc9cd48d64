/-!
# Binary floating-point numbers of 64 bits

The finite non-negative numbers of the binary64 format, and the rounding of fractions to them.

The least positive number of the format is 2⁻¹⁰⁷⁴, and every other is a multiple of it.  So a number
is held as that multiple, its count of *units*, and everything here is arithmetic of naturals.
Every count of at most 53 binary digits is in the format; beyond, the gap between neighbours doubles
with each further digit.
-/

namespace Lexis

/-- The fraction `num / den` rounded to an integer, a half to the even neighbour. -/
def roundEven (num den : Nat) : Nat :=
  let quotient := num / den
  let remainder := num % den
  if 2 * remainder < den then quotient
  else if den < 2 * remainder then quotient + 1
  else quotient + quotient % 2

namespace Binary64

/-- The gap between neighbours of the format around `units` is two to this power. -/
def gapExponent (units : Nat) : Nat :=
  units.log2 - 52

/-- The first number of units beyond the format; half a gap below it, numbers round to it. -/
def limit : Nat := Nat.pow 2 2098

/-- The units of the number nearest to the fraction `num / den`, itself counted in units, as if the
format had no greatest number.  Of two nearest, the one with the even significand. -/
def nearestUnits (num den : Nat) : Nat :=
  let gap := Nat.pow 2 (gapExponent (num / den))
  roundEven num (den * gap) * gap

end Binary64

/-- A finite non-negative number of the binary64 format. -/
structure Binary64 where
  /-- The multiple of 2⁻¹⁰⁷⁴ that the number is. -/
  units : Nat
deriving DecidableEq, Repr

namespace Binary64

/-- The number nearest to the fraction `num / den`, unless that is out of range. -/
def ofFraction? (num den : Nat) : Option Binary64 :=
  let units := nearestUnits (num * Nat.pow 2 1074) den
  if units < limit then some ⟨units⟩ else none

/-- The gap to the next greater number is two to this power. -/
def exponent (x : Binary64) : Nat :=
  gapExponent x.units

/-- The number in multiples of the gap. -/
def significand (x : Binary64) : Nat :=
  x.units / Nat.pow 2 x.exponent

end Binary64

end Lexis
