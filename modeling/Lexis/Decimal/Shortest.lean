import Lexis.Decimal.Binary64

/-!
# The fewest decimal digits that read back

Around a binary64 number lies the interval of the fractions that round to it.  Its shortest decimal
is found by testing, on ever finer decimal grids, the two grid points next to the number: on the
first grid where one of them lies in the interval, the nearer of those that do is taken, and the
upper one if both are equally near.

All quantities are counted in multiples of 10⁻¹⁰⁷⁵, of which the numbers of the format and the
halfway points between them are whole multiples.
-/

namespace Lexis

/-- Half of 2⁻¹⁰⁷⁴ in multiples of 10⁻¹⁰⁷⁵. -/
def halfUnit : Nat := Nat.pow 5 1075

/-- A number and the interval of the fractions that round to it. -/
structure Neighbourhood where
  /-- The number itself. -/
  value : Nat
  /-- Halfway to the next smaller number. -/
  low : Nat
  /-- Halfway to the next greater number. -/
  high : Nat
  /-- Whether the two ends round to the number as well. -/
  closed : Bool

namespace Neighbourhood

/-- The neighbourhood of a binary64 number.  At the bottom of a binade the gap below is half as wide
as the gap above. -/
def ofBinary64 (x : Binary64) : Neighbourhood :=
  let value := x.units * 2 * halfUnit
  let above := Nat.pow 2 x.exponent * halfUnit
  let below := if x.exponent > 0 ∧ x.significand = Nat.pow 2 52 then above / 2 else above
  ⟨value, value - below, value + above, x.significand % 2 == 0⟩

/-- Whether `point` rounds to the number. -/
def contains (around : Neighbourhood) (point : Nat) : Bool :=
  if around.closed then around.low ≤ point && point ≤ around.high
  else around.low < point && point < around.high

/-- The multiple of `step` next to the number that rounds to it, if there is one.  Of two, it is the
nearer one, and the upper one at a tie. -/
def onGrid? (around : Neighbourhood) (step : Nat) : Option Nat :=
  let lower := around.value / step * step
  let upper := lower + step
  match around.contains lower, around.contains upper with
  | true, true => some (if around.value - lower < upper - around.value then lower else upper)
  | true, false => some lower
  | false, true => some upper
  | false, false => none

/-- The shortest decimal of the number among the multiples of `10 ^ places` and finer ones. -/
def shortestFrom (around : Neighbourhood) : Nat → Nat
  | 0 => around.value
  | places + 1 =>
      match around.onGrid? (Nat.pow 10 (places + 1)) with
      | some point => point
      | none => shortestFrom around places

end Neighbourhood

/-- One less than the number of decimal digits of `n`. -/
def decimalOrder (n : Nat) : Nat :=
  if n < 10 then 0 else decimalOrder (n / 10) + 1

/-- The shortest decimal that rounds to `x`, in multiples of 10⁻¹⁰⁷⁵.  The search begins with
decimals of a single digit. -/
def shortestDecimal (x : Binary64) : Nat :=
  let around := Neighbourhood.ofBinary64 x
  around.shortestFrom (decimalOrder around.value)

end Lexis
