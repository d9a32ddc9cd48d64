/-!
# ASCII digits

Digits in bases up to sixteen.  Only ASCII characters are digits here: a full-width or an
Arabic-Indic digit may continue an identifier, but it never stands in a numeral or an escape.
-/

namespace Lexis

/-- The value of `c` as a hexadecimal digit of either case. -/
def hexValue? (c : Char) : Option Nat :=
  if '0' ≤ c ∧ c ≤ '9' then some (c.toNat - '0'.toNat)
  else if 'a' ≤ c ∧ c ≤ 'f' then some (c.toNat - 'a'.toNat + 10)
  else if 'A' ≤ c ∧ c ≤ 'F' then some (c.toNat - 'A'.toNat + 10)
  else none

/-- Whether `c` is a digit in the given base, at most sixteen. -/
def isDigitIn (base : Nat) (c : Char) : Bool :=
  (hexValue? c).any (· < base)

/-- Whether `c` is one of `0` to `9`. -/
def isDigit (c : Char) : Bool := isDigitIn 10 c

/-- Whether `c` is one of `0` to `9`, `a` to `f` or `A` to `F`. -/
def isHexDigit (c : Char) : Bool := isDigitIn 16 c

/-- Whether `c` is one of `0` to `7`. -/
def isOctalDigit (c : Char) : Bool := isDigitIn 8 c

/-- The number that a run of digits writes in the given base, the leading digit first. -/
def numeralValue (base : Nat) (digits : List Char) : Nat :=
  digits.foldl (fun value c => value * base + (hexValue? c).getD 0) 0

end Lexis
