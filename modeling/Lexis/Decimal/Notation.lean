import Lexis.Character.Digit
import Lexis.Decimal.Shortest

/-!
# Positional notation

The text of a float: the digits before the point, the point, and at least one digit behind it, with
no exponent and no zeros that say nothing.  What is parsed is wider than what is written.
-/

namespace Lexis

/-- The digits before and behind the point of a number that is written as digits, perhaps with a
point before, among or behind them.  No other text is parsed: what has a sign or an exponent, or
names what is not finite, is never taken for a float. -/
def parseDecimal? (text : List Char) : Option (List Char × List Char) :=
  let whole := text.takeWhile isDigit
  match text.dropWhile isDigit with
  | [] => if whole = [] then none else some (whole, [])
  | '.' :: fraction =>
      if fraction.all isDigit ∧ ¬ (whole = [] ∧ fraction = []) then some (whole, fraction)
      else none
  | _ => none

/-- A run of digits without the zeros at its end. -/
def trimZeros : List Char → List Char
  | [] => []
  | c :: digits =>
      match trimZeros digits with
      | [] => if c = '0' then [] else [c]
      | d :: kept => c :: d :: kept

/-- The positional notation of a multiple of 10⁻¹⁰⁷⁵. -/
def positional (multiple : Nat) : List Char :=
  let whole := Nat.toDigits 10 (multiple / Nat.pow 10 1075)
  let digits := Nat.toDigits 10 (multiple % Nat.pow 10 1075)
  let fraction := trimZeros (List.replicate (1075 - digits.length) '0' ++ digits)
  whole ++ '.' :: (if fraction = [] then ['0'] else fraction)

/-- The text of a float literal with the given digits before and behind the point: the shortest
decimal that denotes the same binary64 number.  There is none if that number is out of range. -/
def canonicalFloat? (whole fraction : List Char) : Option (List Char) :=
  (Binary64.ofFraction? (numeralValue 10 (whole ++ fraction)) (Nat.pow 10 fraction.length)).map
    fun x => positional (shortestDecimal x)

end Lexis
