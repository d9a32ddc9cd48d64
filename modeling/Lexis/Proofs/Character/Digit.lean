import Lexis.Proofs.Character.Classes
import Mathlib.Data.List.Forall2
import Mathlib.Data.Nat.Digits.Defs
import Mathlib.Tactic.Ring

/-!
# The numbers that digits write

A run of digits writes a number in positional notation, the leading digit first.  `WritesNumber`
says so apart from how the number is computed: `digitValues` lists the digits with their values, and
the number is the sum of the values by their places, which is `Nat.ofDigits`.

* `hexValue?_eq_some_iff`: the listed values are the ones that are computed.
* `numeralValue_append`: digits behind others move these by as many places.
* `numeralValue_eq_ofDigits`: so the number that is computed is the sum of the values.
* `writesNumber_iff` puts these together.
-/

namespace Lexis

/-- The digits of base sixteen, in either case, with their values. -/
def digitValues : List (Char × Nat) :=
  [('0', 0), ('1', 1), ('2', 2), ('3', 3), ('4', 4), ('5', 5), ('6', 6), ('7', 7), ('8', 8),
   ('9', 9), ('a', 10), ('b', 11), ('c', 12), ('d', 13), ('e', 14), ('f', 15), ('A', 10),
   ('B', 11), ('C', 12), ('D', 13), ('E', 14), ('F', 15)]

/-- The character is a digit of the given base and has the given value. -/
def IsDigitOf (base : Nat) (digit : Char) (value : Nat) : Prop :=
  (digit, value) ∈ digitValues ∧ value < base

instance {base : Nat} {digit : Char} {value : Nat} : Decidable (IsDigitOf base digit value) :=
  inferInstanceAs (Decidable (_ ∧ _))

/-- The digits write the number `n` in the given base: it is the sum of their values, the last times
one, the one before it times the base, and so on. -/
def WritesNumber (base : Nat) (digits : List Char) (n : Nat) : Prop :=
  ∃ values, List.Forall₂ (IsDigitOf base) digits values ∧ Nat.ofDigits base values.reverse = n

/-! ## Single digits -/

/-- What is computed for a digit is its value in the list. -/
theorem hexValue?_eq_some_iff {c : Char} {value : Nat} :
    hexValue? c = some value ↔ (c, value) ∈ digitValues := by
  constructor
  · intro h
    have hlisted : (hexDigits.all fun digit =>
        decide ((digit, (hexValue? digit).getD 0) ∈ digitValues)) = true := by
      decide +kernel
    have hdigit : isDigitIn (value + 1) c = true := isDigitIn_iff.2 ⟨value, h, by omega⟩
    have hmem := List.all_eq_true.1 hlisted c (mem_hexDigits_of_isDigitIn hdigit)
    rw [h] at hmem
    exact of_decide_eq_true hmem
  · intro h
    have hcomputed : ∀ pair ∈ digitValues, hexValue? pair.1 = some pair.2 := by decide +kernel
    exact hcomputed _ h

theorem isDigitIn_iff_exists {base : Nat} {c : Char} :
    isDigitIn base c = true ↔ ∃ value, IsDigitOf base c value := by
  simp only [isDigitIn_iff, hexValue?_eq_some_iff, IsDigitOf]

/-! ## Runs of digits -/

/-- Digits behind others move these by as many places. -/
theorem foldl_numeralValue (base value : Nat) (digits : List Char) :
    digits.foldl (fun value c => value * base + (hexValue? c).getD 0) value =
      value * base ^ digits.length + numeralValue base digits := by
  induction digits generalizing value with
  | nil => simp [numeralValue]
  | cons c digits ih =>
      have hfirst : numeralValue base (c :: digits) =
          (0 * base + (hexValue? c).getD 0) * base ^ digits.length + numeralValue base digits :=
        ih _
      rw [List.foldl_cons, ih, hfirst, List.length_cons]
      ring

theorem numeralValue_append (base : Nat) (digits more : List Char) :
    numeralValue base (digits ++ more) =
      numeralValue base digits * base ^ more.length + numeralValue base more := by
  rw [numeralValue, List.foldl_append, foldl_numeralValue]
  rfl

/-- Of digits and their values, the number that is computed is the sum of the values by their
places. -/
theorem numeralValue_eq_ofDigits {base : Nat} {digits : List Char} {values : List Nat}
    (h : List.Forall₂ (IsDigitOf base) digits values) :
    numeralValue base digits = Nat.ofDigits base values.reverse := by
  induction h with
  | nil => rfl
  | @cons digit value digits values hdigit hdigits ih =>
      have hvalue : numeralValue base [digit] = value := by
        rw [numeralValue, List.foldl_cons, List.foldl_nil, hexValue?_eq_some_iff.2 hdigit.1]
        simp
      calc
        numeralValue base (digit :: digits)
            = value * base ^ digits.length + numeralValue base digits := by
              rw [← List.singleton_append, numeralValue_append, hvalue]
        _ = Nat.ofDigits base values.reverse + base ^ values.length * value := by
              rw [ih, hdigits.length_eq]
              ring
        _ = Nat.ofDigits base (value :: values).reverse := (Nat.ofDigits_reverse_cons ..).symm

/-- There are values for digits of the base, and for nothing else. -/
theorem exists_values_iff {base : Nat} {digits : List Char} :
    (∃ values, List.Forall₂ (IsDigitOf base) digits values) ↔
      ∀ digit ∈ digits, isDigitIn base digit = true := by
  induction digits with
  | nil => simp
  | cons digit digits ih =>
      rw [List.forall_mem_cons, ← ih, isDigitIn_iff_exists]
      constructor
      · rintro ⟨_, h⟩
        cases h with
        | cons hdigit hdigits => exact ⟨⟨_, hdigit⟩, _, hdigits⟩
      · rintro ⟨⟨value, hdigit⟩, values, hdigits⟩
        exact ⟨value :: values, .cons hdigit hdigits⟩

/-- Digits write the number that is computed for them, and no other. -/
theorem writesNumber_iff {base : Nat} {digits : List Char} {n : Nat} :
    WritesNumber base digits n ↔
      (∀ digit ∈ digits, isDigitIn base digit = true) ∧ numeralValue base digits = n := by
  constructor
  · rintro ⟨values, hvalues, rfl⟩
    exact ⟨exists_values_iff.1 ⟨values, hvalues⟩, numeralValue_eq_ofDigits hvalues⟩
  · rintro ⟨hdigits, rfl⟩
    obtain ⟨values, hvalues⟩ := exists_values_iff.2 hdigits
    exact ⟨values, hvalues, (numeralValue_eq_ofDigits hvalues).symm⟩

end Lexis
