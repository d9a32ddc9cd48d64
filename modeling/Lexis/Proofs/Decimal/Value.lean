import Lexis.Proofs.Character.Digit
import Lexis.Proofs.Decimal.Notation
import Mathlib.Algebra.Order.Field.Rat
import Mathlib.Tactic.Positivity
import Mathlib.Tactic.Ring

/-!
# The value of a decimal

`decimalValue` is the number that digits before and behind a point write, and `IsCanonical` says
that no digit of them can be spared.

* `numeralValue_toDigits`: what is printed for a number writes it.
* `decimalValue_zeros_append` and `decimalValue_append_zeros` add zeros that say nothing, and
  `exists_trimZeros` takes them away.
* `exists_positional` is what these come to for the positional notation of a number: it is
  canonical, and it writes the number.
-/

namespace Lexis

/-- The number that the digits `whole` before a point and `fraction` behind it write. -/
def decimalValue (whole fraction : List Char) : ℚ :=
  numeralValue 10 (whole ++ fraction) / 10 ^ fraction.length

/-- Digits before and behind a point, of which none can be spared: there is a zero in front of the
others, or behind them, only if there are no others on its side of the point. -/
structure IsCanonical (whole fraction : List Char) : Prop where
  isDigits_whole : IsDigits whole
  isDigits_fraction : IsDigits fraction
  front : '0' ∈ whole.head? → whole = ['0']
  back : '0' ∈ fraction.getLast? → fraction = ['0']

/-! ## The value of digits -/

theorem numeralValue_zeros (base count : Nat) :
    numeralValue base (List.replicate count '0') = 0 := by
  induction count with
  | zero => rfl
  | succ count ih =>
      have hzero : numeralValue base ['0'] = 0 := by simp [numeralValue, hexValue?]
      rw [List.replicate_succ, ← List.singleton_append, numeralValue_append, hzero, ih]
      simp

theorem numeralValue_toDigits (n : Nat) : numeralValue 10 (Nat.toDigits 10 n) = n := by
  have hdigit : ∀ digit < 10, numeralValue 10 [digit.digitChar] = digit := by decide
  induction n using Nat.strongRecOn with
  | ind n ih =>
      rw [Nat.toDigits_eq_if (by decide)]
      split
      · next hlt => exact hdigit n hlt
      · next hge =>
          rw [numeralValue_append, ih (n / 10) (by omega), hdigit (n % 10) (by omega)]
          simp only [List.length_singleton, Nat.pow_one]
          omega

/-- Only the number zero is printed with a zero in front. -/
theorem head?_toDigits {n : Nat} (hpos : 0 < n) : '0' ∉ (Nat.toDigits 10 n).head? := by
  have hdigit : ∀ digit < 10, 0 < digit → '0' ≠ digit.digitChar := by decide
  induction n using Nat.strongRecOn with
  | ind n ih =>
      rw [Nat.toDigits_eq_if (by decide)]
      split
      · next hlt => simpa using (hdigit n hlt hpos).symm
      · next hge =>
          rw [List.head?_append_of_ne_nil _ Nat.toDigits_ne_nil]
          exact ih (n / 10) (by omega) (by omega)

/-! ## Zeros that say nothing -/

theorem decimalValue_zeros_append (count : Nat) (whole fraction : List Char) :
    decimalValue (List.replicate count '0' ++ whole) fraction = decimalValue whole fraction := by
  rw [decimalValue, decimalValue, List.append_assoc, numeralValue_append, numeralValue_zeros,
    Nat.zero_mul, Nat.zero_add]

theorem decimalValue_append_zeros (count : Nat) (whole fraction : List Char) :
    decimalValue whole (fraction ++ List.replicate count '0') = decimalValue whole fraction := by
  have hpow : ((10 : ℚ) ^ count) ≠ 0 := by positivity
  rw [decimalValue, decimalValue, ← List.append_assoc, numeralValue_append, numeralValue_zeros,
    List.length_append, List.length_replicate, Nat.add_zero, pow_add]
  push_cast
  exact mul_div_mul_right _ _ hpow

/-- A whole number, with a zero behind the point. -/
theorem decimalValue_toDigits (n : Nat) : decimalValue (Nat.toDigits 10 n) ['0'] = n := by
  have hpoint := decimalValue_append_zeros 1 (Nat.toDigits 10 n) []
  rw [List.nil_append] at hpoint
  rw [← List.replicate_one, hpoint, decimalValue, List.append_nil, numeralValue_toDigits]
  simp

theorem exists_trimZeros (digits : List Char) :
    ∃ count, digits = trimZeros digits ++ List.replicate count '0' := by
  induction digits with
  | nil => exact ⟨0, rfl⟩
  | cons c digits ih =>
      obtain ⟨count, hcount⟩ := ih
      rw [trimZeros]
      split
      · next htrim =>
          rw [htrim, List.nil_append] at hcount
          split
          · next hzero => exact ⟨count + 1, by rw [hcount, hzero]; rfl⟩
          · exact ⟨count, by rw [hcount]; rfl⟩
      · next d kept htrim =>
          rw [htrim] at hcount
          exact ⟨count, congrArg (c :: ·) hcount⟩

theorem decimalValue_trimZeros (whole digits : List Char) :
    decimalValue whole (if trimZeros digits = [] then ['0'] else trimZeros digits) =
      decimalValue whole digits := by
  obtain ⟨count, hcount⟩ := exists_trimZeros digits
  conv => rhs; rw [hcount, decimalValue_append_zeros]
  split
  · next hnil =>
      rw [hnil]
      exact decimalValue_append_zeros 1 whole []
  · rfl

theorem getLast?_trimZeros (digits : List Char) : '0' ∉ (trimZeros digits).getLast? := by
  induction digits with
  | nil => simp [trimZeros]
  | cons c digits ih =>
      rw [trimZeros]
      split
      · split
        · simp
        · next hc => simpa using hc
      · next d kept htrim =>
          rw [htrim] at ih
          rwa [List.getLast?_cons_cons]

/-! ## Positional notation -/

/-- The digits of a whole part, and digits behind the point less those that can be spared. -/
theorem isCanonical_trimZeros (n : Nat) {digits : List Char}
    (hdigits : ∀ c ∈ digits, isDigit c = true) :
    IsCanonical (Nat.toDigits 10 n)
      (if trimZeros digits = [] then ['0'] else trimZeros digits) where
  isDigits_whole := isDigits_toDigits n
  isDigits_fraction := isDigits_fraction hdigits
  front := by
    intro hfront
    rcases Nat.eq_zero_or_pos n with rfl | hpos
    · rfl
    · exact absurd hfront (head?_toDigits hpos)
  back := by
    split
    · exact fun _ => rfl
    · exact fun hback => absurd hback (getLast?_trimZeros digits)

/-- The digits of a number that has fewer than `places`, with zeros in front. -/
theorem padded_toDigits {places n : Nat} (hplaces : 0 < places) (h : n < 10 ^ places) :
    let digits := List.replicate (places - (Nat.toDigits 10 n).length) '0' ++ Nat.toDigits 10 n
    digits.length = places ∧ numeralValue 10 digits = n ∧ ∀ c ∈ digits, isDigit c = true := by
  have hlength := (Nat.length_toDigits_le_iff (by decide) hplaces).2 h
  refine ⟨?_, ?_, ?_⟩
  · rw [List.length_append, List.length_replicate]
    omega
  · rw [numeralValue_append, numeralValue_zeros, numeralValue_toDigits, Nat.zero_mul, Nat.zero_add]
  · intro c hc
    exact isDigit_of_mem_padded hc

/-- Positional notation is canonical, and it writes the number. -/
theorem exists_positional (multiple : Nat) :
    ∃ whole fraction, positional multiple = whole ++ '.' :: fraction ∧
      IsCanonical whole fraction ∧ decimalValue whole fraction = multiple / 10 ^ 1075 := by
  obtain ⟨places, hplaces⟩ : ∃ places : Nat, places = 1075 := ⟨1075, rfl⟩
  unfold positional
  rw [← hplaces]
  simp only [Nat.pow_eq]
  have hlt : multiple % 10 ^ places < 10 ^ places := Nat.mod_lt _ (Nat.pow_pos (by decide))
  obtain ⟨hlength, hvalue, hdigits⟩ := padded_toDigits (by omega) hlt
  refine ⟨_, _, rfl, isCanonical_trimZeros _ hdigits, ?_⟩
  rw [decimalValue_trimZeros, decimalValue, numeralValue_append, numeralValue_toDigits, hvalue,
    hlength, Nat.mul_comm, Nat.div_add_mod]

end Lexis
