import Lexis.Character.Digit
import Lexis.Character.Identifier
import Lexis.Character.WhiteSpace

/-!
# How the classes of characters lie to each other

The scanners tell lexemes apart by the class of one character.  Digits in every base are
identifier characters that open no identifier, and white space is no identifier
character.  The last is a fact about the tables: they have no code point in common.  What
is written to show a number is digits again.

Characters are compared through their code points, so that the tables can be searched.
-/

namespace Lexis

/-! ## White space -/

/-- The tables of white space and of identifier characters are disjoint. -/
theorem contains_identifierPart_of_whiteSpace {code : Nat}
    (h : whiteSpaceRanges.contains code = true) : identifierPartRanges.contains code = false := by
  have htables : ∀ range ∈ whiteSpaceRanges,
      ∀ code ∈ List.range' range.1 (range.2 + 1 - range.1),
        identifierPartRanges.contains code = false := by
    decide +kernel
  obtain ⟨range, hmem, hfirst, hlast⟩ := CodeRanges.exists_range_of_contains h
  exact htables range hmem code (List.mem_range'_1.2 ⟨hfirst, by omega⟩)

/-- White space ends an identifier. -/
theorem isIdentifierPart_of_isWhiteSpace {c : Char} (h : isWhiteSpace c = true) :
    isIdentifierPart c = false := by
  have hpart := contains_identifierPart_of_whiteSpace h
  have hunderscore : (c == '_') = false := by
    rw [beq_eq_false_iff_ne]
    rintro rfl
    exact absurd h (by decide)
  rw [isIdentifierPart, hunderscore, hpart, Bool.or_self]

/-! ## Digits -/

theorem isDigitIn_iff {base : Nat} {c : Char} :
    isDigitIn base c = true ↔ ∃ digit, hexValue? c = some digit ∧ digit < base := by
  rw [isDigitIn, Option.any_eq_true]
  simp only [decide_eq_true_eq]

/-- The digits of base sixteen, in either case. -/
def hexDigits : List Char :=
  ['0', '1', '2', '3', '4', '5', '6', '7', '8', '9',
   'a', 'b', 'c', 'd', 'e', 'f', 'A', 'B', 'C', 'D', 'E', 'F']

/-- A digit in any base is one of base sixteen. -/
theorem mem_hexDigits_of_isDigitIn {base : Nat} {c : Char} (h : isDigitIn base c = true) :
    c ∈ hexDigits := by
  have hcode : c.toNat ∈ hexDigits.map Char.toNat := by
    have hsome : (hexValue? c).isSome = true := by
      obtain ⟨digit, hvalue, -⟩ := isDigitIn_iff.1 h
      rw [hvalue]
      rfl
    simp only [hexDigits, List.map_cons, List.map_nil, List.mem_cons, List.not_mem_nil, or_false]
    unfold hexValue? at hsome
    split at hsome
    · next hrange =>
        have hfirst : 48 ≤ c.toNat := hrange.1
        have hlast : c.toNat ≤ 57 := hrange.2
        simp only [Char.reduceToNat]
        omega
    · split at hsome
      · next hrange =>
          have hfirst : 97 ≤ c.toNat := hrange.1
          have hlast : c.toNat ≤ 102 := hrange.2
          simp only [Char.reduceToNat]
          omega
      · split at hsome
        · next hrange =>
            have hfirst : 65 ≤ c.toNat := hrange.1
            have hlast : c.toNat ≤ 70 := hrange.2
            simp only [Char.reduceToNat]
            omega
        · simp at hsome
  obtain ⟨digit, hdigit, heq⟩ := List.mem_map.1 hcode
  exact Char.toNat_inj.1 heq ▸ hdigit

/-- A digit in any base is a hexadecimal digit. -/
theorem isHexDigit_of_isDigitIn {base : Nat} {c : Char} (h : isDigitIn base c = true) :
    isHexDigit c = true := by
  have hall : hexDigits.all isHexDigit = true := by decide
  exact List.all_eq_true.1 hall c (mem_hexDigits_of_isDigitIn h)

/-- Digits continue an identifier. -/
theorem isIdentifierPart_of_isDigitIn {base : Nat} {c : Char} (h : isDigitIn base c = true) :
    isIdentifierPart c = true := by
  have hall : hexDigits.all isIdentifierPart = true := by decide +kernel
  exact List.all_eq_true.1 hall c (mem_hexDigits_of_isDigitIn h)

/-- No digit opens an identifier. -/
theorem isIdentifierStart_of_isDigit {c : Char} (h : isDigit c = true) :
    isIdentifierStart c = false := by
  have hall : (hexDigits.all fun digit => !(isDigit digit && isIdentifierStart digit)) = true := by
    decide +kernel
  simpa [h] using List.all_eq_true.1 hall c (mem_hexDigits_of_isDigitIn h)

/-- A line feed is no digit. -/
theorem newline_not_mem_of_isDigitIn {base : Nat} {digits : List Char}
    (h : ∀ digit ∈ digits, isDigitIn base digit = true) : '\n' ∉ digits := by
  intro hmem
  cases h '\n' hmem

/-- A number is written in digits. -/
theorem isDigitIn_of_mem_toDigits {base : Nat} (hbase : 1 < base) (hle : base ≤ 16) {n : Nat}
    {c : Char} (h : c ∈ Nat.toDigits base n) : isDigitIn base c = true := by
  have hvalue : ∀ digit < 16, hexValue? digit.digitChar = some digit := by decide
  have hdigit : ∀ digit < base, isDigitIn base digit.digitChar = true := by
    intro digit hlt
    simp [isDigitIn, hvalue digit (by omega), hlt]
  induction n using Nat.strongRecOn with
  | ind n ih =>
      rw [Nat.toDigits_eq_if hbase] at h
      split at h
      · next hlt =>
          rw [List.mem_singleton.1 h]
          exact hdigit n hlt
      · rcases List.mem_append.1 h with hfront | hlast
        · exact ih (n / base) (Nat.div_lt_self (by omega) hbase) hfront
        · rw [List.mem_singleton.1 hlast]
          exact hdigit (n % base) (Nat.mod_lt n (by omega))

theorem newline_not_mem_toDigits (base n : Nat) (hbase : 1 < base) (hle : base ≤ 16) :
    '\n' ∉ Nat.toDigits base n :=
  newline_not_mem_of_isDigitIn fun _ hdigit => isDigitIn_of_mem_toDigits hbase hle hdigit

end Lexis
