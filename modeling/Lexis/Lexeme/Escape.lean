import Lexis.Character.Digit
import Lexis.Lexeme.Scan

/-!
# Escape sequences

A backslash in a string or a character literal is followed by a letter that stands for one
character, by `u` or `U` and hexadecimal digits of a code point, or by three octal digits.  The
scans here begin behind the backslash.  A faulty escape takes the character behind the backslash
and the digits that are in order, so that the offending character is the next one.
-/

namespace Lexis

namespace Escape

/-- The character with the given code point, if there is one. -/
def scalar? (code : Nat) : Option Char :=
  if h : code.isValidChar then some (Char.ofNatAux code h) else none

/-- The number of digits behind the letter of a code point escape. -/
def digitCount? : Char → Option Nat
  | 'u' => some 4
  | 'U' => some 8
  | _ => none

/-- The character that a letter behind the backslash stands for. -/
def letter? : Char → Option Char
  | 'n' => some '\n'
  | 't' => some '\t'
  | '\\' => some '\\'
  | '"' => some '"'
  | '\'' => some '\''
  | _ => none

/-- Reads exactly `count` digits in the given base that write an admissible code point. -/
def digits (base count : Nat) (admit? : Nat → Option Char) (fault : Fault) (text : List Char) :
    Scan Char :=
  let found := (text.take count).takeWhile (isDigitIn base)
  let verdict :=
    if found.length = count then
      match admit? (numeralValue base found) with
      | some c => .ok c
      | none => .error fault
    else .error fault
  ⟨found, text.drop found.length, verdict⟩

/-- Octal escapes name a byte. -/
def byte? (code : Nat) : Option Char :=
  if code ≤ 0xff then scalar? code else none

/-- Reads the escape whose backslash stands right before `text`. -/
def scan : List Char → Scan Char
  | [] => ⟨[], [], .error (.unknownEscape '\\')⟩
  | c :: text =>
      match letter? c, digitCount? c with
      | some value, _ => ⟨[c], text, .ok value⟩
      | none, some count => (digits 16 count scalar? .unicodeEscape text).behind [c]
      | none, none =>
          if isOctalDigit c then digits 8 3 byte? .octalEscape (c :: text)
          else if c = '\n' then ⟨[], c :: text, .error (.unknownEscape c)⟩
          else ⟨[c], text, .error (.unknownEscape c)⟩

theorem digits_splits (base count : Nat) (admit? : Nat → Option Char) (fault : Fault)
    (text : List Char) : (digits base count admit? fault text).Splits text := by
  have hfound : (text.take count).takeWhile (isDigitIn base) <+: text :=
    (List.takeWhile_prefix _).trans (List.take_prefix _ _)
  obtain ⟨tail, htail⟩ := hfound
  unfold Scan.Splits digits
  simp only
  generalize (text.take count).takeWhile (isDigitIn base) = found at htail ⊢
  rw [← htail]
  simp

/-- An escape takes characters from the head of the text behind the backslash. -/
theorem scan_splits (text : List Char) : (scan text).Splits text := by
  cases text with
  | nil => rfl
  | cons c text =>
      rw [scan]
      split
      · rfl
      · exact (digits_splits ..).behind [c]
      · split
        · exact digits_splits ..
        · split <;> rfl

end Escape

end Lexis
