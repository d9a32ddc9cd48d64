import Lexis.Lexeme.Escape
import Lexis.Proofs.Character.Digit

/-!
# What an escape stands for

`Escape.Denotes` lists the escapes and the characters they stand for, apart from
how they are read: the letters, a code point in four or eight hexadecimal digits,
and a byte in three octal digits.  The scan accepts exactly these.

* `scan_append` reads an escape off the head of any text.
* `denotes_of_scan` is the converse: what is accepted is an escape.
* `scan_error_iff` says that everything else is refused, and that the first
  character behind the backslash decides the fault.
-/

namespace Lexis

namespace Escape

/-- The letters behind a backslash that stand for one character. -/
def letters : List (Char × Char) :=
  [('n', '\n'), ('t', '\t'), ('\\', '\\'), ('"', '"'), ('\'', '\'')]

/-- The code point of `c`, written in `count` digits of the given base. -/
structure Writes (base count : Nat) (digits : List Char) (c : Char) : Prop where
  length : digits.length = count
  number : WritesNumber base digits c.toNat

theorem Writes.isDigitIn {base count : Nat} {digits : List Char} {c : Char}
    (h : Writes base count digits c) : ∀ digit ∈ digits, isDigitIn base digit = true :=
  (writesNumber_iff.1 h.number).1

theorem Writes.value {base count : Nat} {digits : List Char} {c : Char}
    (h : Writes base count digits c) : numeralValue base digits = c.toNat :=
  (writesNumber_iff.1 h.number).2

/-- The characters behind a backslash that stand for the character `c`. -/
inductive Denotes : List Char → Char → Prop where
  /-- One of the letters. -/
  | letter {letter c : Char} (h : (letter, c) ∈ letters) : Denotes [letter] c
  /-- A code point in four hexadecimal digits. -/
  | short {digits : List Char} {c : Char} (h : Writes 16 4 digits c) :
      Denotes ('u' :: digits) c
  /-- A code point in eight hexadecimal digits. -/
  | long {digits : List Char} {c : Char} (h : Writes 16 8 digits c) :
      Denotes ('U' :: digits) c
  /-- A byte in three octal digits. -/
  | octal {digits : List Char} {c : Char} (h : Writes 8 3 digits c) (hbyte : c.toNat ≤ 0o377) :
      Denotes digits c

/-- No escape goes on over a line feed. -/
theorem Denotes.newline_not_mem {body : List Char} {c : Char} (h : Denotes body c) :
    '\n' ∉ body := by
  cases h with
  | letter hletter =>
      have hletters : ∀ pair ∈ letters, pair.1 ≠ '\n' := by decide
      simpa using (hletters _ hletter).symm
  | short hwrites => simpa using newline_not_mem_of_isDigitIn hwrites.isDigitIn
  | long hwrites => simpa using newline_not_mem_of_isDigitIn hwrites.isDigitIn
  | octal hwrites hbyte => exact newline_not_mem_of_isDigitIn hwrites.isDigitIn

/-- The fault of what begins with `c` behind a backslash and stands for nothing. -/
def faultOf (c : Char) : Fault :=
  if c = 'u' ∨ c = 'U' then .unicodeEscape
  else if isOctalDigit c then .octalEscape
  else .unknownEscape c

/-! ## Letters and code points -/

theorem letter?_eq_some_iff {letter c : Char} :
    letter? letter = some c ↔ (letter, c) ∈ letters := by
  unfold letter?
  split <;> simp_all [letters, eq_comm]

theorem digitCount?_eq_some_iff {c : Char} {count : Nat} :
    digitCount? c = some count ↔ c = 'u' ∧ count = 4 ∨ c = 'U' ∧ count = 8 := by
  unfold digitCount?
  split <;> simp_all [eq_comm]

theorem digitCount?_eq_none_iff {c : Char} : digitCount? c = none ↔ c ≠ 'u' ∧ c ≠ 'U' := by
  unfold digitCount?
  split <;> simp_all

/-- An octal digit is none of the letters. -/
theorem letter?_of_isOctalDigit {c : Char} (h : isOctalDigit c = true) : letter? c = none := by
  cases hletter : letter? c with
  | none => rfl
  | some value =>
      have hmem := letter?_eq_some_iff.1 hletter
      simp only [letters, List.mem_cons, Prod.mk.injEq, List.not_mem_nil, or_false] at hmem
      rcases hmem with ⟨rfl, _⟩ | ⟨rfl, _⟩ | ⟨rfl, _⟩ | ⟨rfl, _⟩ | ⟨rfl, _⟩ <;>
        exact absurd h (by decide)

theorem digitCount?_of_isOctalDigit {c : Char} (h : isOctalDigit c = true) :
    digitCount? c = none := by
  cases hcount : digitCount? c with
  | none => rfl
  | some count =>
      rcases digitCount?_eq_some_iff.1 hcount with ⟨rfl, _⟩ | ⟨rfl, _⟩ <;>
        exact absurd h (by decide)

theorem scalar?_eq_some_iff {code : Nat} {c : Char} : scalar? code = some c ↔ code = c.toNat := by
  by_cases hvalid : code.isValidChar
  · have hcode : (Char.ofNatAux code hvalid).toNat = code := rfl
    rw [scalar?, dif_pos hvalid, Option.some_inj]
    constructor
    · intro h
      rw [← h, hcode]
    · intro h
      exact Char.toNat_inj.1 (hcode.trans h)
  · rw [scalar?, dif_neg hvalid]
    constructor
    · intro h
      cases h
    · intro h
      exact absurd (h ▸ c.valid) hvalid

theorem byte?_eq_some_iff {code : Nat} {c : Char} :
    byte? code = some c ↔ code = c.toNat ∧ c.toNat ≤ 0o377 := by
  unfold byte?
  split
  · next hcode =>
      rw [scalar?_eq_some_iff]
      omega
  · next hcode =>
      simp only [reduceCtorEq, false_iff]
      omega

/-! ## Digits -/

section Digits

variable {base count : Nat} {admit? : Nat → Option Char}

/-- The right number of digits is taken, whatever follows. -/
theorem digits_append {found : List Char} {c : Char} (hlength : found.length = count)
    (hdigits : ∀ digit ∈ found, isDigitIn base digit = true)
    (hnamed : admit? (numeralValue base found) = some c) (fault : Fault) (rest : List Char) :
    digits base count admit? fault (found ++ rest) = ⟨found, rest, .ok c⟩ := by
  have htake : (found ++ rest).take count = found := by rw [← hlength, List.take_left]
  have hfound : ((found ++ rest).take count).takeWhile (isDigitIn base) = found := by
    have happend : (found ++ []).takeWhile (isDigitIn base) = found ++ [] :=
      List.takeWhile_append_of_pos hdigits
    rw [htake]
    simpa using happend
  rw [digits, hfound, hnamed]
  simp [hlength]

/-- Digits that are accepted write an admissible code point. -/
theorem digits_ok {fault : Fault} {text : List Char} {c : Char}
    (h : (digits base count admit? fault text).verdict = .ok c) :
    (digits base count admit? fault text).read.length = count ∧
      (∀ digit ∈ (digits base count admit? fault text).read, isDigitIn base digit = true) ∧
      admit? (numeralValue base (digits base count admit? fault text).read) = some c := by
  have hall : ∀ digit ∈ (text.take count).takeWhile (isDigitIn base),
      isDigitIn base digit = true := by
    rw [← List.all_eq_true]
    exact List.all_takeWhile
  unfold digits at h ⊢
  simp only at h ⊢
  generalize (text.take count).takeWhile (isDigitIn base) = found at h hall ⊢
  split at h
  · next hlength =>
      split at h
      · next value hnamed =>
          obtain rfl : value = c := by simpa using h
          exact ⟨hlength, hall, hnamed⟩
      · cases h
  · cases h

/-- Digits that are refused are all refused with the same fault. -/
theorem digits_error {fault found : Fault} {text : List Char}
    (h : (digits base count admit? fault text).verdict = .error found) : found = fault := by
  unfold digits at h
  simp only at h
  split at h
  · split at h
    · cases h
    · simpa using h.symm
  · simpa using h.symm

end Digits

/-! ## The scan of an escape -/

/-- An escape is read off the head of any text. -/
theorem scan_append {body : List Char} {c : Char} (h : Denotes body c) (rest : List Char) :
    scan (body ++ rest) = ⟨body, rest, .ok c⟩ := by
  cases h with
  | letter hletter =>
      rw [List.singleton_append, scan, letter?_eq_some_iff.2 hletter]
  | short hwrites =>
      have hnamed := scalar?_eq_some_iff.2 hwrites.value
      have hdigits := digits_append hwrites.length hwrites.isDigitIn hnamed .unicodeEscape rest
      exact congrArg (Scan.behind · ['u']) hdigits
  | long hwrites =>
      have hnamed := scalar?_eq_some_iff.2 hwrites.value
      have hdigits := digits_append hwrites.length hwrites.isDigitIn hnamed .unicodeEscape rest
      exact congrArg (Scan.behind · ['U']) hdigits
  | octal hwrites hbyte =>
      have hnamed := byte?_eq_some_iff.2 ⟨hwrites.value, hbyte⟩
      have hdigits := digits_append hwrites.length hwrites.isDigitIn hnamed .octalEscape rest
      obtain _ | ⟨digit, digits⟩ := body
      · cases hwrites.length
      · have hdigit : isOctalDigit digit = true := hwrites.isDigitIn digit List.mem_cons_self
        rw [List.cons_append] at hdigits ⊢
        rw [scan, letter?_of_isOctalDigit hdigit, digitCount?_of_isOctalDigit hdigit, if_pos hdigit]
        exact hdigits

/-- What is accepted is an escape. -/
theorem denotes_of_scan {text : List Char} {c : Char} (h : (scan text).verdict = .ok c) :
    Denotes (scan text).read c := by
  cases text with
  | nil => cases h
  | cons first text =>
      rw [scan] at h ⊢
      split at h
      · next value hletter =>
          obtain rfl : value = c := by simpa using h
          exact .letter (letter?_eq_some_iff.1 hletter)
      · next count hletter hcount =>
          obtain ⟨hlength, hdigits, hnamed⟩ := digits_ok h
          have hvalue := scalar?_eq_some_iff.1 hnamed
          have hnumber := writesNumber_iff.2 ⟨hdigits, hvalue⟩
          rcases digitCount?_eq_some_iff.1 hcount with ⟨rfl, rfl⟩ | ⟨rfl, rfl⟩
          · exact .short ⟨hlength, hnumber⟩
          · exact .long ⟨hlength, hnumber⟩
      · split at h
        · next hletter hcount hdigit =>
            obtain ⟨hlength, hdigits, hnamed⟩ := digits_ok h
            obtain ⟨hvalue, hbyte⟩ := byte?_eq_some_iff.1 hnamed
            simp only [hdigit, if_true]
            exact .octal ⟨hlength, writesNumber_iff.2 ⟨hdigits, hvalue⟩⟩ hbyte
        · split at h <;> cases h

/-- The first character behind the backslash decides the fault. -/
theorem fault_of_scan {first : Char} {text : List Char} {fault : Fault}
    (h : (scan (first :: text)).verdict = .error fault) : fault = faultOf first := by
  rw [scan] at h
  split at h
  · cases h
  · next count hletter hcount =>
      have hfault := digits_error h
      rcases digitCount?_eq_some_iff.1 hcount with ⟨rfl, _⟩ | ⟨rfl, _⟩ <;> exact hfault
  · next hletter hcount =>
      have hmark : ¬ (first = 'u' ∨ first = 'U') := by
        rintro (rfl | rfl) <;> cases hcount
      rw [faultOf, if_neg hmark]
      split at h
      · next hdigit =>
          rw [if_pos hdigit]
          exact digits_error h
      · next hdigit =>
          rw [if_neg hdigit]
          split at h <;> simpa using h.symm

/-- A text is refused just if no escape stands at its head. -/
theorem scan_error_iff {first : Char} {text : List Char} {fault : Fault} :
    (scan (first :: text)).verdict = .error fault ↔
      fault = faultOf first ∧ ∀ body c, Denotes body c → ¬ body <+: first :: text := by
  constructor
  · intro h
    refine ⟨fault_of_scan h, ?_⟩
    rintro body c hbody ⟨rest, hrest⟩
    rw [← hrest, scan_append hbody] at h
    cases h
  · rintro ⟨rfl, hnone⟩
    cases h : (scan (first :: text)).verdict with
    | error fault => rw [fault_of_scan h]
    | ok c =>
        have hsplits : (scan (first :: text)).read <+: first :: text :=
          ⟨_, scan_splits (first :: text)⟩
        exact absurd hsplits (hnone _ _ (denotes_of_scan h))

end Escape

end Lexis
