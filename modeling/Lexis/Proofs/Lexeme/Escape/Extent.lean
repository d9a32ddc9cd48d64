import Lexis.Proofs.Lexeme.Escape
import Lexis.Proofs.Text.Cursor

/-!
# How far an escape reaches

An escape has as many characters as its form says.  What is no escape is taken as well, up to its
first character that is out of order, so that a literal can go on behind it.

* `AtHead` says which escape stands at the head of a text, and with how many characters.
  `atHead_iff` relates it to `Denotes`.
* `Refuses` says what is taken where no escape stands, and which fault this is.  `refuses_iff` says
  that it is what the scan takes, so that there is no other answer.
* `atHead_iff_scan` and `refused_iff_scan` say how far the scan goes in either case.
* `IsTaken` is what all texts that are taken have in common: `isTaken_scan`.
-/

namespace Lexis

namespace Escape

/-! ## Escapes -/

/-- At the head of `text`, behind a backslash, stands an escape for `c`.  The number is that of its
characters, the backslash included. -/
inductive AtHead (text : List Char) (c : Char) : Nat → Prop where
  /-- One of the letters. -/
  | letter {letter : Char} (h : (letter, c) ∈ letters) (hhead : [letter] <+: text) :
      AtHead text c 2
  /-- A code point in four hexadecimal digits. -/
  | short {digits : List Char} (h : Writes 16 4 digits c) (hhead : 'u' :: digits <+: text) :
      AtHead text c 6
  /-- A code point in eight hexadecimal digits. -/
  | long {digits : List Char} (h : Writes 16 8 digits c) (hhead : 'U' :: digits <+: text) :
      AtHead text c 10
  /-- A byte in three octal digits. -/
  | octal {digits : List Char} (h : Writes 8 3 digits c) (hbyte : c.toNat ≤ 0o377)
      (hhead : digits <+: text) : AtHead text c 4

theorem atHead_iff {text : List Char} {c : Char} {len : Nat} :
    AtHead text c len ↔ ∃ body, Denotes body c ∧ body <+: text ∧ len = body.length + 1 := by
  constructor
  · intro h
    cases h with
    | letter hletter hhead => exact ⟨_, .letter hletter, hhead, rfl⟩
    | short hwrites hhead =>
        refine ⟨_, .short hwrites, hhead, ?_⟩
        rw [List.length_cons, hwrites.length]
    | long hwrites hhead =>
        refine ⟨_, .long hwrites, hhead, ?_⟩
        rw [List.length_cons, hwrites.length]
    | octal hwrites hbyte hhead =>
        refine ⟨_, .octal hwrites hbyte, hhead, ?_⟩
        rw [hwrites.length]
  · rintro ⟨body, hbody, hhead, rfl⟩
    cases hbody with
    | letter hletter => exact .letter hletter hhead
    | short hwrites =>
        rw [List.length_cons, hwrites.length]
        exact .short hwrites hhead
    | long hwrites =>
        rw [List.length_cons, hwrites.length]
        exact .long hwrites hhead
    | octal hwrites hbyte =>
        rw [hwrites.length]
        exact .octal hwrites hbyte hhead

/-! ## What is no escape -/

/-- What is taken of a text behind a backslash where no escape stands, and the fault of it.  Digits
are taken until there are as many as an escape has, or up to the first character that is none. -/
inductive Refuses : List Char → List Char → Fault → Prop where
  /-- Hexadecimal digits behind a mark that are too few, or write no code point. -/
  | codePoint {mark : Char} {count : Nat} {text run : List Char}
      (hmark : mark = 'u' ∧ count = 4 ∨ mark = 'U' ∧ count = 8)
      (hrun : IsLongestRun isHexDigit run (text.take count)) :
      Refuses (mark :: text) (mark :: run) .unicodeEscape
  /-- Octal digits that are too few, or write no byte. -/
  | octal {digit : Char} {text run : List Char} (hdigit : isOctalDigit digit = true)
      (hrun : IsLongestRun isOctalDigit run ((digit :: text).take 3)) :
      Refuses (digit :: text) run .octalEscape
  /-- Another character, but not the end of the line. -/
  | unknown {c : Char} {text : List Char} (hmark : c ≠ 'u' ∧ c ≠ 'U')
      (hdigit : isOctalDigit c = false) (hnewline : c ≠ '\n') :
      Refuses (c :: text) [c] (.unknownEscape c)
  | newline {text : List Char} : Refuses ('\n' :: text) [] (.unknownEscape '\n')
  | atEnd : Refuses [] [] (.unknownEscape '\\')

/-- The characters taken are those that the scan takes, whether it finds an escape or not. -/
theorem Refuses.read_eq {text read : List Char} {fault : Fault} (h : Refuses text read fault) :
    (scan text).read = read := by
  cases h with
  | codePoint hmark hrun =>
      rw [hrun.eq_takeWhile]
      rcases hmark with ⟨rfl, rfl⟩ | ⟨rfl, rfl⟩
      · rfl
      · rfl
  | octal hdigit hrun =>
      rw [hrun.eq_takeWhile, scan, letter?_of_isOctalDigit hdigit,
        digitCount?_of_isOctalDigit hdigit, if_pos hdigit]
      rfl
  | @unknown c text hmark hdigit hnewline =>
      rw [scan, digitCount?_eq_none_iff.2 hmark]
      cases letter? c with
      | none => simp [hdigit, hnewline]
      | some value => rfl
  | newline => rfl
  | atEnd => rfl

theorem Refuses.fault_eq {first : Char} {text read : List Char} {fault : Fault}
    (h : Refuses (first :: text) read fault) : fault = faultOf first := by
  cases h with
  | codePoint hmark hrun => rcases hmark with ⟨rfl, -⟩ | ⟨rfl, -⟩ <;> rfl
  | octal hdigit hrun =>
      have hmark : ¬ (first = 'u' ∨ first = 'U') := by
        rintro (rfl | rfl) <;> cases hdigit
      rw [faultOf, if_neg hmark, if_pos hdigit]
  | unknown hmark hdigit hnewline =>
      unfold faultOf
      rw [if_neg (not_or.2 hmark), if_neg (Bool.eq_false_iff.1 hdigit)]
  | newline => rfl

theorem exists_refuses (text : List Char) : ∃ read fault, Refuses text read fault := by
  rcases text with _ | ⟨c, text⟩
  · exact ⟨_, _, .atEnd⟩
  cases hcount : digitCount? c with
  | some count =>
      exact ⟨_, _, .codePoint (digitCount?_eq_some_iff.1 hcount) (isLongestRun_takeWhile _ _)⟩
  | none =>
      have hmark := digitCount?_eq_none_iff.1 hcount
      cases hdigit : isOctalDigit c with
      | true => exact ⟨_, _, .octal hdigit (isLongestRun_takeWhile _ _)⟩
      | false =>
          by_cases hnewline : c = '\n'
          · subst hnewline
            exact ⟨_, _, .newline⟩
          · exact ⟨_, _, .unknown hmark hdigit hnewline⟩

/-- Where the scan finds no escape, it takes the characters of a refusal, for the fault of it. -/
theorem refuses_iff {text read : List Char} {fault found : Fault}
    (h : (scan text).verdict = .error found) :
    Refuses text read fault ↔ read = (scan text).read ∧ fault = found := by
  have honly : ∀ read fault, Refuses text read fault → read = (scan text).read ∧ fault = found := by
    intro read fault hrefuses
    refine ⟨hrefuses.read_eq.symm, ?_⟩
    cases text with
    | nil =>
        cases hrefuses
        simpa [scan] using h
    | cons first text => exact hrefuses.fault_eq.trans (fault_of_scan h).symm
  constructor
  · exact honly read fault
  · rintro ⟨rfl, rfl⟩
    obtain ⟨read, fault, hrefuses⟩ := exists_refuses text
    obtain ⟨rfl, rfl⟩ := honly read fault hrefuses
    exact hrefuses

/-! ## What the scan comes to -/

/-- An escape is found just where it stands, and is taken as a whole. -/
theorem atHead_iff_scan {text : List Char} {c : Char} {len : Nat} :
    AtHead text c len ↔ (scan text).verdict = .ok c ∧ (scan text).read.length + 1 = len := by
  rw [atHead_iff]
  constructor
  · rintro ⟨body, hbody, ⟨rest, rfl⟩, rfl⟩
    rw [scan_append hbody]
    exact ⟨rfl, rfl⟩
  · rintro ⟨hverdict, rfl⟩
    exact ⟨_, denotes_of_scan hverdict, ⟨_, scan_splits text⟩, rfl⟩

/-- A fault is found just where no escape stands, and what is refused is taken. -/
theorem refused_iff_scan {text : List Char} {fault : Fault} {len : Nat} :
    ((∀ c len, ¬ AtHead text c len) ∧ ∃ read, Refuses text read fault ∧ len = read.length + 1) ↔
      (scan text).verdict = .error fault ∧ (scan text).read.length + 1 = len := by
  constructor
  · rintro ⟨hnone, read, hrefuses, rfl⟩
    cases hverdict : (scan text).verdict with
    | ok c => exact absurd (atHead_iff_scan.2 ⟨hverdict, rfl⟩) (hnone c _)
    | error found =>
        obtain ⟨rfl, rfl⟩ := (refuses_iff hverdict).1 hrefuses
        exact ⟨rfl, rfl⟩
  · rintro ⟨hverdict, rfl⟩
    refine ⟨?_, _, (refuses_iff hverdict).2 ⟨rfl, rfl⟩, rfl⟩
    intro c len hhead
    rw [(atHead_iff_scan.1 hhead).1] at hverdict
    cases hverdict

/-! ## What all that is taken has in common -/

/-- Characters that may be taken behind a backslash, whether they are an escape or not.  Behind the
first of them there are only digits, and octal digits behind an octal digit. -/
structure IsTaken (read : List Char) : Prop where
  length_le : read.length ≤ 9
  newline_not_mem : '\n' ∉ read
  isHexDigit : ∀ c ∈ read.tail, isHexDigit c = true
  isOctalDigit : ∀ first ∈ read.head?, isOctalDigit first = true →
    ∀ c ∈ read.tail, isOctalDigit c = true

/-- A character that is taken alone. -/
theorem isTaken_singleton {c : Char} (hnewline : '\n' ∉ [c]) : IsTaken [c] where
  length_le := by simp
  newline_not_mem := hnewline
  isHexDigit := by simp
  isOctalDigit := by simp

/-- A mark with hexadecimal digits behind it. -/
theorem isTaken_mark {mark : Char} {digits : List Char} (hmark : mark = 'u' ∨ mark = 'U')
    (hlength : digits.length ≤ 8) (hdigits : ∀ c ∈ digits, isDigitIn 16 c = true) :
    IsTaken (mark :: digits) where
  length_le := Nat.succ_le_succ hlength
  newline_not_mem := by
    rcases hmark with rfl | rfl <;> simpa using newline_not_mem_of_isDigitIn hdigits
  isHexDigit := hdigits
  isOctalDigit := by
    intro first hfirst hoctal
    obtain rfl : mark = first := Option.some.inj hfirst
    rcases hmark with rfl | rfl <;> cases hoctal

/-- A run of octal digits. -/
theorem isTaken_octal {digits : List Char} (hlength : digits.length ≤ 3)
    (hdigits : ∀ c ∈ digits, isDigitIn 8 c = true) : IsTaken digits where
  length_le := by omega
  newline_not_mem := newline_not_mem_of_isDigitIn hdigits
  isHexDigit := fun c hc => isHexDigit_of_isDigitIn (hdigits c (List.mem_of_mem_tail hc))
  isOctalDigit := fun _ _ _ c hc => hdigits c (List.mem_of_mem_tail hc)

theorem Denotes.isTaken {body : List Char} {c : Char} (h : Denotes body c) : IsTaken body := by
  cases h with
  | letter hletter => exact isTaken_singleton (Denotes.letter hletter).newline_not_mem
  | short hwrites =>
      exact isTaken_mark (.inl rfl) (by rw [hwrites.length]; decide) hwrites.isDigitIn
  | long hwrites =>
      exact isTaken_mark (.inr rfl) (Nat.le_of_eq hwrites.length) hwrites.isDigitIn
  | octal hwrites hbyte => exact isTaken_octal (Nat.le_of_eq hwrites.length) hwrites.isDigitIn

theorem Refuses.isTaken {text read : List Char} {fault : Fault} (h : Refuses text read fault) :
    IsTaken read := by
  cases h with
  | @codePoint mark count text run hmark hrun =>
      have hle : run.length ≤ count :=
        Nat.le_trans hrun.isPrefix.length_le (List.length_take_le _ _)
      rcases hmark with ⟨rfl, rfl⟩ | ⟨rfl, rfl⟩
      · exact isTaken_mark (.inl rfl) (by omega) hrun.pass
      · exact isTaken_mark (.inr rfl) hle hrun.pass
  | octal hdigit hrun =>
      exact isTaken_octal (Nat.le_trans hrun.isPrefix.length_le (List.length_take_le _ _)) hrun.pass
  | unknown hmark hdigit hnewline =>
      exact isTaken_singleton (by simpa using hnewline.symm)
  | newline => exact isTaken_octal (by decide) (by simp)
  | atEnd => exact isTaken_octal (by decide) (by simp)

theorem isTaken_scan (text : List Char) : IsTaken (scan text).read := by
  cases hverdict : (scan text).verdict with
  | ok c => exact (denotes_of_scan hverdict).isTaken
  | error fault => exact ((refuses_iff hverdict).2 ⟨rfl, rfl⟩).isTaken

end Escape

end Lexis
