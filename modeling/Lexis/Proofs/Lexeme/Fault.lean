import Lexis.Proofs.Lexeme.Numeral
import Lexis.Proofs.Lexeme.Quotation
import Lexis.Proofs.Symbol

/-!
# Which lexeme has which faults

Every scanner has faults of its own.  `Scan.FaultsIn` says that a scan reports
only faults of a class, and the classes are small: the three faults of an
escape, those of a numeral, and the one or two ways in which each kind of
literal is not closed.

`Lexeme.Refused` says which fault a lexeme can have by its first character, and
`Lexeme.refused_of_scan` that there are no others.  `Lexeme.rest_of_isOpen` is
what they come to for the faults that go on over line feeds: a raw string that is
never closed takes the rest of the text, and no other lexeme has such a fault.
-/

namespace Lexis

namespace Fault

/-- Whether the fault is one of an escape. -/
def isEscape : Fault → Bool
  | unicodeEscape | octalEscape | unknownEscape _ => true
  | _ => false

/-- Whether the fault is one of a numeral. -/
def isNumeral : Fault → Bool
  | leadingZero | hexLiteral | numericSuffix | malformedFloat | floatOutOfRange
  | unsupportedForm _ => true
  | _ => false

/-- Whether the fault is one of a string between double quotes. -/
def isInterpreted (fault : Fault) : Bool :=
  fault == unterminatedString || fault.isEscape

/-- Whether the fault is one of a character literal. -/
def isCharacter (fault : Fault) : Bool :=
  fault == unterminatedChar || fault == charTooLong || fault == emptyChar || fault.isEscape

/-- Whether the fault is that of a raw string or a comment that is never closed. -/
def isOpen : Fault → Bool
  | unterminatedRawString | unterminatedComment => true
  | _ => false

theorem isOpen_of_isNumeral {fault : Fault} (h : fault.isNumeral = true) :
    fault.isOpen = false := by
  cases fault <;> simp_all [isNumeral, isOpen]

theorem isOpen_of_isInterpreted {fault : Fault} (h : fault.isInterpreted = true) :
    fault.isOpen = false := by
  cases fault <;> simp_all [isInterpreted, isEscape, isOpen]

theorem isOpen_of_isCharacter {fault : Fault} (h : fault.isCharacter = true) :
    fault.isOpen = false := by
  cases fault <;> simp_all [isCharacter, isEscape, isOpen]

end Fault

/-- The scan reports no fault but those that satisfy `p`. -/
def Scan.FaultsIn {α : Type} (scan : Scan α) (p : Fault → Bool) : Prop :=
  ∀ fault, scan.verdict = .error fault → p fault = true

namespace Scan.FaultsIn

variable {α β : Type} {scan : Scan α} {p : Fault → Bool}

theorem map (h : scan.FaultsIn p) (f : α → β) : (scan.map f).FaultsIn p := by
  intro fault hfault
  exact h fault ((map_verdict_eq_error scan).1 hfault)

theorem behind (h : scan.FaultsIn p) (before : List Char) : (scan.behind before).FaultsIn p := h

theorem of_error {read rest : List Char} {fault : Fault} (h : p fault = true) :
    (⟨read, rest, .error fault⟩ : Scan α).FaultsIn p := by
  intro fault' hfault
  obtain rfl : fault = fault' := by simpa using hfault
  exact h

theorem of_ok {read rest : List Char} {value : α} :
    (⟨read, rest, .ok value⟩ : Scan α).FaultsIn p := by
  intro fault hfault
  simp at hfault

end Scan.FaultsIn

open Scan (FaultsIn)

theorem Escape.digits_faultsIn {base count : Nat} {admit? : Nat → Option Char} {fault : Fault}
    (h : fault.isEscape = true) (text : List Char) :
    (digits base count admit? fault text).FaultsIn Fault.isEscape := by
  unfold digits
  intro fault' hfault
  simp only at hfault
  split at hfault
  · split at hfault
    · simp at hfault
    · obtain rfl : fault = fault' := by simpa using hfault
      exact h
  · obtain rfl : fault = fault' := by simpa using hfault
    exact h

theorem Escape.scan_faultsIn (text : List Char) : (scan text).FaultsIn Fault.isEscape := by
  fun_cases scan text with
  | case1 => exact .of_error rfl
  | case2 => exact .of_ok
  | case3 => exact (digits_faultsIn rfl _).behind _
  | case4 => exact digits_faultsIn rfl _
  | case5 => exact .of_error rfl
  | case6 => exact .of_error rfl

/-! ## Quoted literals -/

namespace Quotation

theorem spoilt_faultsIn {quote : Char} {unterminated fault : Fault} {p : Fault → Bool}
    (hunterminated : p unterminated = true) (hfault : p fault = true) (text : List Char)
    {α : Type} : (spoilt quote unterminated fault text : Scan α).FaultsIn p := by
  fun_cases spoilt quote unterminated fault text with
  | case1 => exact .of_error hunterminated
  | case2 => exact .of_error hunterminated
  | case3 => exact .of_error hfault

theorem interpreted_faultsIn (text : List Char) :
    (interpreted text).FaultsIn Fault.isInterpreted := by
  fun_induction interpreted text with
  | case1 => exact .of_error rfl
  | case2 => exact .of_error rfl
  | case3 => exact .of_ok
  | case4 text escape c hverdict ih => exact (ih.map _).behind _
  | case5 text escape fault hverdict =>
      have hescape : fault.isEscape = true := Escape.scan_faultsIn text fault hverdict
      exact spoilt_faultsIn rfl (by simp [Fault.isInterpreted, hescape]) text
  | case6 c text _ _ _ ih => exact (ih.map _).behind _

/-- A raw string has one fault, and it takes the whole text. -/
theorem raw_of_error {text : List Char} {fault : Fault} (h : (raw text).verdict = .error fault) :
    fault = .unterminatedRawString ∧ (raw text).rest = [] := by
  by_cases hmem : '`' ∈ text
  · obtain ⟨value, rest, rfl, hvalue⟩ := List.eq_append_cons_of_mem hmem
    rw [raw_closed hvalue] at h
    cases h
  · rw [raw_unclosed hmem] at h ⊢
    exact ⟨(Except.error.inj h).symm, rfl⟩

theorem closeCharacter_faultsIn (value : Char) (text : List Char) :
    (closeCharacter value text).FaultsIn Fault.isCharacter := by
  fun_cases closeCharacter value text with
  | case1 => exact .of_ok
  | case2 tail =>
      refine .of_error ?_
      split <;> rfl

theorem character_faultsIn (text : List Char) :
    (character text).FaultsIn Fault.isCharacter := by
  fun_cases character text with
  | case1 => exact .of_error rfl
  | case2 => exact .of_error rfl
  | case3 => exact .of_error rfl
  | case4 text escape c hverdict => exact (closeCharacter_faultsIn c escape.rest).behind _
  | case5 text escape fault hverdict =>
      have hescape : fault.isEscape = true := Escape.scan_faultsIn text fault hverdict
      exact spoilt_faultsIn rfl (by simp [Fault.isCharacter, hescape]) text
  | case6 c text => exact (closeCharacter_faultsIn c text).behind _

end Quotation

/-! ## Numerals -/

namespace Numeral

theorem reject_faultsIn {fault : Fault} (h : fault.isNumeral = true) (read rest : List Char) :
    (reject fault read rest).FaultsIn Fault.isNumeral :=
  .of_error h

theorem hexadecimal_faultsIn (read rest : List Char) :
    (hexadecimal read rest).FaultsIn Fault.isNumeral := by
  simp only [hexadecimal]
  split
  · exact reject_faultsIn rfl _ _
  · exact .of_ok

theorem isNumeral_of_floatVerdict {text : List Char} {fault : Fault}
    (h : floatVerdict text = .error fault) : fault.isNumeral = true := by
  unfold floatVerdict at h
  split at h
  · rw [(inRange_eq_error_iff.1 h).2]
    rfl
  · cases h
    rfl

theorem float_faultsIn (whole rest : List Char) :
    (float whole rest).FaultsIn Fault.isNumeral := by
  simp only [float]
  split
  · refine reject_faultsIn ?_ _ _
    split <;> rfl
  · split
    · exact reject_faultsIn rfl _ _
    · exact fun fault h => isNumeral_of_floatVerdict h

theorem integer_faultsIn (digits rest : List Char) :
    (integer digits rest).FaultsIn Fault.isNumeral := by
  unfold integer
  split
  · exact reject_faultsIn rfl _ _
  · split
    · exact reject_faultsIn rfl _ _
    · exact .of_ok

theorem unmarked_faultsIn (digits rest : List Char) :
    (unmarked digits rest).FaultsIn Fault.isNumeral := by
  unfold unmarked
  split
  · exact float_faultsIn _ _
  · split
    · refine reject_faultsIn ?_ _ _
      split <;> rfl
    · exact integer_faultsIn _ _

theorem scan_faultsIn (text : List Char) : (scan text).FaultsIn Fault.isNumeral := by
  unfold scan ofDigits
  split
  · split
    · exact hexadecimal_faultsIn _ _
    · split
      · exact reject_faultsIn rfl _ _
      · split
        · exact reject_faultsIn rfl _ _
        · exact unmarked_faultsIn _ _
  · exact unmarked_faultsIn _ _

end Numeral

/-! ## All lexemes -/

namespace Lexeme

/-- Whether `c` begins a literal or a word, so that it is not looked up among the symbols. -/
def opensLiteralOrWord (c : Char) : Bool :=
  c == '"' || c == '`' || c == '\'' || isDigit c || isIdentifierStart c

theorem opensLiteralOrWord_eq_false_iff {c : Char} :
    opensLiteralOrWord c = false ↔
      c ≠ '"' ∧ c ≠ '`' ∧ c ≠ '\'' ∧ isDigit c = false ∧ isIdentifierStart c = false := by
  simp only [opensLiteralOrWord, Bool.or_eq_false_iff, beq_eq_false_iff_ne, and_assoc]

theorem scan_of_not_opensLiteralOrWord {c : Char} (h : opensLiteralOrWord c = false)
    (text : List Char) : scan c text = scanSymbol c text := by
  obtain ⟨hdouble, hback, hsingle, hdigit, hstart⟩ := opensLiteralOrWord_eq_false_iff.1 h
  rw [scan, if_neg hdouble, if_neg hback, if_neg hsingle, if_neg (by simp [hdigit]),
    if_neg (by simp [hstart])]

/-- Which fault the text `c :: text` can have, by what its first character begins. -/
inductive Refused (c : Char) (text : List Char) : Fault → Prop where
  | interpreted {fault : Fault} (hc : c = '"') (h : fault.isInterpreted = true) :
      Refused c text fault
  | raw (hc : c = '`') (hrest : (scan c text).rest = []) : Refused c text .unterminatedRawString
  | character {fault : Fault} (hc : c = '\'') (h : fault.isCharacter = true) :
      Refused c text fault
  | numeral {fault : Fault} (hc : isDigit c = true) (h : fault.isNumeral = true) :
      Refused c text fault
  | symbol (hc : opensLiteralOrWord c = false) (h : Symbol.longest? (c :: text) = none) :
      Refused c text (.illegalCharacter c)

/-- The first character decides which scanner finds the fault. -/
theorem refused_of_scan {c : Char} {text : List Char} {fault : Fault}
    (h : (scan c text).verdict = .error fault) : Refused c text fault := by
  by_cases hdouble : c = '"'
  · rw [scan, if_pos hdouble] at h
    exact .interpreted hdouble
      (((Quotation.interpreted_faultsIn text).map interpreted).behind [c] fault h)
  by_cases hback : c = '`'
  · have hscan : scan c text = ((Quotation.raw text).map raw).behind [c] := by
      rw [scan, if_neg hdouble, if_pos hback]
    rw [hscan] at h
    have hraw : (Quotation.raw text).verdict = .error fault := by simpa using h
    obtain ⟨rfl, hrest⟩ := Quotation.raw_of_error hraw
    exact .raw hback (hscan ▸ hrest)
  by_cases hsingle : c = '\''
  · rw [scan, if_neg hdouble, if_neg hback, if_pos hsingle] at h
    exact .character hsingle
      (((Quotation.character_faultsIn text).map character).behind [c] fault h)
  by_cases hdigit : isDigit c = true
  · rw [scan, if_neg hdouble, if_neg hback, if_neg hsingle, if_pos hdigit] at h
    exact .numeral hdigit (Numeral.scan_faultsIn _ fault h)
  by_cases hstart : isIdentifierStart c = true
  · rw [scan, if_neg hdouble, if_neg hback, if_neg hsingle, if_neg hdigit, if_pos hstart] at h
    cases h
  · have hother : opensLiteralOrWord c = false := by simp [opensLiteralOrWord, *]
    rw [scan_of_not_opensLiteralOrWord hother, Symbol.scanSymbol_eq] at h
    cases hfound : Symbol.longest? (c :: text) with
    | some longest =>
        rw [hfound] at h
        cases h
    | none =>
        rw [hfound] at h
        obtain rfl := Except.error.inj h
        exact .symbol hother hfound

/-- Only a raw string is open at the end of the text, and it takes the whole text. -/
theorem rest_of_isOpen {c : Char} {text : List Char} {fault : Fault}
    (h : (scan c text).verdict = .error fault) (hopen : fault.isOpen = true) :
    (scan c text).rest = [] := by
  cases refused_of_scan h with
  | interpreted hc hclass => simp [Fault.isOpen_of_isInterpreted hclass] at hopen
  | raw hc hrest => exact hrest
  | character hc hclass => simp [Fault.isOpen_of_isCharacter hclass] at hopen
  | numeral hc hclass => simp [Fault.isOpen_of_isNumeral hclass] at hopen
  | symbol hc hnone => simp [Fault.isOpen] at hopen

end Lexeme

end Lexis
