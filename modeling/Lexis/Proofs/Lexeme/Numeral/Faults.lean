import Lexis.Proofs.Lexeme.Numeral.Extent

/-!
# Why a text is no numeral

What begins with a digit and is no numeral has one fault, and the digits at its head with what
follows them decide which.  `Numeral.Blames` lists the faults that have a form of their own, and
`Numeral.FaultOf` adds the two that are left for all other texts: one for those with a point behind
the digits, one for those without.

Some accepted texts have such a form as well, `0x1f` for one, so that the forms alone do not say
what is refused.

* `fault_eq_of_blames`: what is blamed is the fault, if there is any.
* `blames_or_remaining` is the converse: a fault is blamed or left over.
* `verdict_scan_error_iff` puts them together with the language of numerals.
-/

namespace Lexis

/-- The text of a float is missing just if its number is out of range. -/
theorem canonicalFloat?_eq_none_iff {whole fraction : List Char} :
    canonicalFloat? whole fraction = none ↔
      Binary64.ofFraction? (numeralValue 10 (whole ++ fraction)) (Nat.pow 10 fraction.length) =
        none := by
  rw [canonicalFloat?, Option.map_eq_none_iff]

namespace Numeral

/-! ## Forms and their faults -/

/-- A zero and octal digits behind it, of which the first is no zero. -/
inductive WritesOctal : List Char → Prop where
  | intro {first : Char} {digits : List Char} (hfirst : isOctalDigit first = true)
      (hne : first ≠ '0') (hdigits : ∀ c ∈ digits, isOctalDigit c = true) :
      WritesOctal ('0' :: first :: digits)

/-- The faults that have a form of their own, where `digits` are all the digits at the head of a
text and `rest` is the text behind them. -/
inductive Blames : List Char → List Char → Fault → Prop where
  /-- `0x`. -/
  | hexLiteral {mark : Char} {rest : List Char} (hmark : mark = 'x' ∨ mark = 'X') :
      Blames ['0'] (mark :: rest) .hexLiteral
  /-- `0b`. -/
  | binary {mark : Char} {rest : List Char} (hmark : mark = 'b' ∨ mark = 'B') :
      Blames ['0'] (mark :: rest) (.unsupportedForm .binary)
  /-- `0o`. -/
  | octalPrefix {mark : Char} {rest : List Char} (hmark : mark = 'o' ∨ mark = 'O') :
      Blames ['0'] (mark :: rest) (.unsupportedForm .octalPrefix)
  /-- `0777`, whatever follows but a point. -/
  | legacyOctal {digits rest : List Char} (hdigits : WritesOctal digits)
      (hpoint : '.' ∉ rest.head?) : Blames digits rest (.unsupportedForm .legacyOctal)
  /-- `00` or `08`, whatever follows but a point. -/
  | leadingZero {second : Char} {digits rest : List Char}
      (hdigits : ¬ WritesOctal ('0' :: second :: digits)) (hpoint : '.' ∉ rest.head?) :
      Blames ('0' :: second :: digits) rest .leadingZero
  /-- `1e5`, `1e+5`. -/
  | exponent {digits rest : List Char} (hzero : '0' ∈ digits.head? → digits = ['0'])
      (hexponent : BeginsExponent rest) : Blames digits rest (.unsupportedForm .exponent)
  /-- `1.5e5`, `1.5e+5`. -/
  | fractionExponent {digits fraction rest : List Char} (hfraction : IsDigits fraction)
      (hexponent : BeginsExponent rest) :
      Blames digits ('.' :: (fraction ++ rest)) (.unsupportedForm .exponent)
  /-- A float beyond the greatest number. -/
  | floatOutOfRange {digits fraction rest : List Char} (hfraction : IsDigits fraction)
      (hends : beginsWith isTail rest = false)
      (hrange : Binary64.ofFraction? (numeralValue 10 (digits ++ fraction))
        (Nat.pow 10 fraction.length) = none) :
      Blames digits ('.' :: (fraction ++ rest)) .floatOutOfRange

/-- The fault of all that has no form of its own. -/
def remaining : List Char → Fault
  | '.' :: _ => .malformedFloat
  | _ => .numericSuffix

/-- The fault of a text that is no numeral, by the digits at its head and what is behind them. -/
def FaultOf (digits rest : List Char) (fault : Fault) : Prop :=
  Blames digits rest fault ∨ (∀ other, ¬ Blames digits rest other) ∧ fault = remaining rest

/-! ## What is blamed is the fault -/

theorem isLegacyOctal_iff {digits : List Char} :
    isLegacyOctal digits = true ↔ WritesOctal digits := by
  constructor
  · intro h
    unfold isLegacyOctal at h
    split at h
    · next first digits =>
        simp only [Bool.and_eq_true, bne_iff_ne, List.all_eq_true] at h
        exact .intro h.1.1 h.1.2 h.2
    · cases h
  · rintro ⟨hfirst, hne, hdigits⟩
    simp only [isLegacyOctal, Bool.and_eq_true, bne_iff_ne, List.all_eq_true]
    exact ⟨⟨hfirst, hne⟩, hdigits⟩

/-- A redundant zero is refused before what is behind the digits is looked at. -/
theorem ofDigits_of_leadingZero {second : Char} {digits rest : List Char}
    (hpoint : '.' ∉ rest.head?) :
    ofDigits ('0' :: second :: digits) rest =
      reject (if isLegacyOctal ('0' :: second :: digits) then .unsupportedForm .legacyOctal
        else .leadingZero) ('0' :: second :: digits) rest := by
  rw [ofDigits, unmarked]
  · rfl
  · rintro behind rfl
    exact hpoint rfl
  · simp

/-- What is blamed is the fault, if there is any. -/
theorem fault_eq_of_blames {digits rest : List Char} {blamed fault : Fault}
    (hall : ∀ c ∈ digits, isDigit c = true) (hblames : Blames digits rest blamed)
    (h : (ofDigits digits rest).verdict = .error fault) : fault = blamed := by
  cases hblames with
  | hexLiteral hmark =>
      rw [ofDigits, if_pos hmark] at h
      simp only [hexadecimal] at h
      split at h
      · exact (Except.error.inj h).symm
      · cases h
  | binary hmark =>
      rcases hmark with rfl | rfl <;> exact (Except.error.inj h).symm
  | octalPrefix hmark =>
      rcases hmark with rfl | rfl <;> exact (Except.error.inj h).symm
  | legacyOctal hdigits hpoint =>
      obtain ⟨hfirst, hne, hbehind⟩ := hdigits
      rw [ofDigits_of_leadingZero hpoint,
        if_pos (isLegacyOctal_iff.2 (.intro hfirst hne hbehind))] at h
      exact (Except.error.inj h).symm
  | leadingZero hdigits hpoint =>
      rw [ofDigits_of_leadingZero hpoint, if_neg (mt isLegacyOctal_iff.1 hdigits)] at h
      exact (Except.error.inj h).symm
  | exponent hzero hexponent =>
      obtain ⟨taken, behind, hfound⟩ := hexponent.exists_exponent?
      rw [unmarked_of_exponent hzero hfound] at h
      exact (Except.error.inj h).symm
  | fractionExponent hfraction hexponent =>
      obtain ⟨taken, behind, hfound⟩ := hexponent.exists_exponent?
      rw [float_of_exponent hfraction.isDigit hfound, if_neg hfraction.ne_nil] at h
      exact (Except.error.inj h).symm
  | floatOutOfRange hfraction hends hrange =>
      rw [ofDigits_point, float_append hall hfraction hends,
        inRange_eq_error_iff.2 ⟨canonicalFloat?_eq_none_iff.2 hrange, rfl⟩] at h
      exact (Except.error.inj h).symm

/-! ## Every fault is blamed or left over -/

section Converse

variable {digits rest : List Char} {fault : Fault}

theorem blames_or_remaining_float (hall : ∀ c ∈ digits, isDigit c = true)
    (h : (float digits rest).verdict = .error fault) :
    Blames digits ('.' :: rest) fault ∨ fault = .malformedFloat := by
  have htext : rest.takeWhile isDigit ++ rest.dropWhile isDigit = rest :=
    List.takeWhile_append_dropWhile
  have hfraction : ∀ c ∈ rest.takeWhile isDigit, isDigit c = true :=
    forall_mem_takeWhile _ _
  simp only [float] at h
  split at h
  · next mark behind hexponent =>
      obtain rfl := Except.error.inj h
      split
      · exact .inr rfl
      · next hne =>
          left
          rw [← htext]
          exact .fractionExponent ⟨hne, hfraction⟩ (beginsExponent_of_exponent? hexponent)
  · split at h
    · exact .inr (Except.error.inj h).symm
    · next hends =>
        obtain ⟨hne, hbehind⟩ := not_or.1 hends
        simp only [floatVerdict_point hall ⟨hne, hfraction⟩] at h
        obtain ⟨hrange, rfl⟩ := inRange_eq_error_iff.1 h
        left
        rw [← htext]
        exact .floatOutOfRange ⟨hne, hfraction⟩ (by simpa using hbehind)
          (canonicalFloat?_eq_none_iff.1 hrange)

theorem blames_or_remaining_integer (hzero : '0' ∈ digits.head? → digits = ['0'])
    (h : (integer digits rest).verdict = .error fault) :
    Blames digits rest fault ∨ fault = .numericSuffix := by
  unfold integer at h
  split at h
  · next mark behind hexponent =>
      obtain rfl := Except.error.inj h
      exact .inl (.exponent hzero (beginsExponent_of_exponent? hexponent))
  · split at h
    · exact .inr (Except.error.inj h).symm
    · cases h

theorem blames_or_remaining_unmarked (hall : ∀ c ∈ digits, isDigit c = true)
    (h : (unmarked digits rest).verdict = .error fault) :
    Blames digits rest fault ∨ fault = remaining rest := by
  unfold unmarked at h
  split at h
  · exact blames_or_remaining_float hall h
  · next hpoint =>
      have hhead : '.' ∉ rest.head? := by
        intro hhead
        obtain ⟨behind, hbehind⟩ := List.head?_eq_some_iff.1 hhead
        exact hpoint behind hbehind
      have hremaining : remaining rest = .numericSuffix := by
        unfold remaining
        split
        · exact absurd rfl hhead
        · rfl
      split at h
      · next hzero =>
          obtain rfl := Except.error.inj h
          left
          unfold hasLeadingZero at hzero
          split at hzero
          · next second digits =>
              split
              · next hoctal => exact .legacyOctal (isLegacyOctal_iff.1 hoctal) hhead
              · next hoctal => exact .leadingZero (mt isLegacyOctal_iff.2 hoctal) hhead
          · cases hzero
      · next hzero =>
          have hplain : hasLeadingZero digits = false := by simpa using hzero
          rw [hremaining]
          exact blames_or_remaining_integer (hasLeadingZero_eq_false_iff.1 hplain) h

/-- A fault is blamed or left over. -/
theorem blames_or_remaining (hall : ∀ c ∈ digits, isDigit c = true)
    (h : (ofDigits digits rest).verdict = .error fault) :
    Blames digits rest fault ∨ fault = remaining rest := by
  fun_cases ofDigits digits rest with
  | case1 mark rest hmark =>
      left
      rw [ofDigits, if_pos hmark] at h
      simp only [hexadecimal] at h
      split at h
      · obtain rfl := Except.error.inj h
        exact .hexLiteral hmark
      · cases h
  | case2 mark rest hmark hbinary =>
      rw [ofDigits, if_neg hmark, if_pos hbinary] at h
      obtain rfl := Except.error.inj h
      exact .inl (.binary hbinary)
  | case3 mark rest hmark hbinary hoctal =>
      rw [ofDigits, if_neg hmark, if_neg hbinary, if_pos hoctal] at h
      obtain rfl := Except.error.inj h
      exact .inl (.octalPrefix hoctal)
  | case4 mark rest hmark hbinary hoctal =>
      rw [ofDigits, if_neg hmark, if_neg hbinary, if_neg hoctal] at h
      exact blames_or_remaining_unmarked hall h
  | case5 digits rest hplain =>
      rw [ofDigits] at h
      · exact blames_or_remaining_unmarked hall h
      · exact hplain

end Converse

/-- What is left over is blamed for nothing of its own. -/
theorem not_blames_remaining (digits rest : List Char) : ¬ Blames digits rest (remaining rest) := by
  intro h
  generalize hfault : remaining rest = fault at h
  have hremaining : fault = .malformedFloat ∨ fault = .numericSuffix := by
    rw [← hfault]
    unfold remaining
    split
    · exact .inl rfl
    · exact .inr rfl
  cases h <;> simp at hremaining

/-- The fault of digits and what is behind them, if there is any. -/
theorem faultOf_of_verdict {digits rest : List Char} {fault : Fault}
    (hall : ∀ c ∈ digits, isDigit c = true)
    (h : (ofDigits digits rest).verdict = .error fault) : FaultOf digits rest fault := by
  rcases blames_or_remaining hall h with hblames | hremaining
  · exact .inl hblames
  · refine .inr ⟨?_, hremaining⟩
    intro other hother
    have hsame : fault = other := fault_eq_of_blames hall hother h
    rw [← hsame, hremaining] at hother
    exact not_blames_remaining digits rest hother

/-- There is one fault at most. -/
theorem FaultOf.unique {digits rest : List Char} {fault actual : Fault}
    (hall : ∀ c ∈ digits, isDigit c = true) (h : FaultOf digits rest fault)
    (hverdict : (ofDigits digits rest).verdict = .error actual) :
    actual = fault := by
  rcases h with hblames | ⟨hnone, rfl⟩
  · exact fault_eq_of_blames hall hblames hverdict
  · exact (blames_or_remaining hall hverdict).resolve_left (hnone actual)

/-- A text that begins with a digit has a fault just if its run is no numeral, and it is the fault
that its digits and what is behind them say. -/
theorem verdict_scan_error_iff {c : Char} (hc : isDigit c = true) {text : List Char}
    {fault : Fault} :
    (scan (c :: text)).verdict = .error fault ↔
      (∀ lexeme, ¬ Denotes ((c :: text).takeWhile isTail) lexeme) ∧
        FaultOf ((c :: text).takeWhile isDigit) ((c :: text).dropWhile isDigit) fault := by
  constructor
  · intro h
    refine ⟨?_, faultOf_of_verdict (forall_mem_takeWhile _ _) h⟩
    intro lexeme hdenotes
    rw [scan_of_denotes hdenotes] at h
    cases h
  · rintro ⟨hnone, hfault⟩
    cases hverdict : (scan (c :: text)).verdict with
    | ok lexeme => exact absurd (denotes_of_verdict hc hverdict) (hnone lexeme)
    | error actual => rw [FaultOf.unique (forall_mem_takeWhile _ _) hfault hverdict]

end Numeral

end Lexis
