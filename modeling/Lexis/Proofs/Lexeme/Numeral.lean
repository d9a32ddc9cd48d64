import Lexis.Lexeme.Numeral
import Lexis.Proofs.Decimal.Notation

/-!
# The language of numerals

`Numeral.Denotes` lists the numerals that the language accepts and the lexemes they
stand for, apart from how they are read: decimal integers without a redundant zero,
hexadecimal integers, and floats that are in range.

* `ofDigits_of_head`, `ofDigits_point` and `float_append` say which branch of the scan is
  taken, by what follows the digits.
* `scan_append` reads a numeral off the head of any text that does not go on with an
  identifier character or a point.
* `accepts_scan` is the converse: what is accepted is a numeral, and nothing that would
  go on with it follows.
-/

namespace Lexis

theorem beginsWith_mono {p q : Char → Bool} (hpq : ∀ c, p c = true → q c = true)
    {text : List Char} (h : beginsWith q text = false) : beginsWith p text = false := by
  cases text with
  | nil => rfl
  | cons c text =>
      have hq : q c = false := by simpa [beginsWith] using h
      cases hp : p c with
      | false => simp [beginsWith, hp]
      | true => simp [hpq c hp] at hq

namespace Numeral

/-! ## What may follow a numeral -/

theorem isTail_of_isIdentifierPart {c : Char} (h : isIdentifierPart c = true) :
    isTail c = true := by
  simp [isTail, h]

theorem isTail_of_isDigitIn {base : Nat} {c : Char} (h : isDigitIn base c = true) :
    isTail c = true :=
  isTail_of_isIdentifierPart (isIdentifierPart_of_isDigitIn h)

/-- Digits go on with a numeral. -/
theorem forall_isTail {base : Nat} {digits : List Char}
    (h : ∀ c ∈ digits, isDigitIn base c = true) : ∀ c ∈ digits, isTail c = true :=
  fun c hc => isTail_of_isDigitIn (h c hc)

/-- The marks of an exponent are letters. -/
theorem isIdentifierPart_of_isExponentMark {c : Char} (h : isExponentMark c = true) :
    isIdentifierPart c = true := by
  have hmark : c = 'e' ∨ c = 'E' := by simpa [isExponentMark] using h
  rcases hmark with rfl | rfl <;> decide +kernel

/-- An exponent begins with an identifier character. -/
theorem exponent?_of_ends {rest : List Char} (h : beginsWith isIdentifierPart rest = false) :
    exponent? rest = none := by
  cases rest with
  | nil => rfl
  | cons c rest =>
      have hmark : isExponentMark c = false := by
        simpa [beginsWith] using beginsWith_mono
          (fun _ => isIdentifierPart_of_isExponentMark) h
      simp [exponent?, hmark]

/-- The marks of a base behind a single zero. -/
def baseMarks : List Char := ['x', 'X', 'b', 'B', 'o', 'O']

/-- Without the mark of a base, digits are what they are. -/
theorem ofDigits_of_head (digits : List Char) {rest : List Char}
    (h : ∀ c ∈ rest.head?, c ∉ baseMarks) : ofDigits digits rest = unmarked digits rest := by
  fun_cases ofDigits digits rest with
  | case1 mark rest hmark =>
      exact absurd (by rcases hmark with rfl | rfl <;> decide) (h mark rfl)
  | case2 mark rest hmark hbinary =>
      exact absurd (by rcases hbinary with rfl | rfl <;> decide) (h mark rfl)
  | case3 mark rest hmark hbinary hoctal =>
      exact absurd (by rcases hoctal with rfl | rfl <;> decide) (h mark rfl)
  | case4 mark rest hmark hbinary hoctal => rfl
  | case5 digits rest hplain => rfl

/-- A point behind digits makes a float. -/
theorem ofDigits_point (digits rest : List Char) :
    ofDigits digits ('.' :: rest) = float digits rest :=
  ofDigits_of_head digits (by simp [baseMarks])

/-- The marks of a base are letters, so that none is read where a numeral ends. -/
theorem ofDigits_of_ends (digits : List Char) {rest : List Char}
    (h : beginsWith isIdentifierPart rest = false) :
    ofDigits digits rest = unmarked digits rest := by
  have hletters : baseMarks.all isIdentifierPart = true := by decide +kernel
  refine ofDigits_of_head digits fun c hc hmark => ?_
  have hpart : isIdentifierPart c = true := List.all_eq_true.1 hletters c hmark
  obtain ⟨behind, rfl⟩ := List.head?_eq_some_iff.1 hc
  simp [beginsWith, hpart] at h

/-! ## Numerals -/

/-- The numerals, and the lexemes that they stand for. -/
inductive Denotes : List Char → Lexeme → Prop where
  /-- A decimal integer.  A zero in front of it would be a zero on its own. -/
  | decimal {digits : List Char} (hne : digits ≠ []) (hdigits : ∀ c ∈ digits, isDigit c = true)
      (hzero : '0' ∈ digits.head? → digits = ['0']) : Denotes digits (.decimal digits)
  /-- A hexadecimal integer. -/
  | hex {mark : Char} {digits : List Char} (hmark : mark = 'x' ∨ mark = 'X') (hne : digits ≠ [])
      (hdigits : ∀ c ∈ digits, isHexDigit c = true) :
      Denotes ('0' :: mark :: digits) (.hex ('0' :: mark :: digits))
  /-- A float that is in range. -/
  | float {whole fraction text : List Char} (hwhole : whole ≠ [])
      (hdigits : ∀ c ∈ whole ++ fraction, isDigit c = true) (hfraction : fraction ≠ [])
      (htext : canonicalFloat? whole fraction = some text) :
      Denotes (whole ++ '.' :: fraction) (.float text)

/-- A numeral begins with a digit. -/
theorem Denotes.exists_cons {written : List Char} {lexeme : Lexeme} (h : Denotes written lexeme) :
    ∃ c text, written = c :: text ∧ isDigit c = true := by
  cases h with
  | decimal hne hdigits hzero =>
      obtain ⟨c, text, rfl⟩ := List.exists_cons_of_ne_nil hne
      exact ⟨c, text, rfl, hdigits c List.mem_cons_self⟩
  | hex hmark hne hdigits => exact ⟨'0', _, rfl, by decide⟩
  | float hwhole hdigits hfraction htext =>
      obtain ⟨c, text, rfl⟩ := List.exists_cons_of_ne_nil hwhole
      exact ⟨c, _, rfl, hdigits c (by simp)⟩

theorem hasLeadingZero_eq_false_iff {digits : List Char} :
    hasLeadingZero digits = false ↔ ('0' ∈ digits.head? → digits = ['0']) := by
  unfold hasLeadingZero
  split
  · simp
  · next hzero =>
      rcases digits with _ | ⟨first, _ | ⟨second, digits⟩⟩
      · simp
      · simp
      · have hfirst : first ≠ '0' := fun h => hzero _ _ (by rw [h])
        simp [hfirst]

theorem inRange_eq_ok_iff {whole fraction : List Char} {lexeme : Lexeme} :
    inRange whole fraction = .ok lexeme ↔
      ∃ text, canonicalFloat? whole fraction = some text ∧ lexeme = .float text := by
  unfold inRange
  cases canonicalFloat? whole fraction <;> simp [eq_comm]

theorem inRange_eq_error_iff {whole fraction : List Char} {fault : Fault} :
    inRange whole fraction = .error fault ↔
      canonicalFloat? whole fraction = none ∧ fault = .floatOutOfRange := by
  unfold inRange
  cases canonicalFloat? whole fraction <;> simp [eq_comm]

/-- Digits around a point are never refused by the parse. -/
theorem floatVerdict_point {whole fraction : List Char} (hwhole : ∀ c ∈ whole, isDigit c = true)
    (hfraction : IsDigits fraction) :
    floatVerdict (whole ++ '.' :: fraction) = inRange whole fraction := by
  rw [floatVerdict, parseDecimal?_point hwhole hfraction]

/-- What digits behind a point are part of, where nothing goes on with them. -/
theorem float_append {whole fraction : List Char} (hwhole : ∀ c ∈ whole, isDigit c = true)
    (hfraction : IsDigits fraction) {rest : List Char} (hrest : beginsWith isTail rest = false) :
    float whole (fraction ++ rest) = ⟨whole ++ '.' :: fraction, rest, inRange whole fraction⟩ := by
  have hpart : beginsWith isIdentifierPart rest = false :=
    beginsWith_mono (fun _ => isTail_of_isIdentifierPart) hrest
  have hdigit : beginsWith isDigit rest = false :=
    beginsWith_mono (fun _ => isTail_of_isDigitIn) hrest
  simp only [float, takeWhile_of_ends hfraction.isDigit hdigit,
    dropWhile_of_ends hfraction.isDigit hdigit, exponent?_of_ends hpart, hrest, hfraction.ne_nil,
    floatVerdict_point hwhole hfraction, Bool.false_eq_true, or_self, if_false]

/-- A numeral is read off the head of any text that does not go on with it. -/
theorem scan_append {written : List Char} {lexeme : Lexeme} (h : Denotes written lexeme)
    {rest : List Char} (hrest : beginsWith isTail rest = false) :
    scan (written ++ rest) = ⟨written, rest, .ok lexeme⟩ := by
  have hpart : beginsWith isIdentifierPart rest = false :=
    beginsWith_mono (fun _ => isTail_of_isIdentifierPart) hrest
  have hdigit : beginsWith isDigit rest = false :=
    beginsWith_mono (fun _ => isTail_of_isDigitIn) hrest
  cases h with
  | decimal hne hdigits hzero =>
      have hpoint : ∀ behind, rest = '.' :: behind → False := by
        rintro behind rfl
        simp [beginsWith, isTail] at hrest
      rw [scan, takeWhile_of_ends hdigits hdigit, dropWhile_of_ends hdigits hdigit,
        ofDigits_of_ends _ hpart, unmarked, hasLeadingZero_eq_false_iff.2 hzero]
      · simp only [Bool.false_eq_true, if_false]
        rw [integer, exponent?_of_ends hpart, hpart]
        rfl
      · exact hpoint
  | @hex mark digits hmark hne hdigits =>
      have hhex : beginsWith isHexDigit rest = false :=
        beginsWith_mono (fun _ => isTail_of_isDigitIn) hrest
      have hmarkDigit : isDigit mark = false := by
        rcases hmark with rfl | rfl <;> decide
      have hfirst : scan ('0' :: mark :: (digits ++ rest)) =
          hexadecimal ['0', mark] (digits ++ rest) := by
        rw [scan, List.takeWhile_cons_of_pos (by decide), List.dropWhile_cons_of_pos (by decide),
          List.takeWhile_cons_of_neg (by simp [hmarkDigit]),
          List.dropWhile_cons_of_neg (by simp [hmarkDigit]), ofDigits, if_pos hmark]
      rw [List.cons_append, List.cons_append, hfirst, hexadecimal]
      simp only [takeWhile_of_ends hdigits hhex, dropWhile_of_ends hdigits hhex, hne, hrest]
      simp
  | @float whole fraction text hwhole hdigits hfraction htext =>
      have hwholeDigits : ∀ c ∈ whole, isDigit c = true :=
        fun c hc => hdigits c (List.mem_append_left _ hc)
      have hfractionDigits : ∀ c ∈ fraction, isDigit c = true :=
        fun c hc => hdigits c (List.mem_append_right _ hc)
      have hpoint : ∀ behind, beginsWith isDigit ('.' :: behind) = false := fun _ => rfl
      rw [List.append_assoc, List.cons_append, scan,
        takeWhile_of_ends hwholeDigits (hpoint _), dropWhile_of_ends hwholeDigits (hpoint _),
        ofDigits_point, float_append hwholeDigits ⟨hfraction, hfractionDigits⟩ hrest,
        inRange_eq_ok_iff.2 ⟨text, htext, rfl⟩]

/-! ## What is accepted -/

/-- The scan has accepted a numeral, and nothing that would go on with it follows. -/
structure Accepts (scan : Scan Lexeme) (lexeme : Lexeme) : Prop where
  denotes : Denotes scan.read lexeme
  ends : beginsWith isTail scan.rest = false

theorem accepts_hexadecimal {mark : Char} (hmark : mark = 'x' ∨ mark = 'X') {rest : List Char}
    {lexeme : Lexeme} (h : (hexadecimal ['0', mark] rest).verdict = .ok lexeme) :
    Accepts (hexadecimal ['0', mark] rest) lexeme := by
  simp only [hexadecimal] at h ⊢
  split at h
  · cases h
  · next hdigits =>
      obtain ⟨hne, hbehind⟩ := not_or.1 hdigits
      obtain rfl := Except.ok.inj h
      rw [if_neg hdigits]
      refine ⟨.hex hmark hne ?_, by simpa using hbehind⟩
      exact forall_mem_takeWhile _ _

theorem accepts_float {whole : List Char} (hwhole : whole ≠ [])
    (hdigits : ∀ c ∈ whole, isDigit c = true) {rest : List Char} {lexeme : Lexeme}
    (h : (float whole rest).verdict = .ok lexeme) : Accepts (float whole rest) lexeme := by
  have hfraction : ∀ c ∈ rest.takeWhile isDigit, isDigit c = true :=
    forall_mem_takeWhile _ _
  simp only [float] at h ⊢
  split at h
  · cases h
  · next hexponent =>
      split at h
      · cases h
      · next hends =>
          obtain ⟨hne, hbehind⟩ := not_or.1 hends
          simp only [floatVerdict_point hdigits ⟨hne, hfraction⟩] at h
          obtain ⟨text, htext, rfl⟩ := inRange_eq_ok_iff.1 h
          simp only [if_neg hends]
          refine ⟨.float hwhole ?_ hne htext, by simpa using hbehind⟩
          intro c hc
          rcases List.mem_append.1 hc with hc | hc
          · exact hdigits c hc
          · exact hfraction c hc

theorem accepts_integer {digits : List Char} (hne : digits ≠ [])
    (hdigits : ∀ c ∈ digits, isDigit c = true) (hzero : hasLeadingZero digits = false)
    {rest : List Char} (hpoint : ∀ behind, rest ≠ '.' :: behind) {lexeme : Lexeme}
    (h : (integer digits rest).verdict = .ok lexeme) : Accepts (integer digits rest) lexeme := by
  unfold integer at h ⊢
  split at h
  · cases h
  · next hexponent =>
      split at h
      · cases h
      · next hpart =>
          obtain rfl := Except.ok.inj h
          simp only [if_neg hpart]
          refine ⟨.decimal hne hdigits (hasLeadingZero_eq_false_iff.1 hzero), ?_⟩
          cases rest with
          | nil => rfl
          | cons c rest =>
              have hc : c ≠ '.' := fun h => hpoint rest (by rw [h])
              simpa [beginsWith, isTail, hc] using hpart

theorem accepts_unmarked {digits : List Char} (hne : digits ≠ [])
    (hdigits : ∀ c ∈ digits, isDigit c = true) {rest : List Char} {lexeme : Lexeme}
    (h : (unmarked digits rest).verdict = .ok lexeme) : Accepts (unmarked digits rest) lexeme := by
  unfold unmarked at h ⊢
  split at h
  · exact accepts_float hne hdigits h
  · next hpoint =>
      split at h
      · cases h
      · next hzero =>
          simp only [if_neg hzero]
          exact accepts_integer hne hdigits (by simpa using hzero)
            (fun behind hbehind => hpoint behind hbehind) h

/-- What is accepted is a numeral, up to where it ends. -/
theorem accepts_scan {c : Char} (hc : isDigit c = true) {text : List Char} {lexeme : Lexeme}
    (h : (scan (c :: text)).verdict = .ok lexeme) : Accepts (scan (c :: text)) lexeme := by
  have hne : (c :: text).takeWhile isDigit ≠ [] := by simp [hc]
  have hdigits : ∀ d ∈ (c :: text).takeWhile isDigit, isDigit d = true :=
    forall_mem_takeWhile _ _
  rw [scan] at h ⊢
  generalize (c :: text).takeWhile isDigit = digits at hne hdigits h ⊢
  generalize (c :: text).dropWhile isDigit = rest at h ⊢
  unfold ofDigits at h ⊢
  split at h
  · split at h
    · next hmark =>
        simp only [if_pos hmark]
        exact accepts_hexadecimal hmark h
    · split at h
      · cases h
      · split at h
        · cases h
        · next hmark hbinary hoctal =>
            simp only [if_neg hmark, if_neg hbinary, if_neg hoctal]
            exact accepts_unmarked hne hdigits h
  · exact accepts_unmarked hne hdigits h

end Numeral

end Lexis
