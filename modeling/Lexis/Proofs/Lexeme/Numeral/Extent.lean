import Lexis.Proofs.Decimal.Notation
import Lexis.Proofs.Lexeme.Numeral

/-!
# How far a numeral reaches

A numeral takes the run of identifier characters and points from its first digit, whether it is
accepted or refused and wherever the scanner finds out.  One thing goes on behind the run: an
exponent whose mark ends it, with a sign and a digit behind.  `Numeral.Extent` says so without the
scanner.

* `BeginsExponent` says what an exponent is, and `exponent?_cases` reads off the parts of one that
  is found.
* `scan_of_denotes` and `denotes_of_verdict`: what is accepted is the run.
* `read_or_signed`: what is refused is the run, unless a signed exponent stands there.
* `scan_signed` reads what a signed exponent is part of, and `extent_scan` puts the two together.
-/

namespace Lexis

namespace Numeral

/-! ## Exponents -/

/-- The text begins with the mark of an exponent, perhaps a sign, and a digit. -/
inductive BeginsExponent : List Char → Prop where
  | plain {mark : Char} {digits : List Char} (hmark : isExponentMark mark = true)
      (hdigits : beginsWith isDigit digits = true) : BeginsExponent (mark :: digits)
  | signed {mark sign : Char} {digits : List Char} (hmark : isExponentMark mark = true)
      (hsign : isSign sign = true) (hdigits : beginsWith isDigit digits = true) :
      BeginsExponent (mark :: sign :: digits)

/-- A sign is no digit. -/
theorem isDigit_of_isSign {c : Char} (h : isSign c = true) : isDigit c = false := by
  have hsign : c = '+' ∨ c = '-' := by simpa [isSign] using h
  rcases hsign with rfl | rfl <;> rfl

/-- A sign ends a numeral. -/
theorem isTail_of_isSign {c : Char} (h : isSign c = true) : isTail c = false := by
  have hsign : c = '+' ∨ c = '-' := by simpa [isSign] using h
  rcases hsign with rfl | rfl <;> decide +kernel

theorem exponent?_plain {mark : Char} {digits : List Char} (hmark : isExponentMark mark = true)
    (hdigits : beginsWith isDigit digits = true) :
    exponent? (mark :: digits) = some ([mark], digits) := by
  cases digits with
  | nil => cases hdigits
  | cons digit digits =>
      have hdigit : isDigit digit = true := by simpa [beginsWith] using hdigits
      have hsign : isSign digit = false := by
        cases hsign : isSign digit with
        | false => rfl
        | true => simp [isDigit_of_isSign hsign] at hdigit
      simp [exponent?, hmark, hsign, hdigit]

theorem exponent?_signed {mark sign : Char} {digits : List Char}
    (hmark : isExponentMark mark = true) (hsign : isSign sign = true)
    (hdigits : beginsWith isDigit digits = true) :
    exponent? (mark :: sign :: digits) = some ([mark, sign], digits) := by
  simp [exponent?, hmark, hsign, hdigits]

/-- The parts of an exponent that is found. -/
theorem exponent?_cases {text taken digits : List Char}
    (h : exponent? text = some (taken, digits)) :
    beginsWith isDigit digits = true ∧ ∃ mark, isExponentMark mark = true ∧
      (taken = [mark] ∨ ∃ sign, isSign sign = true ∧ taken = [mark, sign]) := by
  fun_cases exponent? text with
  | case1 mark hmark sign behind hsign hdigits =>
      rw [exponent?_signed hmark hsign hdigits] at h
      obtain ⟨rfl, rfl⟩ := Prod.mk.inj (Option.some.inj h)
      exact ⟨hdigits, mark, hmark, .inr ⟨sign, hsign, rfl⟩⟩
  | case2 mark hmark sign behind hsign hdigits => simp [exponent?, hmark, hsign, hdigits] at h
  | case3 mark hmark digit behind hsign hdigit =>
      have hdigits : beginsWith isDigit (digit :: behind) = true := by simpa [beginsWith]
      rw [exponent?_plain hmark hdigits] at h
      obtain ⟨rfl, rfl⟩ := Prod.mk.inj (Option.some.inj h)
      exact ⟨hdigits, mark, hmark, .inl rfl⟩
  | case4 mark hmark digit behind hsign hdigit => simp [exponent?, hmark, hsign, hdigit] at h
  | case5 mark hmark => simp [exponent?, hmark] at h
  | case6 mark text hmark => simp [exponent?, hmark] at h
  | case7 => cases h

theorem beginsExponent_of_exponent? {text taken digits : List Char}
    (h : exponent? text = some (taken, digits)) : BeginsExponent text := by
  obtain ⟨hdigits, mark, hmark, rfl | ⟨sign, hsign, rfl⟩⟩ := exponent?_cases h
  · rw [← exponent?_append h]
    exact .plain hmark hdigits
  · rw [← exponent?_append h]
    exact .signed hmark hsign hdigits

theorem BeginsExponent.exists_exponent? {text : List Char} (h : BeginsExponent text) :
    ∃ taken digits, exponent? text = some (taken, digits) := by
  cases h with
  | plain hmark hdigits => exact ⟨_, _, exponent?_plain hmark hdigits⟩
  | signed hmark hsign hdigits => exact ⟨_, _, exponent?_signed hmark hsign hdigits⟩

/-! ## The run -/

/-- What a numeral is written in goes on with it. -/
theorem Denotes.isTail {written : List Char} {lexeme : Lexeme} (h : Denotes written lexeme) :
    ∀ c ∈ written, isTail c = true := by
  cases h with
  | decimal hne hdigits hzero => exact forall_isTail hdigits
  | hex hmark hne hdigits =>
      rw [List.forall_mem_cons, List.forall_mem_cons]
      refine ⟨by decide +kernel, ?_, forall_isTail hdigits⟩
      rcases hmark with rfl | rfl <;> decide +kernel
  | float hwhole hdigits hfraction htext =>
      rw [List.forall_mem_append] at hdigits
      rw [List.forall_mem_append, List.forall_mem_cons]
      exact ⟨forall_isTail hdigits.1, by decide +kernel,
        forall_isTail hdigits.2⟩

/-- A run that is a numeral is read off. -/
theorem scan_of_denotes {text : List Char} {lexeme : Lexeme}
    (h : Denotes (text.takeWhile isTail) lexeme) :
    scan text = ⟨text.takeWhile isTail, text.dropWhile isTail, .ok lexeme⟩ := by
  have hscan := scan_append h (any_head?_dropWhile isTail text)
  rwa [List.takeWhile_append_dropWhile] at hscan

/-- What is accepted is the run. -/
theorem denotes_of_verdict {c : Char} (hc : isDigit c = true) {text : List Char} {lexeme : Lexeme}
    (h : (scan (c :: text)).verdict = .ok lexeme) :
    Denotes ((c :: text).takeWhile isTail) lexeme := by
  obtain ⟨hdenotes, hends⟩ := accepts_scan hc h
  have hsplits : (scan (c :: text)).read ++ (scan (c :: text)).rest = c :: text :=
    scan_splits (c :: text)
  rw [← hsplits, takeWhile_of_ends hdenotes.isTail hends]
  exact hdenotes

/-- A refused numeral takes the rest of the run along. -/
theorem read_reject (fault : Fault) {taken : List Char} (h : ∀ c ∈ taken, isTail c = true)
    (rest : List Char) :
    (reject fault taken rest).read = (taken ++ rest).takeWhile isTail := by
  rw [List.takeWhile_append_of_pos h]
  rfl

/-! ## Signed exponents -/

/-- The mark of an exponent is no digit, no point and no mark of a base. -/
theorem of_isExponentMark {c : Char} (h : isExponentMark c = true) :
    isDigit c = false ∧ c ≠ '.' ∧ c ∉ baseMarks := by
  have hmark : c = 'e' ∨ c = 'E' := by simpa [isExponentMark] using h
  rcases hmark with rfl | rfl <;> decide

theorem unmarked_of_exponent {digits rest taken behind : List Char}
    (hzero : '0' ∈ digits.head? → digits = ['0'])
    (h : exponent? rest = some (taken, behind)) :
    ofDigits digits rest = reject (.unsupportedForm .exponent) (digits ++ taken) behind := by
  obtain ⟨_, mark, hmark, htaken⟩ := exponent?_cases h
  have hhead : rest.head? = some mark := by
    rw [← exponent?_append h]
    rcases htaken with rfl | ⟨sign, _, rfl⟩ <;> rfl
  obtain ⟨_, hpoint, hbase⟩ := of_isExponentMark hmark
  rw [ofDigits_of_head digits (by simpa [hhead] using hbase), unmarked,
    hasLeadingZero_eq_false_iff.2 hzero]
  · simp [integer, h]
  · rintro behind rfl
    exact hpoint (by simpa using hhead.symm)

theorem float_of_exponent {whole fraction rest taken behind : List Char}
    (hfraction : ∀ c ∈ fraction, isDigit c = true)
    (h : exponent? rest = some (taken, behind)) :
    ofDigits whole ('.' :: (fraction ++ rest)) =
      reject (if fraction = [] then .malformedFloat else .unsupportedForm .exponent)
        (whole ++ '.' :: fraction ++ taken) behind := by
  obtain ⟨_, mark, hmark, htaken⟩ := exponent?_cases h
  have hhead : rest.head? = some mark := by
    rw [← exponent?_append h]
    rcases htaken with rfl | ⟨sign, _, rfl⟩ <;> rfl
  have hends : rest.head?.any isDigit = false := by
    simpa [hhead] using (of_isExponentMark hmark).1
  rw [ofDigits_point, float]
  simp only [takeWhile_of_ends hfraction hends, dropWhile_of_ends hfraction hends, h]

/-- The text is an integer or what a float begins with, and the mark of an exponent behind it.
An integer with a redundant zero is refused before the mark is looked at. -/
inductive OpensExponent : List Char → Prop where
  | integer {digits : List Char} {mark : Char} (hdigits : IsDigits digits)
      (hzero : '0' ∈ digits.head? → digits = ['0']) (hmark : isExponentMark mark = true) :
      OpensExponent (digits ++ [mark])
  | float {whole fraction : List Char} {mark : Char} (hwhole : IsDigits whole)
      (hfraction : ∀ c ∈ fraction, isDigit c = true) (hmark : isExponentMark mark = true) :
      OpensExponent (whole ++ '.' :: (fraction ++ [mark]))

/-- The text begins with a sign and a digit. -/
inductive BeginsSigned : List Char → Prop where
  | intro {sign : Char} {digits : List Char} (hsign : isSign sign = true)
      (hdigits : beginsWith isDigit digits = true) : BeginsSigned (sign :: digits)

/-- The run at the head of the text ends in the mark of an exponent that a sign goes on with. -/
structure IsSigned (text : List Char) : Prop where
  opens : OpensExponent (text.takeWhile isTail)
  signed : BeginsSigned (text.dropWhile isTail)

/-- What a numeral at the head of `text` takes: the run, and with a signed exponent the sign and
the run behind it. -/
inductive Extent (text : List Char) : List Char → Prop where
  | run (h : ¬ IsSigned text) : Extent text (text.takeWhile isTail)
  | signed {sign : Char} {digits : List Char} (h : IsSigned text)
      (hbehind : text.dropWhile isTail = sign :: digits) :
      Extent text (text.takeWhile isTail ++ sign :: digits.takeWhile isTail)

theorem OpensExponent.isTail {opening : List Char} (h : OpensExponent opening) :
    ∀ c ∈ opening, isTail c = true := by
  cases h with
  | integer hdigits hzero hmark =>
      rw [List.forall_mem_append, List.forall_mem_singleton]
      exact ⟨forall_isTail hdigits.isDigit,
        isTail_of_isIdentifierPart (isIdentifierPart_of_isExponentMark hmark)⟩
  | float hwhole hfraction hmark =>
      rw [List.forall_mem_append, List.forall_mem_cons, List.forall_mem_append,
        List.forall_mem_singleton]
      exact ⟨forall_isTail hwhole.isDigit, by decide +kernel,
        forall_isTail hfraction,
        isTail_of_isIdentifierPart (isIdentifierPart_of_isExponentMark hmark)⟩

/-- A sign behind the mark ends the run. -/
theorem isSigned_append {opening : List Char} (h : OpensExponent opening) {sign : Char}
    {digits : List Char} (hsign : isSign sign = true)
    (hdigits : beginsWith isDigit digits = true) : IsSigned (opening ++ sign :: digits) := by
  have hends : (sign :: digits).head?.any Numeral.isTail = false := by
    simpa using isTail_of_isSign hsign
  refine ⟨?_, ?_⟩
  · rwa [takeWhile_of_ends h.isTail hends]
  · rw [dropWhile_of_ends h.isTail hends]
    exact .intro hsign hdigits

/-- A signed exponent is taken with what it is part of. -/
theorem scan_signed {opening : List Char} (h : OpensExponent opening) {sign : Char}
    {digits : List Char} (hsign : isSign sign = true)
    (hdigits : beginsWith isDigit digits = true) :
    ∃ fault, scan (opening ++ sign :: digits) = reject fault (opening ++ [sign]) digits := by
  cases h with
  | @integer first mark hfirst hzero hmark =>
      have hexponent := exponent?_signed hmark hsign hdigits
      have hends : (mark :: sign :: digits).head?.any isDigit = false := by
        simpa using (of_isExponentMark hmark).1
      refine ⟨.unsupportedForm .exponent, ?_⟩
      rw [List.append_assoc, List.singleton_append, scan,
        takeWhile_of_ends hfirst.isDigit hends, dropWhile_of_ends hfirst.isDigit hends,
        unmarked_of_exponent hzero hexponent]
      simp
  | @float whole fraction mark hwhole hfraction hmark =>
      have hexponent := exponent?_signed hmark hsign hdigits
      have hends : ('.' :: (fraction ++ mark :: sign :: digits)).head?.any isDigit = false := rfl
      refine ⟨if fraction = [] then .malformedFloat else .unsupportedForm .exponent, ?_⟩
      rw [List.append_assoc, List.cons_append, List.append_assoc, List.singleton_append, scan,
        takeWhile_of_ends hwhole.isDigit hends, dropWhile_of_ends hwhole.isDigit hends,
        float_of_exponent hfraction hexponent]
      simp

/-! ## What is taken -/

section Read

variable {digits rest : List Char}

theorem read_hexadecimal {taken : List Char} (h : ∀ c ∈ taken, isTail c = true)
    (rest : List Char) : (hexadecimal taken rest).read = (taken ++ rest).takeWhile isTail := by
  have hdigits : ∀ c ∈ taken ++ rest.takeWhile isHexDigit, isTail c = true := by
    rw [List.forall_mem_append]
    exact ⟨h, forall_isTail (forall_mem_takeWhile _ _)⟩
  have htext : taken ++ rest.takeWhile isHexDigit ++ rest.dropWhile isHexDigit =
      taken ++ rest := by
    rw [List.append_assoc, List.takeWhile_append_dropWhile]
  simp only [hexadecimal]
  split
  · rw [read_reject _ hdigits, htext]
  · next hends =>
      have hbehind : beginsWith isTail (rest.dropWhile isHexDigit) = false := by
        simpa using (not_or.1 hends).2
      rw [← htext, takeWhile_of_ends hdigits hbehind]

/-- An exponent without a sign belongs to the run. -/
theorem read_exponent {taken behind : List Char} (fault : Fault)
    (h : exponent? rest = some (taken, behind))
    (hopens : ∀ mark, isExponentMark mark = true → OpensExponent (digits ++ [mark])) :
    (reject fault (digits ++ taken) behind).read = (digits ++ rest).takeWhile isTail ∨
      IsSigned (digits ++ rest) := by
  obtain ⟨hbehind, mark, hmark, rfl | ⟨sign, hsign, rfl⟩⟩ := exponent?_cases h
  · left
    have htaken : ∀ c ∈ digits ++ [mark], isTail c = true := (hopens mark hmark).isTail
    rw [read_reject fault htaken, List.append_assoc, exponent?_append h]
  · right
    have hsigned := isSigned_append (hopens mark hmark) hsign hbehind
    have htext : [mark, sign] ++ behind = rest := exponent?_append h
    rw [List.append_assoc] at hsigned
    rw [← htext]
    exact hsigned

theorem read_or_signed_integer (hdigits : IsDigits digits)
    (hzero : '0' ∈ digits.head? → digits = ['0']) (hpoint : '.' ∉ rest.head?) :
    (integer digits rest).read = (digits ++ rest).takeWhile isTail ∨
      IsSigned (digits ++ rest) := by
  have htail : ∀ c ∈ digits, isTail c = true :=
    forall_isTail hdigits.isDigit
  unfold integer
  split
  · next taken behind hexponent =>
      exact read_exponent _ hexponent fun mark hmark => .integer hdigits hzero hmark
  · split
    · exact .inl (read_reject _ htail rest)
    · next hpart =>
        left
        have hends : beginsWith isTail rest = false := by
          cases rest with
          | nil => rfl
          | cons c rest =>
              have hc : c ≠ '.' := fun h => hpoint (by rw [h]; rfl)
              simpa [beginsWith, isTail, hc] using hpart
        rw [takeWhile_of_ends htail hends]

theorem read_or_signed_float (hdigits : IsDigits digits) (rest : List Char) :
    (float digits rest).read = (digits ++ '.' :: rest).takeWhile isTail ∨
      IsSigned (digits ++ '.' :: rest) := by
  have hfraction : ∀ c ∈ rest.takeWhile isDigit, isDigit c = true :=
    forall_mem_takeWhile _ _
  have htail : ∀ c ∈ digits ++ '.' :: rest.takeWhile isDigit, isTail c = true := by
    rw [List.forall_mem_append, List.forall_mem_cons]
    exact ⟨forall_isTail hdigits.isDigit, by decide +kernel,
      forall_isTail hfraction⟩
  have htext : digits ++ '.' :: rest.takeWhile isDigit ++ rest.dropWhile isDigit =
      digits ++ '.' :: rest := by
    rw [List.append_assoc, List.cons_append, List.takeWhile_append_dropWhile]
  simp only [float]
  split
  · next taken behind hexponent =>
      rw [← htext]
      refine read_exponent _ hexponent fun mark hmark => ?_
      rw [List.append_assoc, List.cons_append]
      exact .float hdigits hfraction hmark
  · left
    split
    · rw [read_reject _ htail, htext]
    · next hends =>
        have hbehind : beginsWith isTail (rest.dropWhile isDigit) = false := by
          simpa using (not_or.1 hends).2
        rw [← htext, takeWhile_of_ends htail hbehind]

theorem read_or_signed_unmarked (hdigits : IsDigits digits) (rest : List Char) :
    (unmarked digits rest).read = (digits ++ rest).takeWhile isTail ∨
      IsSigned (digits ++ rest) := by
  unfold unmarked
  split
  · exact read_or_signed_float hdigits _
  · next hpoint =>
      split
      · exact .inl (read_reject _ (forall_isTail hdigits.isDigit) rest)
      · next hzero =>
          have hplain : hasLeadingZero digits = false := by simpa using hzero
          refine read_or_signed_integer hdigits (hasLeadingZero_eq_false_iff.1 hplain) ?_
          intro hhead
          obtain ⟨behind, hbehind⟩ := List.head?_eq_some_iff.1 hhead
          exact hpoint behind hbehind

theorem read_or_signed_ofDigits (hdigits : IsDigits digits) (rest : List Char) :
    (ofDigits digits rest).read = (digits ++ rest).takeWhile isTail ∨
      IsSigned (digits ++ rest) := by
  have hzero : ∀ c ∈ ['0'], isTail c = true := by
    rw [List.forall_mem_singleton]
    decide +kernel
  fun_cases ofDigits digits rest with
  | case1 mark rest hmark =>
      have htaken : ∀ c ∈ ['0', mark], isTail c = true := by
        rw [List.forall_mem_cons, List.forall_mem_singleton]
        rcases hmark with rfl | rfl <;> exact ⟨by decide +kernel, by decide +kernel⟩
      exact .inl (read_hexadecimal htaken rest)
  | case2 mark rest hmark hbinary => exact .inl (read_reject _ hzero _)
  | case3 mark rest hmark hbinary hoctal => exact .inl (read_reject _ hzero _)
  | case4 mark rest hmark hbinary hoctal => exact read_or_signed_unmarked hdigits _
  | case5 digits rest hplain => exact read_or_signed_unmarked hdigits rest

end Read

/-- The digits at the head of a text that begins with one. -/
theorem isDigits_takeWhile {c : Char} (hc : isDigit c = true) (text : List Char) :
    IsDigits ((c :: text).takeWhile isDigit) where
  ne_nil := by simp [hc]
  isDigit := forall_mem_takeWhile _ _

theorem read_or_signed {c : Char} (hc : isDigit c = true) (text : List Char) :
    (scan (c :: text)).read = (c :: text).takeWhile isTail ∨ IsSigned (c :: text) := by
  have hread := read_or_signed_ofDigits (isDigits_takeWhile hc text)
    ((c :: text).dropWhile isDigit)
  rwa [List.takeWhile_append_dropWhile] at hread

/-- A numeral takes its extent, and nothing that would go on with it follows. -/
theorem extent_scan {c : Char} (hc : isDigit c = true) (text : List Char) :
    Extent (c :: text) (scan (c :: text)).read ∧
      beginsWith isTail (scan (c :: text)).rest = false := by
  have htext : (c :: text).takeWhile isTail ++ (c :: text).dropWhile isTail = c :: text :=
    List.takeWhile_append_dropWhile
  by_cases hsigned : IsSigned (c :: text)
  · obtain ⟨hopens, hbegins⟩ := hsigned
    cases hbehind : (c :: text).dropWhile isTail with
    | nil => rw [hbehind] at hbegins; cases hbegins
    | cons sign digits =>
        rw [hbehind] at hbegins htext
        cases hbegins with
        | intro hsign hdigits =>
            obtain ⟨fault, hscan⟩ := scan_signed hopens hsign hdigits
            rw [htext] at hscan
            have hextent := Extent.signed ⟨hopens, hbehind ▸ .intro hsign hdigits⟩ hbehind
            rw [hscan]
            refine ⟨?_, any_head?_dropWhile _ _⟩
            simpa [reject] using hextent
  · have hread := (read_or_signed hc text).resolve_right hsigned
    have hsplits : (scan (c :: text)).read ++ (scan (c :: text)).rest = c :: text :=
      scan_splits (c :: text)
    rw [hread] at hsplits ⊢
    have hrest := List.append_cancel_left (hsplits.trans htext.symm)
    refine ⟨.run hsigned, ?_⟩
    rw [hrest]
    exact any_head?_dropWhile _ _

end Numeral

end Lexis
