import Lexis.Proofs.Lexeme.Numeral
import Lexis.Proofs.Lexeme.Quotation
import Lexis.Proofs.Symbol

/-!
# Lexemes at the end of a line

A scanner that runs into the end of a line does what it does at the end of the
text: no lexeme but the raw string goes on over a line feed, and every scanner
that looks ahead sees in a line feed what it sees in the end of the text.  So a
lexeme at the head of a text stays the same when a line feed and more text are
put behind that text.  Where no quote opens the lexeme, any white space does as
well as a line feed.

* `Escape.scan_before_blank`, `Numeral.scan_before_blank` and
  `Lexeme.scan_before_blank` say so of white space.
* `Quotation.interpreted_before_newline`, `Quotation.character_before_newline`
  and, for a raw string that is closed, `Quotation.raw_before_newline` say so of
  a line feed behind quoted literals.
* `Lexeme.scan_before_newline` is the law of all lexemes.
-/

namespace Lexis

/-! ## The classes of white space -/

theorem beginsWith_before {p : Char → Bool} {c : Char} (h : p c = false) (text more : List Char) :
    beginsWith p (text ++ c :: more) = beginsWith p text := by
  cases text with
  | nil => simp [beginsWith, h]
  | cons d text => simp [beginsWith]

section Blank

variable {blank : Char} (hblank : isWhiteSpace blank = true)

include hblank

theorem isDigitIn_of_isWhiteSpace (base : Nat) : isDigitIn base blank = false := by
  cases hdigit : isDigitIn base blank with
  | false => rfl
  | true =>
      have hpart := isIdentifierPart_of_isDigitIn hdigit
      simp [isIdentifierPart_of_isWhiteSpace hblank] at hpart

theorem isDigit_of_isWhiteSpace : isDigit blank = false :=
  isDigitIn_of_isWhiteSpace hblank 10

theorem isHexDigit_of_isWhiteSpace : isHexDigit blank = false :=
  isDigitIn_of_isWhiteSpace hblank 16

theorem ne_of_isWhiteSpace {c : Char} (hc : isWhiteSpace c = false) : blank ≠ c := by
  rintro rfl
  simp [hblank] at hc

theorem isTail_of_isWhiteSpace : Numeral.isTail blank = false := by
  have hpoint : blank ≠ '.' := ne_of_isWhiteSpace hblank (by decide)
  simp [Numeral.isTail, isIdentifierPart_of_isWhiteSpace hblank, hpoint]

theorem isSign_of_isWhiteSpace : Numeral.isSign blank = false := by
  have hplus : blank ≠ '+' := ne_of_isWhiteSpace hblank (by decide)
  have hminus : blank ≠ '-' := ne_of_isWhiteSpace hblank (by decide)
  simp [Numeral.isSign, hplus, hminus]

/-! ## Escapes -/

namespace Escape

theorem digits_before_blank (base count : Nat) (admit? : Nat → Option Char) (fault : Fault)
    (text more : List Char) :
    digits base count admit? fault (text ++ blank :: more) =
      (digits base count admit? fault text).followedBy (blank :: more) := by
  have hfound := takeWhile_take_before (isDigitIn_of_isWhiteSpace hblank base) count text more
  have hle : ((text.take count).takeWhile (isDigitIn base)).length ≤ text.length := by
    have htake := (List.takeWhile_prefix (isDigitIn base) (l := text.take count)).length_le
    rw [List.length_take] at htake
    omega
  simp only [digits, Scan.followedBy, hfound]
  rw [List.drop_append_of_le_length hle]

/-- An escape with something behind its backslash ends before white space. -/
theorem scan_before_blank (c : Char) (text more : List Char) :
    scan (c :: (text ++ blank :: more)) = (scan (c :: text)).followedBy (blank :: more) := by
  rw [scan, scan]
  split
  · rfl
  · rw [digits_before_blank hblank]
    rfl
  · split
    · rw [← List.cons_append, digits_before_blank hblank]
    · split <;> rfl

/-- An escape that is in order ends before white space. -/
theorem scan_before_blank_of_ok {text : List Char} {c : Char} (h : (scan text).verdict = .ok c)
    (more : List Char) : scan (text ++ blank :: more) = (scan text).followedBy (blank :: more) := by
  cases text with
  | nil => cases h
  | cons d text => exact scan_before_blank hblank d text more

end Escape

/-! ## Numerals -/

namespace Numeral

theorem reject_before_blank (fault : Fault) (read rest more : List Char) :
    reject fault read (rest ++ blank :: more) =
      (reject fault read rest).followedBy (blank :: more) := by
  have htail := isTail_of_isWhiteSpace hblank
  rw [reject, takeWhile_before htail, dropWhile_before htail]
  rfl

theorem exponent?_before_blank (text more : List Char) :
    exponent? (text ++ blank :: more) =
      (exponent? text).map fun (mark, behind) => (mark, behind ++ blank :: more) := by
  rcases text with _ | ⟨mark, _ | ⟨sign, behind⟩⟩
  · have hpart := isIdentifierPart_of_isWhiteSpace hblank
    rw [List.nil_append, exponent?_of_ends (by simpa [beginsWith] using hpart)]
    rfl
  · simp [exponent?, isSign_of_isWhiteSpace hblank, isDigit_of_isWhiteSpace hblank]
  · have hbegins := beginsWith_before (isDigit_of_isWhiteSpace hblank) behind more
    simp only [List.cons_append, exponent?, hbegins]
    repeat' split
    all_goals rfl

theorem hexadecimal_before_blank (read rest more : List Char) :
    hexadecimal read (rest ++ blank :: more) =
      (hexadecimal read rest).followedBy (blank :: more) := by
  have hdigit := isHexDigit_of_isWhiteSpace hblank
  simp only [hexadecimal, takeWhile_before hdigit, dropWhile_before hdigit,
    beginsWith_before (isTail_of_isWhiteSpace hblank)]
  split
  · exact reject_before_blank hblank _ _ _ _
  · rfl

theorem float_before_blank (whole rest more : List Char) :
    float whole (rest ++ blank :: more) = (float whole rest).followedBy (blank :: more) := by
  have hdigit := isDigit_of_isWhiteSpace hblank
  simp only [float, takeWhile_before hdigit, dropWhile_before hdigit,
    exponent?_before_blank hblank, beginsWith_before (isTail_of_isWhiteSpace hblank)]
  rcases exponent? (rest.dropWhile isDigit) with _ | ⟨mark, behind⟩
  · simp only [Option.map_none]
    split
    · exact reject_before_blank hblank _ _ _ _
    · rfl
  · exact reject_before_blank hblank _ _ _ _

theorem integer_before_blank (digits rest more : List Char) :
    integer digits (rest ++ blank :: more) = (integer digits rest).followedBy (blank :: more) := by
  simp only [integer, exponent?_before_blank hblank,
    beginsWith_before (isIdentifierPart_of_isWhiteSpace hblank)]
  rcases exponent? rest with _ | ⟨mark, behind⟩
  · simp only [Option.map_none]
    split
    · exact reject_before_blank hblank _ _ _ _
    · rfl
  · exact reject_before_blank hblank _ _ _ _

theorem unmarked_before_blank (digits rest more : List Char) :
    unmarked digits (rest ++ blank :: more) =
      (unmarked digits rest).followedBy (blank :: more) := by
  by_cases hpoint : ∃ behind, rest = '.' :: behind
  · obtain ⟨behind, rfl⟩ := hpoint
    rw [List.cons_append, unmarked, unmarked]
    exact float_before_blank hblank digits behind more
  · have hnone : ∀ behind, rest = '.' :: behind → False := fun behind h => hpoint ⟨behind, h⟩
    rw [unmarked, unmarked]
    · split
      · exact reject_before_blank hblank _ _ _ _
      · exact integer_before_blank hblank _ _ _
    · exact hnone
    · intro behind h
      cases rest with
      | nil => exact ne_of_isWhiteSpace hblank (by decide) (List.cons.inj h).1
      | cons c rest => exact hnone rest (by simp_all)

theorem ofDigits_before_blank (digits rest more : List Char) :
    ofDigits digits (rest ++ blank :: more) =
      (ofDigits digits rest).followedBy (blank :: more) := by
  have hunmarked := unmarked_before_blank hblank digits rest more
  fun_cases ofDigits digits rest with
  | case1 mark rest hmark =>
      rw [List.cons_append, ofDigits, if_pos hmark]
      exact hexadecimal_before_blank hblank _ _ _
  | case2 mark rest hmark hbinary =>
      rw [List.cons_append, ofDigits, if_neg hmark, if_pos hbinary]
      exact reject_before_blank hblank _ _ (mark :: rest) _
  | case3 mark rest hmark hbinary hoctal =>
      rw [List.cons_append, ofDigits, if_neg hmark, if_neg hbinary, if_pos hoctal]
      exact reject_before_blank hblank _ _ (mark :: rest) _
  | case4 mark rest hmark hbinary hoctal =>
      rw [List.cons_append, ofDigits, if_neg hmark, if_neg hbinary, if_neg hoctal]
      exact hunmarked
  | case5 digits rest hplain =>
      rcases rest with _ | ⟨mark, rest⟩
      · have hpart := isIdentifierPart_of_isWhiteSpace hblank
        rw [List.nil_append, ofDigits_of_ends _ (by simpa [beginsWith] using hpart)]
        exact hunmarked
      · rw [ofDigits]
        · exact hunmarked
        · exact fun _ _ hdigits _ => hplain _ _ hdigits rfl

/-- A numeral ends before white space. -/
theorem scan_before_blank (text more : List Char) :
    scan (text ++ blank :: more) = (scan text).followedBy (blank :: more) := by
  have hdigit := isDigit_of_isWhiteSpace hblank
  rw [scan, takeWhile_before hdigit, dropWhile_before hdigit]
  exact ofDigits_before_blank hblank _ _ _

end Numeral

/-! ## Symbols -/

namespace Symbol

/-- No symbol goes on over white space. -/
theorem ofSpelling?_of_blank_mem {text : List Char} (h : blank ∈ text) :
    ofSpelling? text = none := by
  cases hfound : ofSpelling? text with
  | none => rfl
  | some symbol =>
      rw [← ofSpelling?_eq_some_iff.1 hfound] at h
      simp [(of_mem_spelling h).1] at hblank

theorem longest?_before_blank (c : Char) (text more : List Char) :
    longest? (c :: (text ++ blank :: more)) = longest? (c :: text) := by
  rcases text with _ | ⟨d, _ | ⟨e, text⟩⟩
  · have hthree : ofSpelling? (c :: blank :: more.take 1) = none :=
      ofSpelling?_of_blank_mem hblank (by simp)
    have htwo : ofSpelling? [c, blank] = none := ofSpelling?_of_blank_mem hblank (by simp)
    simp [longest?, hthree, htwo]
  · have hthree : ofSpelling? [c, d, blank] = none := ofSpelling?_of_blank_mem hblank (by simp)
    simp only [List.cons_append, List.nil_append, longest?, List.take_succ_cons, List.take_zero,
      List.take_nil, hthree, Option.none_or]
    cases ofSpelling? [c, d] <;> rfl
  · rfl

end Symbol

/-! ## Lexemes without quotes -/

namespace Lexeme

theorem scanWord_before_blank (c : Char) (text more : List Char) :
    scanWord c (text ++ blank :: more) = (scanWord c text).followedBy (blank :: more) := by
  have hpart := isIdentifierPart_of_isWhiteSpace hblank
  simp only [scanWord, ← List.cons_append, takeWhile_before hpart, dropWhile_before hpart]
  rfl

theorem scanSymbol_before_blank (c : Char) (text more : List Char) :
    scanSymbol c (text ++ blank :: more) = (scanSymbol c text).followedBy (blank :: more) := by
  rw [Symbol.scanSymbol_eq, Symbol.scanSymbol_eq, Symbol.longest?_before_blank hblank]
  cases hlongest : Symbol.longest? (c :: text) with
  | none => rfl
  | some symbol =>
      have hle : symbol.spelling.length ≤ (c :: text).length :=
        (Symbol.longest?_eq_some_iff.1 hlongest).isPrefix.length_le
      simp only [Scan.followedBy, ← List.cons_append]
      rw [List.take_append_of_le_length hle, List.drop_append_of_le_length hle]

/-- A lexeme that no quote opens ends before white space. -/
theorem scan_before_blank {c : Char} (hdouble : c ≠ '"') (hback : c ≠ '`') (hsingle : c ≠ '\'')
    (text more : List Char) :
    scan c (text ++ blank :: more) = (scan c text).followedBy (blank :: more) := by
  rw [scan, if_neg hdouble, if_neg hback, if_neg hsingle, scan, if_neg hdouble, if_neg hback,
    if_neg hsingle]
  split
  · exact Numeral.scan_before_blank hblank (c :: text) more
  · split
    · exact scanWord_before_blank hblank c text more
    · exact scanSymbol_before_blank hblank c text more

end Lexeme

end Blank

/-! ## Quoted literals -/

namespace Quotation

/-- The same tail of a text with `more` behind it. -/
def Tail.followedBy (tail : Tail) (more : List Char) : Tail :=
  { tail with rest := tail.rest ++ more }

theorem skipTail_before_newline {quote : Char} (hquote : quote ≠ '\\') (text more : List Char) :
    skipTail quote (text ++ '\n' :: more) = (skipTail quote text).followedBy ('\n' :: more) := by
  fun_induction skipTail quote text with
  | case1 => simp [skipTail, Tail.followedBy]
  | case2 text => simp [skipTail, Tail.followedBy]
  | case3 text => simp [skipTail, Tail.followedBy]
  | case4 text c hc ih =>
      rw [List.cons_append, List.cons_append, skipTail, ih]
      · rfl
      · exact hc
  | case5 text hnewline hpair hescape =>
      rw [List.cons_append, skipTail, if_pos rfl]
      · rfl
      · exact hnewline
      · exact fun _ hc => absurd hc hquote
      · exact fun _ _ hc => absurd hc hquote
  | case6 c text hnewline hpair hescape hc ih =>
      by_cases hbackslash : c = '\\'
      · -- A backslash is not followed by a character here, so the text ends.
        have hend : text = [] := by
          cases text with
          | nil => rfl
          | cons d text => exact (hescape d text hbackslash rfl).elim
        subst hbackslash hend
        simp [skipTail, Tail.followedBy, Tail.behind]
      · rw [List.cons_append, skipTail, if_neg hc, ih]
        · rfl
        · exact hnewline
        · exact fun _ h => absurd h hbackslash
        · exact fun _ _ h => absurd h hbackslash

theorem spoilt_before_newline {quote : Char} (hquote : quote ≠ '\\')
    (unterminated fault : Fault) (c : Char) (text more : List Char) {α : Type} :
    (spoilt quote unterminated fault (c :: (text ++ '\n' :: more)) : Scan α) =
      (spoilt quote unterminated fault (c :: text)).followedBy ('\n' :: more) := by
  by_cases hc : c = '\n'
  · subst hc
    rfl
  · have htail := skipTail_before_newline hquote (Escape.scan (c :: text)).rest more
    rw [spoilt_cons _ _ hc, spoilt_cons _ _ hc, Escape.scan_before_blank isWhiteSpace_newline,
      Scan.followedBy_rest, htail]
    rfl

theorem interpreted_before_newline (text more : List Char) :
    interpreted (text ++ '\n' :: more) = (interpreted text).followedBy ('\n' :: more) := by
  fun_induction interpreted text with
  | case1 => simp [interpreted, Scan.followedBy]
  | case2 text => simp [interpreted, Scan.followedBy]
  | case3 text => simp [interpreted, Scan.followedBy]
  | case4 text escape c hverdict ih =>
      have hscan := Escape.scan_before_blank_of_ok isWhiteSpace_newline hverdict more
      have hok : (Escape.scan (text ++ '\n' :: more)).verdict = .ok c := by
        rw [hscan]
        exact hverdict
      rw [List.cons_append, interpreted, hok]
      simp only [hscan, Scan.followedBy_rest, Scan.followedBy_read]
      rw [ih]
      rfl
  | case5 text escape fault hverdict =>
      rcases text with _ | ⟨d, text⟩
      · rw [List.cons_append, List.nil_append, interpreted]
        rfl
      · have herror : (Escape.scan (d :: (text ++ '\n' :: more))).verdict = .error fault := by
          rw [Escape.scan_before_blank isWhiteSpace_newline]
          exact hverdict
        rw [List.cons_append, List.cons_append, interpreted, herror]
        exact spoilt_before_newline (by decide) _ _ _ _ _
  | case6 c text hnewline hquote hescape ih =>
      rw [List.cons_append, interpreted, ih]
      · rfl
      · exact hnewline
      · exact hquote
      · exact hescape

theorem raw_before_newline {text : List Char}
    (h : (raw text).verdict ≠ .error .unterminatedRawString) (more : List Char) :
    raw (text ++ '\n' :: more) = (raw text).followedBy ('\n' :: more) := by
  by_cases hmem : '`' ∈ text
  · obtain ⟨value, rest, rfl, hvalue⟩ := List.eq_append_cons_of_mem hmem
    rw [List.append_assoc, List.cons_append, raw_closed hvalue, raw_closed hvalue]
    rfl
  · rw [raw_unclosed hmem] at h
    exact absurd rfl h

theorem closeCharacter_before_newline (value : Char) (text more : List Char) :
    closeCharacter value (text ++ '\n' :: more) =
      (closeCharacter value text).followedBy ('\n' :: more) := by
  have hbackslash : '\'' ≠ '\\' := by decide
  have htail := skipTail_before_newline hbackslash text more
  by_cases hquote : ∃ behind, text = '\'' :: behind
  · obtain ⟨behind, rfl⟩ := hquote
    rfl
  · rw [closeCharacter, closeCharacter, htail]
    · rfl
    · exact fun behind h => hquote ⟨behind, h⟩
    · intro behind h
      cases text with
      | nil => simp at h
      | cons c text => exact hquote ⟨text, by simp_all⟩

theorem character_before_newline (text more : List Char) :
    character (text ++ '\n' :: more) = (character text).followedBy ('\n' :: more) := by
  fun_cases character text with
  | case1 => rfl
  | case2 text => rfl
  | case3 text => rfl
  | case4 text escape c hverdict =>
      have hscan := Escape.scan_before_blank_of_ok isWhiteSpace_newline hverdict more
      have hok : (Escape.scan (text ++ '\n' :: more)).verdict = .ok c := by
        rw [hscan]
        exact hverdict
      rw [List.cons_append, character, hok]
      simp only [hscan, Scan.followedBy_rest, Scan.followedBy_read]
      rw [closeCharacter_before_newline]
      rfl
  | case5 text escape fault hverdict =>
      rcases text with _ | ⟨d, text⟩
      · rfl
      · have herror : (Escape.scan (d :: (text ++ '\n' :: more))).verdict = .error fault := by
          rw [Escape.scan_before_blank isWhiteSpace_newline]
          exact hverdict
        rw [List.cons_append, List.cons_append, character, herror]
        exact spoilt_before_newline (by decide) _ _ _ _ _
  | case6 c text hnewline hquote hescape =>
      rw [List.cons_append, character, closeCharacter_before_newline]
      · rfl
      · exact hnewline
      · exact hquote
      · exact hescape

end Quotation

/-! ## All lexemes -/

namespace Lexeme

/-- A lexeme that is no raw string ends before a line feed. -/
theorem scan_before_newline_of_ne {c : Char} (hback : c ≠ '`') (text more : List Char) :
    scan c (text ++ '\n' :: more) = (scan c text).followedBy ('\n' :: more) := by
  by_cases hdouble : c = '"'
  · rw [scan, scan, if_pos hdouble, if_pos hdouble, Quotation.interpreted_before_newline]
    rfl
  by_cases hsingle : c = '\''
  · rw [scan, scan, if_neg hdouble, if_neg hback, if_pos hsingle, if_neg hdouble, if_neg hback,
      if_pos hsingle, Quotation.character_before_newline]
    rfl
  exact scan_before_blank isWhiteSpace_newline hdouble hback hsingle text more

/-- A lexeme ends before a line feed, unless it is a raw string that is not closed
before it. -/
theorem scan_before_newline {c : Char} {text : List Char}
    (h : (scan c text).verdict ≠ .error .unterminatedRawString) (more : List Char) :
    scan c (text ++ '\n' :: more) = (scan c text).followedBy ('\n' :: more) := by
  by_cases hback : c = '`'
  · subst hback
    have hraw : (Quotation.raw text).verdict ≠ .error .unterminatedRawString := by
      intro hverdict
      rw [scan, if_neg (by decide), if_pos rfl] at h
      exact h (by simp [hverdict])
    rw [scan, if_neg (by decide), if_pos rfl, scan, if_neg (by decide), if_pos rfl,
      Quotation.raw_before_newline hraw]
    rfl
  · exact scan_before_newline_of_ne hback text more

end Lexeme

end Lexis
