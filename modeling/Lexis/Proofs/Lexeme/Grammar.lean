import Lexis.Proofs.Lexeme.Numeral
import Lexis.Proofs.Lexer.Strings
import Lexis.Proofs.Symbol

/-!
# The grammar of lexemes

`Lexeme.Denotes` says how each lexeme is written, and `Lexeme.Ends` says what may follow it
without making it longer.  The scanner of lexemes is exact for the two.

* `scan_append` reads a lexeme off the head of any text that may follow it.
* `accepts_scan` is the converse: what is accepted is a lexeme, and it ends there.
* `ends_of_blank` and `Ends.of_append` are the two ways in which the rest of a text is
  changed later: something blank is put in its place, or it is cut off.
-/

namespace Lexis

open Quotation

/-! ## Character literals -/

namespace Quotation

/-- What stands between the quotes of a character literal, and what it stands for. -/
inductive Single : List Char → Char → Prop where
  /-- A character stands for itself. -/
  | plain {c : Char} (hquote : c ≠ '\'') (hbackslash : c ≠ '\\') (hnewline : c ≠ '\n') :
      Single [c] c
  /-- A backslash begins an escape. -/
  | escape {body : List Char} {c : Char} (h : Escape.Denotes body c) : Single ('\\' :: body) c

/-- The literal of one character and its closing quote is read off the head of any text. -/
theorem character_closed {body : List Char} {c : Char} (h : Single body c) (rest : List Char) :
    character (body ++ '\'' :: rest) = ⟨body ++ ['\''], rest, .ok c⟩ := by
  cases h with
  | plain hquote hbackslash hnewline =>
      rw [List.singleton_append, character]
      · rfl
      · exact hnewline
      · exact hquote
      · exact hbackslash
  | escape hdenotes =>
      rw [List.cons_append, character, Escape.scan_append hdenotes]
      rfl

theorem closeCharacter_ok {value c : Char} {text : List Char}
    (h : (closeCharacter value text).verdict = .ok c) :
    value = c ∧ ∃ rest, text = '\'' :: rest := by
  unfold closeCharacter at h
  split at h
  · exact ⟨Except.ok.inj h, _, rfl⟩
  · cases h

/-- What is accepted is one character and a closing quote. -/
theorem single_of_character {text : List Char} {c : Char} (h : (character text).verdict = .ok c) :
    ∃ body rest, Single body c ∧ text = body ++ '\'' :: rest := by
  fun_cases character text with
  | case1 => cases h
  | case2 => cases h
  | case3 => cases h
  | case4 text escape value hverdict =>
      rw [character, hverdict] at h
      obtain ⟨rfl, rest, hrest⟩ := closeCharacter_ok h
      refine ⟨_, rest, .escape (Escape.denotes_of_scan hverdict), ?_⟩
      rw [List.cons_append, ← hrest, Escape.scan_splits]
  | case5 text escape fault hverdict =>
      rw [character, hverdict] at h
      simp only [spoilt] at h
      split at h <;> cases h
  | case6 first text hnewline hquote hbackslash =>
      rw [character] at h
      · obtain ⟨rfl, rest, rfl⟩ := closeCharacter_ok h
        exact ⟨[first], rest, .plain hquote hbackslash hnewline, rfl⟩
      · exact hnewline
      · exact hquote
      · exact hbackslash

end Quotation

/-! ## The grammar -/

namespace Lexeme

/-- How lexemes are written. -/
inductive Denotes : List Char → Lexeme → Prop where
  | numeral {written : List Char} {lexeme : Lexeme} (h : Numeral.Denotes written lexeme) :
      Denotes written lexeme
  | interpreted (pieces : List Piece) : Denotes (quoted pieces) (.interpreted (meaning pieces))
  | raw {value : List Char} (h : '`' ∉ value) : Denotes (backticked value) (.raw value)
  | character {body : List Char} {c : Char} (h : Single body c) :
      Denotes ('\'' :: (body ++ ['\''])) (.character c)
  | symbol (symbol : Symbol) : Denotes symbol.spelling.toList (.symbol symbol)
  | word {c : Char} {text : List Char} (hstart : isIdentifierStart c = true)
      (hpart : ∀ d ∈ text, isIdentifierPart d = true) :
      Denotes (c :: text) (.word (c :: text))

/-- Whether `lexeme` ends where `rest` follows.  A quoted literal ends with its closing
quote, whatever follows; a symbol ends if none of its extensions is a symbol. -/
def Ends (lexeme : Lexeme) (rest : List Char) : Prop :=
  match lexeme with
  | .decimal _ | .hex _ | .float _ => beginsWith Numeral.isTail rest = false
  | .interpreted _ | .raw _ | .character _ => True
  | .symbol found => found.IsLongest (found.spelling.toList ++ rest)
  | .word _ => beginsWith isIdentifierPart rest = false

theorem ends_of_numeral {written : List Char} {lexeme : Lexeme}
    (h : Numeral.Denotes written lexeme) (rest : List Char) :
    lexeme.Ends rest ↔ beginsWith Numeral.isTail rest = false := by
  cases h <;> exact Iff.rfl

/-! ## The first character decides -/

theorem scan_of_isDigit {c : Char} (h : isDigit c = true) (text : List Char) :
    scan c text = Numeral.scan (c :: text) := by
  have hother : ∀ d : Char, isDigit d = false → c ≠ d := by
    rintro d hd rfl
    simp [hd] at h
  rw [scan, if_neg (hother _ (by decide)), if_neg (hother _ (by decide)),
    if_neg (hother _ (by decide)), if_pos h]

theorem scan_of_isIdentifierStart {c : Char} (h : isIdentifierStart c = true)
    (text : List Char) : scan c text = scanWord c text := by
  have hother : ∀ d : Char, isIdentifierStart d = false → c ≠ d := by
    rintro d hd rfl
    simp [hd] at h
  have hdigit : ¬ isDigit c = true := fun hdigit => by
    simp [isIdentifierStart_of_isDigit hdigit] at h
  rw [scan, if_neg (hother _ (by decide +kernel)), if_neg (hother _ (by decide +kernel)),
    if_neg (hother _ (by decide +kernel)), if_neg hdigit, if_pos h]

theorem scan_singleQuote (text : List Char) :
    scan '\'' text = ((Quotation.character text).map character).behind ['\''] := by
  rw [scan, if_neg (by decide), if_neg (by decide), if_pos rfl]

theorem scan_of_mem_spelling {symbol : Symbol} {c : Char} (h : c ∈ symbol.spelling.toList)
    (text : List Char) : scan c text = scanSymbol c text := by
  obtain ⟨_, hpart, hdouble, hback, hsingle⟩ := Symbol.of_mem_spelling h
  have hdigit : ¬ isDigit c = true := fun hdigit => by
    simp [isIdentifierPart_of_isDigitIn hdigit] at hpart
  have hstart : ¬ isIdentifierStart c = true := fun hstart => by
    simp [isIdentifierPart_of_isIdentifierStart hstart] at hpart
  rw [scan, if_neg hdouble, if_neg hback, if_neg hsingle, if_neg hdigit, if_neg hstart]

/-! ## Reading off what is written -/

/-- A lexeme is read off the head of any text that may follow it. -/
theorem scan_append {written rest : List Char} {lexeme : Lexeme} (h : Denotes written lexeme)
    (hrest : lexeme.Ends rest) {c : Char} {text : List Char} (htext : c :: text = written ++ rest) :
    scan c text = ⟨written, rest, .ok lexeme⟩ := by
  cases h with
  | numeral hnumeral =>
      have hdigit : isDigit c = true := by
        obtain ⟨first, tail, rfl, hfirst⟩ := hnumeral.exists_cons
        rw [List.cons_append, List.cons.injEq] at htext
        rw [htext.1]
        exact hfirst
      rw [scan_of_isDigit hdigit, htext]
      exact Numeral.scan_append hnumeral ((ends_of_numeral hnumeral rest).1 hrest)
  | interpreted pieces =>
      rw [quoted, List.cons_append, List.append_assoc, List.cons.injEq] at htext
      obtain ⟨rfl, rfl⟩ := htext
      exact scan_interpreted pieces rest
  | raw hvalue =>
      rw [backticked, List.cons_append, List.append_assoc, List.cons.injEq] at htext
      obtain ⟨rfl, rfl⟩ := htext
      exact scan_raw hvalue rest
  | character hsingle =>
      rw [List.cons_append, List.append_assoc, List.cons.injEq] at htext
      obtain ⟨rfl, rfl⟩ := htext
      rw [scan_singleQuote, List.singleton_append, character_closed hsingle]
      rfl
  | symbol symbol =>
      have hmem : c ∈ symbol.spelling.toList := by
        cases hspelling : symbol.spelling.toList with
        | nil => exact absurd hspelling symbol.spelling_ne_nil
        | cons d spelling =>
            rw [hspelling] at htext
            exact (List.cons.inj htext).1 ▸ List.mem_cons_self
      rw [scan_of_mem_spelling hmem, Symbol.scanSymbol_eq, htext,
        Symbol.longest?_eq_some_iff.2 hrest]
      simp only [← String.length_toList, List.take_left, List.drop_left]
  | @word first tail hstart hpart =>
      rw [List.cons_append, List.cons.injEq] at htext
      obtain ⟨rfl, rfl⟩ := htext
      rw [scan_of_isIdentifierStart hstart, scanWord_eq hstart, takeWhile_of_ends hpart hrest,
        dropWhile_of_ends hpart hrest]

/-! ## What is accepted -/

/-- The scan has accepted a lexeme, and nothing that would make it longer follows. -/
structure Accepts (scan : Scan Lexeme) (lexeme : Lexeme) : Prop where
  denotes : Denotes scan.read lexeme
  ends : lexeme.Ends scan.rest

theorem accepts_doubleQuote {text : List Char} {lexeme : Lexeme}
    (h : (scan '"' text).verdict = .ok lexeme) : Accepts (scan '"' text) lexeme := by
  rcases isDecided text with ⟨pieces, rest, rfl⟩ | ⟨pieces, rest, fault, rfl, hstops⟩
  · rw [scan_interpreted] at h ⊢
    obtain rfl := Except.ok.inj h
    exact ⟨.interpreted pieces, trivial⟩
  · rw [verdict_scan_stopped pieces hstops] at h
    cases h

theorem accepts_backtick {text : List Char} {lexeme : Lexeme}
    (h : (scan '`' text).verdict = .ok lexeme) : Accepts (scan '`' text) lexeme := by
  by_cases hmem : '`' ∈ text
  · obtain ⟨value, rest, rfl, hvalue⟩ := List.eq_append_cons_of_mem hmem
    rw [scan_raw hvalue] at h ⊢
    obtain rfl := Except.ok.inj h
    exact ⟨.raw hvalue, trivial⟩
  · rw [scan_raw_unclosed hmem] at h
    cases h

theorem accepts_singleQuote {text : List Char} {lexeme : Lexeme}
    (h : (scan '\'' text).verdict = .ok lexeme) : Accepts (scan '\'' text) lexeme := by
  rw [scan_singleQuote] at h
  cases hverdict : (Quotation.character text).verdict with
  | error fault =>
      rw [Scan.behind_verdict, (Scan.map_verdict_eq_error _).2 hverdict] at h
      cases h
  | ok c =>
      obtain ⟨body, rest, hsingle, rfl⟩ := single_of_character hverdict
      rw [character_closed hsingle] at h
      obtain rfl := Except.ok.inj h
      rw [scan_singleQuote, character_closed hsingle]
      exact ⟨.character hsingle, trivial⟩

theorem accepts_scanWord {c : Char} (hc : isIdentifierStart c = true) {text : List Char}
    {lexeme : Lexeme} (h : (scanWord c text).verdict = .ok lexeme) :
    Accepts (scanWord c text) lexeme := by
  rw [scanWord_eq hc] at h ⊢
  obtain rfl := Except.ok.inj h
  refine ⟨.word hc ?_, any_head?_dropWhile _ _⟩
  exact forall_mem_takeWhile _ _

theorem accepts_scanSymbol {c : Char} {text : List Char} {lexeme : Lexeme}
    (h : (scanSymbol c text).verdict = .ok lexeme) : Accepts (scanSymbol c text) lexeme := by
  cases hfound : Symbol.longest? (c :: text) with
  | none =>
      rw [Symbol.scanSymbol_eq, hfound] at h
      cases h
  | some longest =>
      rw [Symbol.scanSymbol_eq, hfound] at h ⊢
      obtain rfl := Except.ok.inj h
      have hlongest := Symbol.longest?_eq_some_iff.1 hfound
      have hread : (c :: text).take longest.spelling.length = longest.spelling.toList := by
        rw [← String.length_toList]
        exact (List.prefix_iff_eq_take.1 hlongest.isPrefix).symm
      refine ⟨?_, ?_⟩
      · simp only [hread]
        exact .symbol longest
      · show longest.IsLongest (longest.spelling.toList ++ (c :: text).drop longest.spelling.length)
        rw [← hread, List.take_append_drop]
        exact hlongest

/-- What is accepted is a lexeme, up to where it ends. -/
theorem accepts_scan {c : Char} {text : List Char} {lexeme : Lexeme}
    (h : (scan c text).verdict = .ok lexeme) : Accepts (scan c text) lexeme := by
  by_cases hdouble : c = '"'
  · subst hdouble
    exact accepts_doubleQuote h
  by_cases hback : c = '`'
  · subst hback
    exact accepts_backtick h
  by_cases hsingle : c = '\''
  · subst hsingle
    exact accepts_singleQuote h
  by_cases hdigit : isDigit c = true
  · rw [scan_of_isDigit hdigit] at h ⊢
    have haccepts := Numeral.accepts_scan hdigit h
    exact ⟨.numeral haccepts.denotes, (ends_of_numeral haccepts.denotes _).2 haccepts.ends⟩
  by_cases hstart : isIdentifierStart c = true
  · rw [scan_of_isIdentifierStart hstart] at h ⊢
    exact accepts_scanWord hstart h
  · rw [scan, if_neg hdouble, if_neg hback, if_neg hsingle, if_neg hdigit, if_neg hstart] at h ⊢
    exact accepts_scanSymbol h

/-! ## Other texts behind a lexeme -/

/-- A lexeme ends before white space, and at the end of the text. -/
theorem ends_of_blank (lexeme : Lexeme) {rest : List Char}
    (h : ∀ c ∈ rest.head?, isWhiteSpace c = true) : lexeme.Ends rest := by
  have hpart : beginsWith isIdentifierPart rest = false := by
    cases rest with
    | nil => rfl
    | cons c rest => simpa [beginsWith] using isIdentifierPart_of_isWhiteSpace (h c rfl)
  have htail : beginsWith Numeral.isTail rest = false := by
    cases rest with
    | nil => rfl
    | cons c rest =>
        have hpoint : c ≠ '.' := by
          rintro rfl
          exact absurd (h '.' rfl) (by decide)
        have hc : isIdentifierPart c = false := by simpa [beginsWith] using hpart
        simp [beginsWith, Numeral.isTail, hc, hpoint]
  cases lexeme with
  | decimal digits => exact htail
  | hex text => exact htail
  | float text => exact htail
  | interpreted value => exact trivial
  | raw value => exact trivial
  | character value => exact trivial
  | word word => exact hpart
  | symbol symbol =>
      refine ⟨List.prefix_append _ _, fun other hother => ?_⟩
      obtain ⟨tail, htail⟩ := hother
      rcases List.append_eq_append_iff.1 htail with ⟨less, hless, _⟩ | ⟨more, hmore, hrest⟩
      · rw [hless, List.length_append]
        omega
      · -- A longer symbol would have the first character of the rest in it.
        cases more with
        | nil => simp [hmore]
        | cons c more =>
            have hblank := h c (by rw [hrest]; rfl)
            have hmem : c ∈ other.spelling.toList := by simp [hmore]
            simp [(Symbol.of_mem_spelling hmem).1] at hblank

theorem beginsWith_of_append {p : Char → Bool} {text more : List Char}
    (h : beginsWith p (text ++ more) = false) : beginsWith p text = false := by
  cases text with
  | nil => rfl
  | cons c text => simpa [beginsWith] using h

/-- A lexeme ends where the text is cut off behind it. -/
theorem Ends.of_append {lexeme : Lexeme} {rest more : List Char}
    (h : lexeme.Ends (rest ++ more)) : lexeme.Ends rest := by
  cases lexeme with
  | decimal digits => exact beginsWith_of_append h
  | hex text => exact beginsWith_of_append h
  | float text => exact beginsWith_of_append h
  | interpreted value => exact trivial
  | raw value => exact trivial
  | character value => exact trivial
  | word word => exact beginsWith_of_append h
  | symbol symbol =>
      refine ⟨List.prefix_append _ _, fun other hother => h.longest other ?_⟩
      rw [← List.append_assoc]
      exact hother.trans (List.prefix_append _ _)

/-! ## The head of a lexeme -/

theorem Denotes.ne_nil {written : List Char} {lexeme : Lexeme} (h : Denotes written lexeme) :
    written ≠ [] := by
  cases h with
  | numeral hnumeral =>
      obtain ⟨c, text, rfl, _⟩ := hnumeral.exists_cons
      exact List.cons_ne_nil c text
  | interpreted pieces => exact List.cons_ne_nil _ _
  | raw hvalue => exact List.cons_ne_nil _ _
  | character hsingle => exact List.cons_ne_nil _ _
  | symbol symbol => exact symbol.spelling_ne_nil
  | word hstart hpart => exact List.cons_ne_nil _ _

theorem bare_cons {c : Char} (hblank : isWhiteSpace c = false) (hslash : c ≠ '/')
    (text : List Char) : Trivia.Bare (c :: text) := by
  refine ⟨?_, ?_, ?_⟩
  · intro d hd
    obtain rfl : c = d := by simpa using hd
    exact hblank
  · exact fun h => hslash (List.cons_prefix_cons.1 h).1.symm
  · exact fun h => hslash (List.cons_prefix_cons.1 h).1.symm

theorem bare_of_isIdentifierPart {c : Char} (h : isIdentifierPart c = true) (text : List Char) :
    Trivia.Bare (c :: text) := by
  refine bare_cons ?_ ?_ text
  · cases hblank : isWhiteSpace c with
    | false => rfl
    | true => simp [isIdentifierPart_of_isWhiteSpace hblank] at h
  · rintro rfl
    exact absurd h (by decide +kernel)

/-- A symbol before white space is no comment. -/
theorem bare_symbol (symbol : Symbol) {rest : List Char}
    (h : ∀ c ∈ rest.head?, isWhiteSpace c = true) :
    Trivia.Bare (symbol.spelling.toList ++ rest) := by
  have hspellings : ∀ symbol ∈ Symbol.all, ∀ mark ∈ [['/', '/'], ['/', '*']],
      ¬ mark <+: symbol.spelling.toList := by
    decide
  have hblank : ∀ mark ∈ [['/', '/'], ['/', '*']], (mark.all fun c => !isWhiteSpace c) = true := by
    decide
  have hmarks : ∀ mark ∈ [['/', '/'], ['/', '*']],
      ¬ mark <+: symbol.spelling.toList ++ rest := by
    rintro mark hmark ⟨tail, htail⟩
    have hno := hspellings symbol symbol.mem_all mark hmark
    rcases List.append_eq_append_iff.1 htail with ⟨less, hless, _⟩ | ⟨more, hmore, hrest⟩
    · exact hno (hless ▸ List.prefix_append _ _)
    · cases more with
      | nil => exact hno (by simp [hmore])
      | cons c more =>
          have hc := List.all_eq_true.1 (hblank mark hmark) c (by simp [hmore])
          simp [h c (by rw [hrest]; rfl)] at hc
  refine ⟨?_, hmarks _ (by simp), hmarks _ (by simp)⟩
  intro c hc
  obtain ⟨first, tail, hspelling⟩ := List.exists_cons_of_ne_nil symbol.spelling_ne_nil
  rw [hspelling] at hc
  obtain rfl : first = c := by simpa using hc
  have hmem : first ∈ symbol.spelling.toList := by simp [hspelling]
  exact (Symbol.of_mem_spelling hmem).1

/-- Neither trivia nor a comment begins where a lexeme stands before white space. -/
theorem Denotes.bare {written rest : List Char} {lexeme : Lexeme} (h : Denotes written lexeme)
    (hrest : ∀ c ∈ rest.head?, isWhiteSpace c = true) : Trivia.Bare (written ++ rest) := by
  cases h with
  | numeral hnumeral =>
      obtain ⟨c, text, rfl, hdigit⟩ := hnumeral.exists_cons
      exact bare_of_isIdentifierPart (isIdentifierPart_of_isDigitIn hdigit) _
  | interpreted pieces => exact bare_cons (by decide) (by decide) _
  | raw hvalue => exact bare_cons (by decide) (by decide) _
  | character hsingle => exact bare_cons (by decide) (by decide) _
  | symbol symbol => exact bare_symbol symbol hrest
  | word hstart hpart =>
      exact bare_of_isIdentifierPart (isIdentifierPart_of_isIdentifierStart hstart) _

end Lexeme

end Lexis
