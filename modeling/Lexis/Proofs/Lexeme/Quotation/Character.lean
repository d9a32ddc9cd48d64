import Lexis.Proofs.Lexeme.Fault
import Lexis.Proofs.Lexeme.Grammar
import Lexis.Proofs.Lexeme.Quotation.Extent

/-!
# Character literals and their faults

Behind its opening quote a character literal is one character and a closing quote, or it has one of
four faults.  `Quotation.Judges` lists the literals that are closed in one way or another and those
whose escape is out of order, apart from how they are read, and `Quotation.JudgedAs` adds the fault
that is left for all other texts.

* `verdict_of_judges`: what is judged is the verdict.
* `judges_or_unterminated` is the converse: every verdict is judged or left over.
* `verdict_character_iff` puts the two together.
* `Lexeme.unknownEscape_of_scan` says which escapes are unknown, in strings and in characters.
-/

namespace Lexis

/-! ## Unknown escapes -/

namespace Escape

/-- No escape stands at the head of the text. -/
def NoneAt (text : List Char) : Prop :=
  ∀ body value, Denotes body value → ¬ body <+: text

/-- The characters that an escape begins with, behind its backslash. -/
def triggers : List Char :=
  ['n', 't', '\\', '"', '\'', 'u', 'U', '0', '1', '2', '3', '4', '5', '6', '7']

theorem mem_triggers_iff {c : Char} :
    c ∈ triggers ↔
      (∃ value, (c, value) ∈ letters) ∨ (c = 'u' ∨ c = 'U') ∨ isOctalDigit c = true := by
  have hletter : (∃ value, (c, value) ∈ letters) ↔ c ∈ letters.map Prod.fst := by simp
  rw [hletter]
  constructor
  · have hall : (triggers.all fun d => decide
        (d ∈ letters.map Prod.fst ∨ (d = 'u' ∨ d = 'U') ∨ isOctalDigit d = true)) = true := by
      decide +kernel
    intro h
    exact of_decide_eq_true (List.all_eq_true.1 hall c h)
  · rintro (hmem | (rfl | rfl) | hdigit)
    · have hall : ((letters.map Prod.fst).all fun d => decide (d ∈ triggers)) = true := by
        decide +kernel
      exact of_decide_eq_true (List.all_eq_true.1 hall c hmem)
    · decide
    · decide
    · have hall : (hexDigits.all fun d =>
          decide (isOctalDigit d = true → d ∈ triggers)) = true := by
        decide +kernel
      exact of_decide_eq_true (List.all_eq_true.1 hall c (mem_hexDigits_of_isDigitIn hdigit)) hdigit

/-- What begins with a trigger is no unknown escape. -/
theorem eq_of_unknownEscape {first c : Char} {text : List Char} (hnone : NoneAt (first :: text))
    (h : faultOf first = .unknownEscape c) : first = c ∧ c ∉ triggers := by
  unfold faultOf at h
  split at h
  · cases h
  · next hmark =>
      split at h
      · cases h
      · next hdigit =>
          obtain rfl : first = c := Fault.unknownEscape.inj h
          refine ⟨rfl, ?_⟩
          rw [mem_triggers_iff]
          rintro (⟨value, hmem⟩ | hmark' | hdigit')
          · exact hnone _ value (.letter hmem) (by simp)
          · exact hmark hmark'
          · exact hdigit hdigit'

end Escape

namespace Quotation

/-! ## The forms of a character literal -/

/-- The verdicts that have a form of their own, by the text behind the opening quote. -/
inductive Judges : List Char → Except Fault Char → Prop where
  /-- One character and the closing quote. -/
  | closed {body rest : List Char} {c : Char} (h : Single body c) :
      Judges (body ++ '\'' :: rest) (.ok c)
  /-- The closing quote alone. -/
  | empty (rest : List Char) : Judges ('\'' :: rest) (.error .emptyChar)
  /-- A backslash on the line that begins no escape.  Whether a closing quote follows is not looked
  at. -/
  | escape {c : Char} {rest : List Char} (hnewline : c ≠ '\n') (h : Escape.NoneAt (c :: rest)) :
      Judges ('\\' :: c :: rest) (.error (Escape.faultOf c))
  /-- One character, and the closing quote further on. -/
  | tooLong {body more rest : List Char} {c : Char} (h : Single body c) (hne : more ≠ [])
      (hmore : Paired '\'' more) : Judges (body ++ (more ++ '\'' :: rest)) (.error .charTooLong)

/-- The verdict on the text behind the opening quote. -/
def JudgedAs (text : List Char) (verdict : Except Fault Char) : Prop :=
  Judges text verdict ∨ (∀ other, ¬ Judges text other) ∧ verdict = .error .unterminatedChar

/-- What is skipped is closed just if a quote comes behind what does not end the literal. -/
theorem closed_skipTail_iff {text : List Char} :
    (skipTail '\'' text).closed = true ↔
      ∃ more rest, Paired '\'' more ∧ text = more ++ '\'' :: rest := by
  have hquote : IsLineQuote '\'' := .inr rfl
  constructor
  · intro h
    have hextent := extent_skipTail '\'' text
    generalize skipTail '\'' text = tail at h hextent
    cases hextent with
    | closed hbody => exact ⟨_, _, hbody, rfl⟩
    | unclosed hbody hrest => cases h
    | backslash hbody hrest => cases h
  · rintro ⟨more, rest, hmore, rfl⟩
    rw [(skipTail_eq_iff hquote).2 (.closed hmore)]

/-- What does not end the literal does not begin with its quote. -/
theorem Paired.head?_append {quote : Char} (hquote : IsLineQuote quote) {more : List Char}
    (h : Paired quote more) (hne : more ≠ []) (rest : List Char) :
    (more ++ rest).head? ≠ some quote := by
  cases h with
  | nil => exact absurd rfl hne
  | plain hplain hbackslash hnewline htext => simpa using hplain
  | pair hnewline htext => simpa using hquote.ne_backslash.symm

/-- One character is read off the head of any text. -/
theorem character_single {body : List Char} {c : Char} (h : Single body c) (text : List Char) :
    character (body ++ text) = (closeCharacter c text).behind body := by
  cases h with
  | plain hquote hbackslash hnewline =>
      rw [List.singleton_append, character]
      · exact hnewline
      · exact hquote
      · exact hbackslash
  | escape hdenotes => rw [List.cons_append, character, Escape.scan_append hdenotes]

/-! ## What is judged is the verdict -/

theorem verdict_of_judges {text : List Char} {verdict : Except Fault Char}
    (h : Judges text verdict) : (character text).verdict = verdict := by
  cases h with
  | closed hsingle => rw [character_closed hsingle]
  | empty rest => rfl
  | escape hnewline hnone =>
      rw [character, Escape.scan_error_iff.2 ⟨rfl, hnone⟩]
      simp only
      rw [spoilt_cons _ _ hnewline]
  | @tooLong body more rest c hsingle hne hmore =>
      have hhead := hmore.head?_append (.inr rfl) hne ('\'' :: rest)
      have hclosed := closed_skipTail_iff.2 ⟨more, rest, hmore, rfl⟩
      rw [character_single hsingle, Scan.behind_verdict, closeCharacter]
      · simp only [hclosed, if_true]
      · intro behind hbehind
        exact hhead (by rw [hbehind]; rfl)

/-! ## Every verdict is judged or left over -/

theorem judges_or_unterminated_close {body : List Char} {c : Char} (h : Single body c)
    (text : List Char) :
    Judges (body ++ text) (closeCharacter c text).verdict ∨
      (closeCharacter c text).verdict = .error .unterminatedChar := by
  fun_cases closeCharacter c text with
  | case1 rest => exact .inl (.closed h)
  | case2 text hquote tail =>
      cases hclosed : tail.closed with
      | false => exact .inr rfl
      | true =>
          obtain ⟨more, rest, hmore, rfl⟩ := closed_skipTail_iff.1 hclosed
          have hne : more ≠ [] := by
            rintro rfl
            exact hquote rest rfl
          exact .inl (.tooLong h hne hmore)

theorem judges_or_unterminated (text : List Char) :
    Judges text (character text).verdict ∨
      (character text).verdict = .error .unterminatedChar := by
  fun_cases character text with
  | case1 => exact .inr rfl
  | case2 text => exact .inr rfl
  | case3 text => exact .inl (.empty text)
  | case4 text escape c hverdict =>
      have hsplits : escape.read ++ escape.rest = text := Escape.scan_splits text
      have hsingle : Single ('\\' :: escape.read) c := .escape (Escape.denotes_of_scan hverdict)
      have hclose := judges_or_unterminated_close hsingle escape.rest
      rwa [List.cons_append, hsplits] at hclose
  | case5 text escape fault hverdict =>
      cases text with
      | nil => exact .inr rfl
      | cons c text =>
          by_cases hnewline : c = '\n'
          · subst hnewline
            exact .inr rfl
          · obtain ⟨rfl, hnone⟩ := Escape.scan_error_iff.1 hverdict
            rw [spoilt_cons _ _ hnewline]
            exact .inl (.escape hnewline hnone)
  | case6 c text hnewline hquote hbackslash =>
      exact judges_or_unterminated_close (.plain hquote hbackslash hnewline) text

/-- An unclosed literal has no form. -/
theorem not_judges_unterminated (text : List Char) : ¬ Judges text (.error .unterminatedChar) := by
  intro h
  generalize hverdict : (Except.error Fault.unterminatedChar : Except Fault Char) = verdict at h
  cases h with
  | closed hsingle => cases hverdict
  | empty rest => cases hverdict
  | @escape c rest hnewline hnone =>
      have hescape : (Escape.faultOf c).isEscape = true := by
        unfold Escape.faultOf
        split
        · rfl
        · split <;> rfl
      rw [← Except.error.inj hverdict] at hescape
      cases hescape
  | tooLong hsingle hne hmore => cases hverdict

/-- The verdict on a character literal. -/
theorem verdict_character_iff {text : List Char} {verdict : Except Fault Char} :
    (character text).verdict = verdict ↔ JudgedAs text verdict := by
  constructor
  · rintro rfl
    rcases judges_or_unterminated text with hjudges | hleft
    · exact .inl hjudges
    · refine .inr ⟨?_, hleft⟩
      intro other hother
      have hsame := verdict_of_judges hother
      rw [hleft] at hsame
      exact not_judges_unterminated text (hsame ▸ hother)
  · rintro (hjudges | ⟨hnone, rfl⟩)
    · exact verdict_of_judges hjudges
    · exact (judges_or_unterminated text).resolve_left (hnone _)

end Quotation

open Quotation

namespace Lexeme

/-- The text of a quoted literal up to its first backslash that begins no escape: a string may have
pieces before it, a character has nothing. -/
inductive UpToEscape : Char → List Char → Prop where
  | string (pieces : List Piece) : UpToEscape '"' (spelling pieces)
  | character : UpToEscape '\'' []

/-- An escape that is unknown stands in a string or in a character, and it is the first that is out
of order. -/
theorem unknownEscape_of_scan {quote c : Char} {text : List Char}
    (h : (scan quote text).verdict = .error (.unknownEscape c)) :
    ∃ before rest, text = before ++ '\\' :: c :: rest ∧ UpToEscape quote before ∧
      Escape.NoneAt (c :: rest) ∧ c ≠ '\n' ∧ c ∉ Escape.triggers := by
  cases refused_of_scan h with
  | interpreted hdouble =>
      subst hdouble
      rcases isDecided text with ⟨pieces, rest, rfl⟩ | ⟨pieces, rest, fault, rfl, hstops⟩
      · rw [scan_interpreted] at h
        cases h
      · rw [verdict_scan_stopped pieces hstops] at h
        obtain rfl := Except.error.inj h
        generalize hfault : Fault.unknownEscape c = fault at hstops
        cases hstops with
        | atEnd => cases hfault
        | atNewline text => cases hfault
        | backslashAtEnd => cases hfault
        | backslashAtNewline text => cases hfault
        | escape hnewline hnone =>
            obtain ⟨rfl, htrigger⟩ := Escape.eq_of_unknownEscape hnone hfault.symm
            exact ⟨_, _, rfl, .string pieces, hnone, hnewline, htrigger⟩
  | character hsingle =>
      subst hsingle
      rw [scan_singleQuote, Scan.behind_verdict, Scan.map_verdict_eq_error] at h
      rcases verdict_character_iff.1 h with hjudges | ⟨_, hleft⟩
      · generalize hverdict : (Except.error (Fault.unknownEscape c) : Except Fault Char) = verdict
          at hjudges
        cases hjudges with
        | closed hbody => cases hverdict
        | empty rest => cases hverdict
        | escape hnewline hnone =>
            obtain ⟨rfl, htrigger⟩ :=
              Escape.eq_of_unknownEscape hnone (Except.error.inj hverdict).symm
            exact ⟨[], _, rfl, .character, hnone, hnewline, htrigger⟩
        | tooLong hbody hne hmore => cases hverdict
      · cases hleft
  | numeral hdigit hclass => cases hclass

end Lexeme

end Lexis
