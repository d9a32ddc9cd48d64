import Lexis.Proofs.Lexeme.Lookahead.Basic
import Lexis.Proofs.Lexeme.Quotation

/-!
# How far quoted literals look ahead

One character behind a literal, all of it is known: whether its escapes are in order, where
it ends, and what is wrong with it.  `Quotation.looksAhead_escape` is the step over an
escape and `Quotation.looksAhead_spoilt` what becomes of a faulty one, which strings and
character literals share.
-/

namespace Lexis

open Scan (LooksAhead)

/-! ## Escapes -/

namespace Escape

theorem digits_looksAhead (base count : Nat) (admit? : Nat → Option Char) (fault : Fault)
    (text : List Char) : LooksAhead 1 (digits base count admit? fault) [] text := by
  refine ⟨_, rfl, fun other htake => ?_⟩
  simp only [digits, List.nil_append] at htake ⊢
  generalize hfound : (text.take count).takeWhile (isDigitIn base) = found at htake ⊢
  have hle : found.length ≤ count := by
    rw [← hfound]
    exact Nat.le_trans (List.takeWhile_prefix _).length_le (List.length_take_le _ _)
  have hbehind : (text.take count).dropWhile (isDigitIn base) =
      (text.drop found.length).take (count - found.length) := by
    have happend := List.takeWhile_append_dropWhile (p := isDigitIn base) (l := text.take count)
    rw [hfound] at happend
    rw [← List.drop_take]
    conv => rhs; rw [← happend, List.drop_left]
  have hrun : ((found ++ other).take count).takeWhile (isDigitIn base) = found := by
    rw [List.take_append, List.take_of_length_le hle]
    have hstop : ((text.take count).dropWhile (isDigitIn base)).take (0 + 1) =
        (other.take (count - found.length)).take (0 + 1) := by
      rw [hbehind, List.take_take, List.take_take, Nat.min_comm, ← List.take_take, htake,
        List.take_take]
    have hsame := takeWhile_of_head? (head?_congr hstop)
    rwa [hfound] at hsame
  rw [hrun, List.drop_left]

/-- Behind the backslash, an escape is known one character behind it. -/
theorem scan_looksAhead (text : List Char) : LooksAhead 1 scan [] text := by
  rcases text with _ | ⟨c, text⟩
  · exact .of_nil rfl
  by_cases hnewline : c = '\n'
  · subst hnewline
    exact .of_stop fun _ => rfl
  cases hletter : letter? c with
  | some value =>
      have heq : ∀ text, scan (c :: text) = ⟨[c], text, .ok value⟩ := by
        intro text
        simp [scan, hletter]
      exact .of_take heq
  | none =>
      cases hcount : digitCount? c with
      | some count =>
          refine (digits_looksAhead 16 count scalar? .unicodeEscape text).of_behind [c] ?_
          intro text
          simp [scan, hletter, hcount]
      | none =>
          by_cases hoctal : isOctalDigit c = true
          · have heq : ∀ text, scan (c :: text) = digits 8 3 byte? .octalEscape (c :: text) := by
              intro text
              simp [scan, hletter, hcount, hoctal]
            obtain ⟨taken, hread, hother⟩ := digits_looksAhead 8 3 byte? .octalEscape (c :: text)
            rw [← heq] at hread hother
            refine ⟨taken, hread, fun other htake => ?_⟩
            -- The digit itself is taken, or it is the next character.
            have hsplits : (scan (c :: text)).Splits ([] ++ c :: text) := scan_splits (c :: text)
            obtain ⟨behind, hbehind⟩ :=
              List.head?_eq_some_iff.1 (hsplits.head?_eq hread htake)
            rw [← hother other htake, hbehind, heq]
          · have heq : ∀ text, scan (c :: text) = ⟨[c], text, .error (.unknownEscape c)⟩ := by
              intro text
              simp [scan, hletter, hcount, hoctal, hnewline]
            exact .of_take heq

end Escape

/-! ## Quoted literals -/

namespace Quotation

/-- The rest of a faulty literal is known one character behind it. -/
theorem skipTail_of_take {quote : Char} (hquote : quote ≠ '\\') {text other : List Char}
    (h : (skipTail quote text).rest.take 1 = other.take 1) :
    skipTail quote ((skipTail quote text).read ++ other) =
      ⟨(skipTail quote text).read, other, (skipTail quote text).closed⟩ := by
  fun_induction skipTail quote text with
  | case1 =>
      rw [eq_nil_of_take h]
      rfl
  | case2 text =>
      obtain ⟨behind, rfl⟩ := List.head?_eq_some_iff.1 (head?_congr h)
      simp [skipTail]
  | case3 text =>
      obtain ⟨behind, rfl⟩ := List.head?_eq_some_iff.1 (head?_congr h)
      simp [skipTail]
  | case4 text c hc ih =>
      simp only [Tail.behind, List.cons_append, List.nil_append]
      rw [skipTail, ih h]
      · rfl
      · exact hc
  | case5 text hnewline hpair hescape =>
      rw [List.singleton_append, skipTail, if_pos rfl]
      · exact hnewline
      · exact fun _ hc => absurd hc hquote
      · exact fun _ _ hc => absurd hc hquote
  | case6 c text hnewline hpair hescape hc ih =>
      by_cases hbackslash : c = '\\'
      · -- A backslash is not followed by a character here, so the text ends.
        have hend : text = [] := by
          cases text with
          | nil => rfl
          | cons d text => exact (hescape d text hbackslash rfl).elim
        subst hbackslash hend
        rw [eq_nil_of_take h]
        simp [skipTail, Tail.behind, hc]
      · simp only [Tail.behind, List.nil_append, List.cons_append]
        rw [skipTail, if_neg hc, ih h]
        · rfl
        · exact hnewline
        · exact fun _ h => absurd h hbackslash
        · exact fun _ _ h => absurd h hbackslash

/-- So is a literal that is spoilt by an escape, and the escape with it. -/
theorem spoilt_of_take {quote : Char} (hquote : quote ≠ '\\') (unterminated fault : Fault)
    (α : Type) {text : List Char} (h : (Escape.scan text).verdict = .error fault) :
    ∃ taken, (spoilt quote unterminated fault text : Scan α).read = ['\\'] ++ taken ∧
      ∀ other, (spoilt quote unterminated fault text : Scan α).rest.take 1 = other.take 1 →
        (Escape.scan (taken ++ other)).verdict = .error fault ∧
        (spoilt quote unterminated fault (taken ++ other) : Scan α) =
          ⟨['\\'] ++ taken, other, (spoilt quote unterminated fault text : Scan α).verdict⟩ := by
  rcases text with _ | ⟨c, text⟩
  · refine ⟨[], rfl, fun other htake => ?_⟩
    rw [eq_nil_of_take htake]
    exact ⟨h, rfl⟩
  by_cases hnewline : c = '\n'
  · subst hnewline
    refine ⟨[], rfl, fun other htake => ?_⟩
    obtain ⟨behind, rfl⟩ := List.head?_eq_some_iff.1 (head?_congr htake)
    exact ⟨h, rfl⟩
  obtain ⟨escape, hescape, hscan⟩ := Escape.scan_looksAhead (c :: text)
  have htail := skipTail_append quote (Escape.scan (c :: text)).rest
  have hread : (spoilt quote unterminated fault (c :: text) : Scan α).read =
      ['\\'] ++ (escape ++ (skipTail quote (Escape.scan (c :: text)).rest).read) := by
    rw [spoilt_cons _ _ hnewline, hescape]
    rfl
  refine ⟨escape ++ (skipTail quote (Escape.scan (c :: text)).rest).read, hread,
    fun other htake => ?_⟩
  have hsplits : (spoilt quote unterminated fault (c :: text) : Scan α).Splits
      (['\\'] ++ c :: text) := spoilt_splits _ _ _ _
  obtain ⟨behind, hbehind⟩ := List.head?_eq_some_iff.1 (hsplits.head?_eq hread htake)
  rw [spoilt_cons _ _ hnewline] at htake ⊢
  -- The tail begins as the text behind the escape does, and so the escape is the same.
  have hother : (Escape.scan (c :: text)).rest.take 1 =
      ((skipTail quote (Escape.scan (c :: text)).rest).read ++ other).take 1 := by
    conv => lhs; rw [← htail]
    exact take_append_congr htake (by omega)
  have hscanned := hscan _ hother
  rw [← List.append_assoc, hbehind] at hscanned
  rw [hbehind, spoilt_cons _ _ hnewline, hscanned]
  simp only [skipTail_of_take hquote htake]
  exact ⟨h, rfl⟩

section Escape

variable {α : Type} {quote : Char} {unterminated : Fault} {f : List Char → Scan α}

/-- A literal that goes on behind an escape is known one character behind it, if it is so
from there. -/
theorem looksAhead_escape {text : List Char} {c : Char}
    (hverdict : (Escape.scan text).verdict = .ok c) {go : List Char → Scan α}
    (hf : ∀ text, (Escape.scan text).verdict = .ok c →
      f ('\\' :: text) = (go (Escape.scan text).rest).behind ('\\' :: (Escape.scan text).read))
    (hgo : LooksAhead 1 go [] (Escape.scan text).rest) : LooksAhead 1 f [] ('\\' :: text) := by
  obtain ⟨taken, htaken, hother⟩ := hgo
  refine ⟨'\\' :: ((Escape.scan text).read ++ taken), ?_, fun other htake => ?_⟩
  · rw [hf text hverdict]
    simp [htaken]
  · rw [hf text hverdict] at htake ⊢
    have hscan := Escape.scan_append (Escape.denotes_of_scan hverdict) (taken ++ other)
    rw [List.cons_append, List.append_assoc, hf _ (by rw [hscan]), hscan]
    simp only [hother other htake]
    simp [Scan.behind]

/-- A literal that an escape spoils is known one character behind it. -/
theorem looksAhead_spoilt (hquote : quote ≠ '\\') {text : List Char} {fault : Fault}
    (hverdict : (Escape.scan text).verdict = .error fault)
    (hf : ∀ text, (Escape.scan text).verdict = .error fault →
      f ('\\' :: text) = spoilt quote unterminated fault text) :
    LooksAhead 1 f [] ('\\' :: text) := by
  obtain ⟨taken, htaken, hother⟩ := spoilt_of_take hquote unterminated fault α hverdict
  refine ⟨['\\'] ++ taken, by rw [hf text hverdict, htaken]; rfl, fun other htake => ?_⟩
  rw [hf text hverdict] at htake ⊢
  obtain ⟨hfault, hspoilt⟩ := hother other htake
  rw [List.append_assoc, List.singleton_append, hf _ hfault]
  exact hspoilt

end Escape

theorem interpreted_looksAhead (text : List Char) : LooksAhead 1 interpreted [] text := by
  have hdouble : '"' ≠ '\\' := by decide
  fun_induction interpreted text with
  | case1 => exact .of_nil (by rw [interpreted])
  | case2 text => exact .of_stop fun text => by rw [interpreted]
  | case3 text => exact .of_take fun text => by rw [interpreted]; rfl
  | case4 text escape c hverdict ih =>
      exact looksAhead_escape hverdict (fun text h => by rw [interpreted, h]) (ih.map (c :: ·))
  | case5 text escape fault hverdict =>
      exact looksAhead_spoilt hdouble hverdict fun text h => by rw [interpreted, h]
  | case6 c text hnewline hquote hescape ih =>
      refine (ih.map (c :: ·)).of_behind [c] fun text => ?_
      rw [List.singleton_append, interpreted]
      · exact hnewline
      · exact hquote
      · exact hescape

theorem raw_looksAhead (text : List Char) : LooksAhead 1 raw [] text := by
  induction text with
  | nil => exact .of_nil rfl
  | cons c text ih =>
      by_cases hc : c = '`'
      · exact .of_take fun text => by rw [raw, if_pos hc]; rfl
      · refine (ih.map (c :: ·)).of_behind [c] fun text => ?_
        rw [List.singleton_append, raw, if_neg hc]

theorem closeCharacter_of_head? (value : Char) {text : List Char} (h : text.head? ≠ some '\'') :
    closeCharacter value text =
      ⟨(skipTail '\'' text).read, (skipTail '\'' text).rest,
        .error (if (skipTail '\'' text).closed then .charTooLong else .unterminatedChar)⟩ := by
  rw [closeCharacter]
  rintro behind rfl
  exact h rfl

theorem closeCharacter_looksAhead (value : Char) (text : List Char) :
    LooksAhead 1 (closeCharacter value) [] text := by
  by_cases hhead : text.head? = some '\''
  · obtain ⟨behind, rfl⟩ := List.head?_eq_some_iff.1 hhead
    exact .of_take fun text => rfl
  · have hclose := closeCharacter_of_head? value hhead
    refine ⟨(skipTail '\'' text).read, by rw [hclose]; rfl, fun other htake => ?_⟩
    rw [hclose] at htake ⊢
    have hother : ((skipTail '\'' text).read ++ other).head? ≠ some '\'' := by
      rw [head?_append_congr htake, skipTail_append]
      exact hhead
    rw [closeCharacter_of_head? value hother, skipTail_of_take (by decide) htake]
    rfl

theorem character_looksAhead (text : List Char) : LooksAhead 1 character [] text := by
  have hsingle : '\'' ≠ '\\' := by decide
  fun_cases character text with
  | case1 => exact .of_nil rfl
  | case2 text => exact .of_stop fun text => rfl
  | case3 text => exact .of_take fun text => rfl
  | case4 text escape c hverdict =>
      exact looksAhead_escape hverdict (fun text h => by rw [character, h])
        (closeCharacter_looksAhead c _)
  | case5 text escape fault hverdict =>
      exact looksAhead_spoilt hsingle hverdict fun text h => by rw [character, h]
  | case6 c text hnewline hquote hescape =>
      refine (closeCharacter_looksAhead c text).of_behind [c] fun text => ?_
      rw [List.singleton_append, character]
      · exact hnewline
      · exact hquote
      · exact hescape

end Quotation

end Lexis
