import Lexis.Proofs.Lexeme.Fault
import Lexis.Proofs.Text.Runs

/-!
# How far a quoted literal reaches

A literal on one line is taken up to its closing quote, or to the end of the line, whether it is
accepted or refused and wherever a fault is found.  `Quotation.Extent` says how far that is, without
looking at what is written in the literal: a backslash takes the character behind it along, and
nothing else counts.

* `skipTail_eq_iff` says that skipping a literal takes its extent, so that there is only one.
* `Scan.Covers` compares what a scan takes with what is skipped.  `interpreted_covers` and
  `character_covers` say that strings and characters take their extents as well.
-/

namespace Lexis

/-- A character behind a backslash is taken alone, or with digits behind it, whether they make an
escape or not. -/
theorem Escape.read_scan_cons {c : Char} (hc : c ≠ '\n') (text : List Char) :
    ∃ digits, (scan (c :: text)).read = c :: digits ∧ ∀ d ∈ digits, d ∈ hexDigits := by
  have hfound : ∀ base count text, ∀ d ∈ (List.take count text).takeWhile (isDigitIn base),
      d ∈ hexDigits :=
    fun base count text d hd => mem_hexDigits_of_isDigitIn (forall_mem_takeWhile _ _ d hd)
  rw [scan]
  split
  · exact ⟨[], rfl, by simp⟩
  · next count hletter hcount => exact ⟨_, rfl, hfound 16 count text⟩
  · split
    · next hoctal =>
        have htake : ((c :: text).take 3).takeWhile (isDigitIn 8) =
            c :: (text.take 2).takeWhile (isDigitIn 8) :=
          List.takeWhile_cons_of_pos hoctal
        exact ⟨_, htake, hfound 8 2 text⟩
    · exact ⟨[], rfl, by simp⟩

namespace Quotation

/-! ## The characters of a literal -/

/-- Characters of a literal that do not end it.  A backslash goes with the character behind it. -/
inductive Paired (quote : Char) : List Char → Prop where
  | nil : Paired quote []
  | plain {c : Char} {text : List Char} (hquote : c ≠ quote) (hbackslash : c ≠ '\\')
      (hnewline : c ≠ '\n') (htext : Paired quote text) : Paired quote (c :: text)
  | pair {c : Char} {text : List Char} (hnewline : c ≠ '\n') (htext : Paired quote text) :
      Paired quote ('\\' :: c :: text)

/-- How far a literal reaches behind its opening quote, and what is left: up to its closing quote,
to the end of the line, or to a backslash that the end of the line is right behind. -/
inductive Extent (quote : Char) : List Char → Tail → Prop where
  | closed {body rest : List Char} (hbody : Paired quote body) :
      Extent quote (body ++ quote :: rest) ⟨body ++ [quote], rest, true⟩
  | unclosed {body rest : List Char} (hbody : Paired quote body)
      (hrest : ∀ c ∈ rest.head?, c = '\n') : Extent quote (body ++ rest) ⟨body, rest, false⟩
  | backslash {body rest : List Char} (hbody : Paired quote body)
      (hrest : ∀ c ∈ rest.head?, c = '\n') :
      Extent quote (body ++ '\\' :: rest) ⟨body ++ ['\\'], rest, false⟩

/-- The quotes of the literals that end with the line. -/
def IsLineQuote (quote : Char) : Prop :=
  quote = '"' ∨ quote = '\''

theorem IsLineQuote.ne_backslash {quote : Char} (h : IsLineQuote quote) : quote ≠ '\\' := by
  rcases h with rfl | rfl <;> decide

theorem IsLineQuote.ne_newline {quote : Char} (h : IsLineQuote quote) : quote ≠ '\n' := by
  rcases h with rfl | rfl <;> decide

theorem IsLineQuote.not_mem_hexDigits {quote : Char} (h : IsLineQuote quote) :
    quote ∉ hexDigits := by
  rcases h with rfl | rfl <;> decide

/-- Digits end no literal. -/
theorem paired_of_hexDigits {quote : Char} (hquote : IsLineQuote quote) {digits : List Char}
    (h : ∀ d ∈ digits, d ∈ hexDigits) : Paired quote digits := by
  have hall : (hexDigits.all fun d => decide (d ≠ '\\' ∧ d ≠ '\n')) = true := by decide +kernel
  induction digits with
  | nil => exact .nil
  | cons d digits ih =>
      rw [List.forall_mem_cons] at h
      have hd : d ≠ quote := by
        rintro rfl
        exact hquote.not_mem_hexDigits h.1
      have hother := of_decide_eq_true (List.all_eq_true.1 hall d h.1)
      exact .plain hd hother.1 hother.2 (ih h.2)

/-- An escape ends no literal, and neither does what is out of order in its place. -/
theorem paired_escape {quote : Char} (hquote : IsLineQuote quote) {c : Char} (hc : c ≠ '\n')
    (text : List Char) : Paired quote ('\\' :: (Escape.scan (c :: text)).read) := by
  obtain ⟨digits, hread, hdigits⟩ := Escape.read_scan_cons hc text
  rw [hread]
  exact .pair hc (paired_of_hexDigits hquote hdigits)

theorem Paired.newline_not_mem {quote : Char} {body : List Char} (h : Paired quote body) :
    '\n' ∉ body := by
  induction h with
  | nil => exact List.not_mem_nil
  | plain _ _ hnewline _ ih => simp [Ne.symm hnewline, ih]
  | pair hnewline _ ih => simp [Ne.symm hnewline, ih]

/-- A literal is taken from one line. -/
theorem Extent.newline_not_mem {quote : Char} (hquote : IsLineQuote quote) {text : List Char}
    {tail : Tail} (h : Extent quote text tail) : '\n' ∉ tail.read := by
  cases h with
  | closed hbody => simp [hbody.newline_not_mem, Ne.symm hquote.ne_newline]
  | unclosed hbody hrest => exact hbody.newline_not_mem
  | backslash hbody hrest => simp [hbody.newline_not_mem]


/-! ## Skipping a literal -/

section Skip

variable {quote : Char}

theorem skipTail_plain {c : Char} (hquote : c ≠ quote) (hbackslash : c ≠ '\\')
    (hnewline : c ≠ '\n') (text : List Char) :
    skipTail quote (c :: text) = (skipTail quote text).behind [c] := by
  rw [skipTail, if_neg hquote]
  · exact hnewline
  · exact fun _ h => absurd h hbackslash
  · exact fun _ _ h => absurd h hbackslash

theorem skipTail_pair {c : Char} (hnewline : c ≠ '\n') (text : List Char) :
    skipTail quote ('\\' :: c :: text) = (skipTail quote text).behind ['\\', c] := by
  rw [skipTail]
  exact hnewline

theorem skipTail_quote (hquote : IsLineQuote quote) (text : List Char) :
    skipTail quote (quote :: text) = ⟨[quote], text, true⟩ := by
  rcases hquote with rfl | rfl <;> simp [skipTail]

/-- Characters that do not end the literal are skipped. -/
theorem skipTail_of_paired {body : List Char} (h : Paired quote body) (more : List Char) :
    skipTail quote (body ++ more) = (skipTail quote more).behind body := by
  induction h with
  | nil => rfl
  | plain hquote hbackslash hnewline htext ih =>
      rw [List.cons_append, skipTail_plain hquote hbackslash hnewline, ih]
      rfl
  | pair hnewline htext ih =>
      rw [List.cons_append, List.cons_append, skipTail_pair hnewline, ih]
      rfl

theorem skipTail_endOfLine {rest : List Char} (hrest : ∀ c ∈ rest.head?, c = '\n') :
    skipTail quote rest = ⟨[], rest, false⟩ := by
  cases rest with
  | nil => rfl
  | cons c rest =>
      obtain rfl := hrest c rfl
      rfl

theorem skipTail_backslash (hquote : IsLineQuote quote) {rest : List Char}
    (hrest : ∀ c ∈ rest.head?, c = '\n') :
    skipTail quote ('\\' :: rest) = ⟨['\\'], rest, false⟩ := by
  cases rest with
  | nil => simp [skipTail, Ne.symm hquote.ne_backslash, Tail.behind]
  | cons c rest =>
      obtain rfl := hrest c rfl
      rfl

theorem Extent.behind {text : List Char} {tail : Tail} (h : Extent quote text tail)
    (body : List Char) (hbody : ∀ {more}, Paired quote more → Paired quote (body ++ more)) :
    Extent quote (body ++ text) (tail.behind body) := by
  cases h with
  | @closed inner rest hinner =>
      have hextent := @Extent.closed quote (body ++ inner) rest (hbody hinner)
      rwa [List.append_assoc, List.append_assoc] at hextent
  | @unclosed inner rest hinner hrest =>
      have hextent := Extent.unclosed (hbody hinner) hrest
      rwa [List.append_assoc] at hextent
  | @backslash inner rest hinner hrest =>
      have hextent := Extent.backslash (hbody hinner) hrest
      rwa [List.append_assoc, List.append_assoc] at hextent

/-- Every text begins with the extent of a literal. -/
theorem extent_skipTail (quote : Char) (text : List Char) :
    Extent quote text (skipTail quote text) := by
  fun_induction skipTail quote text with
  | case1 => exact .unclosed .nil (by simp)
  | case2 text => exact .unclosed .nil (by simp)
  | case3 text => exact @Extent.backslash quote [] ('\n' :: text) .nil (by simp)
  | case4 c text hnewline ih => exact ih.behind ['\\', c] (.pair hnewline)
  | case5 text => exact @Extent.closed quote [] text .nil
  | case6 c text hnewline hpair hescape hc ih =>
      by_cases hbackslash : c = '\\'
      · -- A backslash is not followed by a character here, so the text ends.
        have hend : text = [] := by
          cases text with
          | nil => rfl
          | cons d text => exact (hescape d text hbackslash rfl).elim
        subst hbackslash hend
        exact @Extent.backslash quote [] [] .nil (by simp)
      · exact ih.behind [c] (.plain hc hbackslash hnewline)

/-- A literal is skipped to where it reaches.  So its extent is the only one. -/
theorem skipTail_eq_iff (hquote : IsLineQuote quote) {text : List Char} {tail : Tail} :
    skipTail quote text = tail ↔ Extent quote text tail := by
  constructor
  · rintro rfl
    exact extent_skipTail quote text
  · intro h
    cases h with
    | closed hbody =>
        rw [skipTail_of_paired hbody, skipTail_quote hquote]
        rfl
    | unclosed hbody hrest =>
        rw [skipTail_of_paired hbody, skipTail_endOfLine hrest, Tail.behind, List.append_nil]
    | backslash hbody hrest =>
        rw [skipTail_of_paired hbody, skipTail_backslash hquote hrest]
        rfl

end Skip

end Quotation

/-! ## Scanning a literal -/

open Quotation

/-- The scan takes what is skipped. -/
structure Scan.Covers {α : Type} (scan : Scan α) (tail : Tail) : Prop where
  read : scan.read = tail.read
  rest : scan.rest = tail.rest

namespace Scan.Covers

variable {α β : Type} {scan : Scan α} {tail : Tail}

theorem map (h : scan.Covers tail) (f : α → β) : (scan.map f).Covers tail :=
  ⟨h.read, h.rest⟩

theorem behind (h : scan.Covers tail) (before : List Char) :
    (scan.behind before).Covers (tail.behind before) :=
  ⟨congrArg (before ++ ·) h.read, h.rest⟩

end Scan.Covers

namespace Quotation

variable {quote : Char}

/-- What is taken of a literal whose first escape is `escape`, if the rest is skipped. -/
theorem skipTail_escape (hquote : IsLineQuote quote) {c : Char} (hc : c ≠ '\n')
    (text : List Char) :
    skipTail quote ('\\' :: c :: text) =
      (skipTail quote (Escape.scan (c :: text)).rest).behind
        ('\\' :: (Escape.scan (c :: text)).read) := by
  have hsplits : (Escape.scan (c :: text)).read ++ (Escape.scan (c :: text)).rest = c :: text :=
    Escape.scan_splits (c :: text)
  rw [← skipTail_of_paired (paired_escape hquote hc text), List.cons_append, hsplits]

theorem spoilt_covers (hquote : IsLineQuote quote) (unterminated fault : Fault)
    (text : List Char) {α : Type} :
    (spoilt quote unterminated fault text : Scan α).Covers (skipTail quote ('\\' :: text)) := by
  cases text with
  | nil =>
      rw [skipTail_backslash hquote (by simp)]
      exact ⟨rfl, rfl⟩
  | cons c text =>
      by_cases hc : c = '\n'
      · subst hc
        exact ⟨rfl, rfl⟩
      · rw [spoilt_cons _ _ hc, skipTail_escape hquote hc]
        exact ⟨rfl, rfl⟩

/-- An escape that is accepted has a first character, and it is no line feed. -/
theorem exists_cons_of_escape {text : List Char} {c : Char}
    (h : (Escape.scan text).verdict = .ok c) :
    ∃ first more, text = first :: more ∧ first ≠ '\n' := by
  cases text with
  | nil => cases h
  | cons first text =>
      refine ⟨first, text, rfl, ?_⟩
      rintro rfl
      cases h

/-- A string takes its extent. -/
theorem interpreted_covers (text : List Char) :
    (interpreted text).Covers (skipTail '"' text) := by
  have hquote : IsLineQuote '"' := .inl rfl
  fun_induction interpreted text with
  | case1 => exact ⟨rfl, rfl⟩
  | case2 text => exact ⟨rfl, rfl⟩
  | case3 text =>
      rw [skipTail_quote hquote]
      exact ⟨rfl, rfl⟩
  | case4 text escape c hverdict ih =>
      obtain ⟨first, more, rfl, hfirst⟩ := exists_cons_of_escape hverdict
      rw [skipTail_escape hquote hfirst]
      exact (ih.map (c :: ·)).behind _
  | case5 text escape fault hverdict => exact spoilt_covers hquote _ _ _
  | case6 c text hnewline hdouble hbackslash ih =>
      rw [skipTail_plain hdouble hbackslash hnewline]
      exact (ih.map (c :: ·)).behind [c]

theorem closeCharacter_covers (value : Char) (text : List Char) :
    (closeCharacter value text).Covers (skipTail '\'' text) := by
  fun_cases closeCharacter value text with
  | case1 text =>
      rw [skipTail_quote (.inr rfl)]
      exact ⟨rfl, rfl⟩
  | case2 text hquote tail => exact ⟨rfl, rfl⟩

/-- A character takes its extent. -/
theorem character_covers (text : List Char) :
    (character text).Covers (skipTail '\'' text) := by
  have hquote : IsLineQuote '\'' := .inr rfl
  fun_cases character text with
  | case1 => exact ⟨rfl, rfl⟩
  | case2 text => exact ⟨rfl, rfl⟩
  | case3 text =>
      rw [skipTail_quote hquote]
      exact ⟨rfl, rfl⟩
  | case4 text escape c hverdict =>
      obtain ⟨first, more, rfl, hfirst⟩ := exists_cons_of_escape hverdict
      rw [skipTail_escape hquote hfirst]
      exact (closeCharacter_covers c _).behind _
  | case5 text escape fault hverdict => exact spoilt_covers hquote _ _ _
  | case6 c text hnewline hsingle hbackslash =>
      rw [skipTail_plain hsingle hbackslash hnewline]
      exact (closeCharacter_covers c text).behind [c]

end Quotation

end Lexis
