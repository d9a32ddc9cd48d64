import Lexis.Proofs.Lexeme.Lookahead.Basic
import Lexis.Proofs.Lexeme.Numeral

/-!
# How far numerals look ahead

A numeral is known two characters behind it.  Those two are the sign and the digit of what
might be an exponent: its mark is always taken, as the mark of an exponent or as a letter
that must not follow a numeral.

`Numeral.Finishes` is what integers and floats have in common there.
-/

namespace Lexis

open Scan (LooksAhead)

namespace Numeral

theorem reject_looksAhead (fault : Fault) (read text : List Char) :
    LooksAhead 1 (reject fault read) read text := by
  refine ⟨text.takeWhile isTail, rfl, fun other htake => ?_⟩
  have hhead := head?_congr htake
  rw [reject, takeWhile_of_head? hhead, dropWhile_of_head? hhead]
  rfl

/-- A numeral that is refused for its first characters takes along what could be part of it. -/
theorem looksAhead_of_reject {f : List Char → Scan Lexeme} {read text : List Char} (fault : Fault)
    (hf : ∀ other : List Char, other.head? = text.head? → f other = reject fault read other) :
    LooksAhead 2 f read text :=
  .of_head (reject fault read) ((reject_looksAhead fault read text).mono (by decide))
    (reject_splits fault read text) hf

/-- Whether an exponent stands at the head of a text depends on three characters. -/
theorem exponent?_congr {text other : List Char} (h : text.take 3 = other.take 3) :
    (exponent? text).map Prod.fst = (exponent? other).map Prod.fst := by
  have htake : ∀ text, (exponent? text).map Prod.fst =
      (exponent? (text.take 3)).map Prod.fst := by
    intro text
    rcases text with _ | ⟨mark, _ | ⟨sign, _ | ⟨digit, text⟩⟩⟩
    · rfl
    · rfl
    · rfl
    · have hbegins : ∀ text, beginsWith isDigit (digit :: text) = isDigit digit := fun _ => rfl
      simp only [exponent?, hbegins, List.take_succ_cons]
      cases isExponentMark mark <;> cases isSign sign <;> cases isDigit digit <;>
        cases isDigit sign <;> rfl
  rw [htake text, h, ← htake other]

theorem exponent?_ne_nil {text mark behind : List Char}
    (h : exponent? text = some (mark, behind)) : mark ≠ [] := by
  rintro rfl
  unfold exponent? at h
  repeat' split at h
  all_goals cases h

theorem exponent?_of_take {mark behind other : List Char}
    (h : exponent? (mark ++ behind) = some (mark, behind))
    (htake : (mark ++ behind).take 3 = (mark ++ other).take 3) :
    exponent? (mark ++ other) = some (mark, other) := by
  have hmark := exponent?_congr htake
  rw [h] at hmark
  obtain ⟨⟨found, behind'⟩, hfound, hmark⟩ := Option.map_eq_some_iff.1 hmark.symm
  obtain rfl : found = mark := hmark
  rw [hfound, List.append_cancel_left (exponent?_append hfound)]

/-- Where no exponent is found, none is found with another text behind what is taken: that
is at least the mark of one, or else nothing that could be a mark follows. -/
theorem exponent?_eq_none_of_take {taken rest other : List Char}
    (h : exponent? (taken ++ rest) = none) (htake : rest.take 2 = other.take 2)
    (hends : beginsWith isIdentifierPart rest = false) : exponent? (taken ++ other) = none := by
  by_cases hnil : taken = []
  · subst hnil
    apply exponent?_of_ends
    rw [List.nil_append, beginsWith, head?_congr htake]
    exact hends
  · have hpos := List.length_pos_iff.2 hnil
    have hmark := exponent?_congr (take_append_congr htake (by omega : 3 ≤ taken.length + 2))
    rw [h] at hmark
    simpa using hmark.symm

/-- How a numeral goes on behind `read`: it is refused for an exponent, or for something
that must not follow, or it ends right there. -/
structure Finishes (f : List Char → Scan Lexeme) (read : List Char)
    (exponentFault suffixFault : Fault) (refused : List Char → Prop)
    (verdict : Except Fault Lexeme) : Prop where
  exponent : ∀ {text mark behind}, exponent? text = some (mark, behind) →
    f text = reject exponentFault (read ++ mark) behind
  suffix : ∀ {text}, exponent? text = none → refused text → f text = reject suffixFault read text
  ends : ∀ {text}, exponent? text = none → ¬ refused text → f text = ⟨read, text, verdict⟩
  /-- What must not follow is told by its first character. -/
  congr : ∀ {text other : List Char}, other.head? = text.head? → refused text → refused other
  /-- An identifier character must not follow. -/
  part : ∀ {text}, ¬ refused text → beginsWith isIdentifierPart text = false

namespace Finishes

variable {f : List Char → Scan Lexeme} {read : List Char} {exponentFault suffixFault : Fault}
  {refused : List Char → Prop} {verdict : Except Fault Lexeme}

theorem looksAhead_exponent
    (h : Finishes f read exponentFault suffixFault refused verdict) {mark behind : List Char}
    (hfound : exponent? (mark ++ behind) = some (mark, behind)) :
    LooksAhead 2 f read (mark ++ behind) := by
  obtain ⟨taken, hread, hother⟩ :=
    (reject_looksAhead exponentFault (read ++ mark) behind).mono (by decide : 1 ≤ 2)
  have hbehind := (reject_splits exponentFault (read ++ mark) behind).eq_append hread
  refine ⟨mark ++ taken, by rw [h.exponent hfound, hread, List.append_assoc], ?_⟩
  intro other htake
  rw [h.exponent hfound] at htake ⊢
  have hmark : exponent? (mark ++ (taken ++ other)) = some (mark, taken ++ other) := by
    refine exponent?_of_take hfound ?_
    have hpos := List.length_pos_iff.2 (exponent?_ne_nil hfound)
    rw [hbehind, ← List.append_assoc, ← List.append_assoc]
    exact take_append_congr htake (by rw [List.length_append]; omega)
  rw [List.append_assoc, h.exponent hmark, hother other htake, List.append_assoc]

theorem looksAhead_suffix (h : Finishes f read exponentFault suffixFault refused verdict)
    {text : List Char} (hfound : exponent? text = none) (hrefused : refused text) :
    LooksAhead 2 f read text := by
  refine ⟨text.takeWhile isTail, by rw [h.suffix hfound hrefused]; rfl, fun other hrest => ?_⟩
  have htake : (text.dropWhile isTail).take 2 = other.take 2 := by
    rwa [h.suffix hfound hrefused] at hrest
  have htext := List.takeWhile_append_dropWhile (p := isTail) (l := text)
  have hhead : (text.takeWhile isTail ++ other).head? = text.head? := by
    conv => rhs; rw [← htext]
    exact head?_append_congr htake
  have hnone : exponent? (text.takeWhile isTail ++ other) = none := by
    refine exponent?_eq_none_of_take (by rwa [htext]) htake ?_
    exact beginsWith_mono (fun c => isTail_of_isIdentifierPart) (any_head?_dropWhile isTail text)
  rw [h.suffix hnone (h.congr hhead hrefused), h.suffix hfound hrefused, reject,
    takeWhile_of_head? (head?_congr htake), dropWhile_of_head? (head?_congr htake)]
  rfl

theorem looksAhead_end (h : Finishes f read exponentFault suffixFault refused verdict)
    {text : List Char} (hfound : exponent? text = none) (hrefused : ¬ refused text) :
    LooksAhead 2 f read text := by
  refine ⟨[], by rw [h.ends hfound hrefused, List.append_nil], fun other htake => ?_⟩
  rw [h.ends hfound hrefused] at htake
  have hnone : exponent? ([] ++ other) = none :=
    exponent?_eq_none_of_take hfound htake (h.part hrefused)
  have hother : ¬ refused ([] ++ other) :=
    fun hother => hrefused (h.congr (head?_congr htake).symm hother)
  rw [h.ends hnone hother, h.ends hfound hrefused, List.append_nil]
  rfl

theorem looksAhead (h : Finishes f read exponentFault suffixFault refused verdict)
    (text : List Char) : LooksAhead 2 f read text := by
  cases hfound : exponent? text with
  | some found =>
      obtain ⟨mark, behind⟩ := found
      obtain rfl := exponent?_append hfound
      exact h.looksAhead_exponent hfound
  | none =>
      by_cases hrefused : refused text
      · exact h.looksAhead_suffix hfound hrefused
      · exact h.looksAhead_end hfound hrefused

end Finishes

theorem integer_looksAhead (digits text : List Char) :
    LooksAhead 2 (integer digits) digits text := by
  have hfinishes : Finishes (integer digits) digits (.unsupportedForm .exponent) .numericSuffix
      (fun text => beginsWith isIdentifierPart text = true) (.ok (.decimal digits)) := by
    refine ⟨?_, ?_, ?_, ?_, ?_⟩
    · intro text mark behind hfound
      rw [integer, hfound]
    · intro text hfound hrefused
      rw [integer, hfound, if_pos hrefused]
    · intro text hfound hrefused
      rw [integer, hfound, if_neg hrefused]
    · intro text other hhead hrefused
      rwa [beginsWith, hhead]
    · simp
  exact hfinishes.looksAhead text

/-- The float whose digits on both sides of the point have been taken. -/
def floatEnd (whole fraction text : List Char) : Scan Lexeme :=
  let read := whole ++ '.' :: fraction
  match exponent? text with
  | some (mark, behind) =>
      reject (if fraction = [] then .malformedFloat else .unsupportedForm .exponent)
        (read ++ mark) behind
  | none =>
      if fraction = [] ∨ beginsWith isTail text then reject .malformedFloat read text
      else ⟨read, text, floatVerdict read⟩

theorem float_eq (whole text : List Char) :
    float whole text = floatEnd whole (text.takeWhile isDigit) (text.dropWhile isDigit) := rfl

theorem floatEnd_looksAhead (whole fraction text : List Char) :
    LooksAhead 2 (floatEnd whole fraction) (whole ++ ['.'] ++ fraction) text := by
  rw [List.append_assoc, List.singleton_append]
  have hfinishes : Finishes (floatEnd whole fraction) (whole ++ '.' :: fraction)
      (if fraction = [] then .malformedFloat else .unsupportedForm .exponent) .malformedFloat
      (fun text => fraction = [] ∨ beginsWith isTail text = true)
      (floatVerdict (whole ++ '.' :: fraction)) := by
    refine ⟨?_, ?_, ?_, ?_, ?_⟩
    · intro text mark behind hfound
      rw [floatEnd, hfound]
    · intro text hfound hrefused
      rw [floatEnd, hfound]
      exact if_pos hrefused
    · intro text hfound hrefused
      rw [floatEnd, hfound]
      exact if_neg hrefused
    · intro text other hhead hrefused
      rwa [beginsWith, hhead]
    · intro text hrefused
      have htail : beginsWith isTail text = false := by simpa using (not_or.1 hrefused).2
      exact beginsWith_mono (fun c => isTail_of_isIdentifierPart) htail
  exact hfinishes.looksAhead text

theorem float_looksAhead (whole text : List Char) :
    LooksAhead 2 (float whole) (whole ++ ['.']) text := by
  have hsplits : (float whole text).Splits (whole ++ ['.'] ++ text) := by
    rw [List.append_assoc]
    exact float_splits whole text
  exact .of_takeWhile (floatEnd whole) (float_eq whole) hsplits (floatEnd_looksAhead whole)

/-- The hexadecimal integer whose digits have been taken. -/
def hexadecimalEnd (read digits text : List Char) : Scan Lexeme :=
  if digits = [] ∨ beginsWith isTail text then reject .hexLiteral (read ++ digits) text
  else ⟨read ++ digits, text, .ok (.hex (read ++ digits))⟩

theorem hexadecimal_eq (read text : List Char) :
    hexadecimal read text =
      hexadecimalEnd read (text.takeWhile isHexDigit) (text.dropWhile isHexDigit) := rfl

theorem hexadecimalEnd_looksAhead (read digits text : List Char) :
    LooksAhead 2 (hexadecimalEnd read digits) (read ++ digits) text := by
  by_cases hrefused : digits = [] ∨ beginsWith isTail text
  · refine looksAhead_of_reject .hexLiteral fun other hhead => ?_
    rw [hexadecimalEnd, if_pos (by rwa [beginsWith, hhead])]
  · refine .of_head (fun text => ⟨read ++ digits, text, .ok (.hex (read ++ digits))⟩)
      (.of_const fun _ => rfl) rfl fun other hhead => ?_
    rw [hexadecimalEnd, if_neg (by rwa [beginsWith, hhead])]

theorem hexadecimal_looksAhead (read text : List Char) :
    LooksAhead 2 (hexadecimal read) read text :=
  .of_takeWhile (hexadecimalEnd read) (hexadecimal_eq read) (hexadecimal_splits read text)
    (hexadecimalEnd_looksAhead read)

theorem unmarked_looksAhead (digits text : List Char) :
    LooksAhead 2 (unmarked digits) digits text := by
  by_cases hpoint : ∃ behind, text = '.' :: behind
  · obtain ⟨behind, rfl⟩ := hpoint
    refine .of_run (float digits) (float_looksAhead digits behind) ?_ ?_
    · simpa using float_splits digits behind
    · intro other _
      rw [List.singleton_append, unmarked]
  · have hplain : ∀ other : List Char, other.head? = text.head? →
        ∀ behind, other = '.' :: behind → False := by
      rintro _ hhead behind rfl
      exact hpoint (List.head?_eq_some_iff.1 hhead.symm)
    by_cases hzero : hasLeadingZero digits = true
    · refine looksAhead_of_reject
        (if isLegacyOctal digits then .unsupportedForm .legacyOctal else .leadingZero)
        fun other hhead => ?_
      rw [unmarked, if_pos hzero]
      exact hplain other hhead
    · refine .of_head (integer digits) (integer_looksAhead digits text)
        (integer_splits digits text) fun other hhead => ?_
      rw [unmarked, if_neg hzero]
      exact hplain other hhead

theorem ofDigits_looksAhead (digits text : List Char) :
    LooksAhead 2 (ofDigits digits) digits text := by
  fun_cases ofDigits digits text with
  | case1 mark text hmark =>
      have hread := hexadecimal_looksAhead (['0'] ++ [mark]) text
      refine .of_run (hexadecimal ['0', mark]) hread (hexadecimal_splits _ text) fun other _ => ?_
      rw [List.singleton_append, ofDigits, if_pos hmark]
  | case2 mark text hmark hbinary =>
      refine looksAhead_of_reject (.unsupportedForm .binary) fun other hhead => ?_
      obtain ⟨behind, rfl⟩ := List.head?_eq_some_iff.1 hhead
      rw [ofDigits, if_neg hmark, if_pos hbinary]
  | case3 mark text hmark hbinary hoctal =>
      refine looksAhead_of_reject (.unsupportedForm .octalPrefix) fun other hhead => ?_
      obtain ⟨behind, rfl⟩ := List.head?_eq_some_iff.1 hhead
      rw [ofDigits, if_neg hmark, if_neg hbinary, if_pos hoctal]
  | case4 mark text hmark hbinary hoctal =>
      refine .of_head (unmarked ['0']) (unmarked_looksAhead _ _) (unmarked_splits _ _)
        fun other hhead => ?_
      obtain ⟨behind, rfl⟩ := List.head?_eq_some_iff.1 hhead
      rw [ofDigits, if_neg hmark, if_neg hbinary, if_neg hoctal]
  | case5 digits text hplain =>
      refine .of_head (unmarked digits) (unmarked_looksAhead _ _) (unmarked_splits _ _)
        fun other hhead => ?_
      rw [ofDigits]
      rintro mark behind hzero rfl
      obtain ⟨more, rfl⟩ := List.head?_eq_some_iff.1 hhead.symm
      exact hplain mark more hzero rfl

/-- A numeral is known two characters behind it. -/
theorem scan_looksAhead (text : List Char) : LooksAhead 2 scan [] text :=
  .of_takeWhile ofDigits (fun _ => rfl) (scan_splits text) ofDigits_looksAhead

end Numeral

end Lexis
