import Lexis.Proofs.Lexeme.LineBreak
import Lexis.Proofs.Text.Returns

/-!
# Lexemes before a carriage return

Where lines end in a carriage return and a line feed, the scanners of quoted literals see the
carriage return as one more character of the line.  It makes no difference to what they find, but
for one thing: a backslash at the end of the line, which leaves the literal unterminated before a
line feed, makes an unknown escape of a carriage return.

* `Scan.Returned` compares the scan of a line with the scan of the line and a carriage return.
  `Quotation.skipTail_return`, `Quotation.interpreted_return` and `Quotation.character_return` say
  so of the parts of quoted literals, and `Lexeme.scan_return` of all lexemes but the raw string.
* `Quotation.BreaksOff` says where the backslash stands that makes the difference, and
  `Lexeme.verdict_of_breaksOff` what the difference is.
* `Lexeme.inStep_scan` goes from lines to texts.
-/

namespace Lexis

/-- The scan of a line, and the scan of the same line with a carriage return behind it.  Unless the
line `breaks`, the verdicts are the same. -/
structure Scan.Returned {α : Type} (breaks : Prop) (scan returned : Scan α) : Prop where
  verdict : returned.verdict = scan.verdict ∨ breaks
  rest : LeftOfLine scan.rest returned.rest

namespace Scan.Returned

variable {α β : Type} {breaks : Prop} {scan returned : Scan α}

theorem behind (h : scan.Returned breaks returned) (before more : List Char) :
    (scan.behind before).Returned breaks (returned.behind more) :=
  ⟨h.verdict, h.rest⟩

theorem map (h : scan.Returned breaks returned) (f : α → β) :
    (scan.map f).Returned breaks (returned.map f) := by
  refine ⟨h.verdict.imp_left fun hverdict => ?_, h.rest⟩
  rw [Scan.map, Scan.map, hverdict]

theorem mono (h : scan.Returned breaks returned) {other : Prop} (himp : breaks → other) :
    scan.Returned other returned :=
  ⟨h.verdict.imp_right himp, h.rest⟩

end Scan.Returned

/-- A scan that ends before the carriage return. -/
theorem Scan.returned_followedBy {α : Type} (scan : Scan α) (breaks : Prop) :
    scan.Returned breaks (scan.followedBy ['\r']) :=
  ⟨.inl rfl, .kept _⟩

theorem isWhiteSpace_return : isWhiteSpace '\r' = true := by decide

namespace Quotation

/-! ## The parts of quoted literals -/

section Line

variable {line : List Char}

/-- What is skipped of a line takes the carriage return along, or ends before it. -/
theorem skipTail_return {quote : Char} (hbackslash : quote ≠ '\\') (hreturn : quote ≠ '\r')
    (hline : '\n' ∉ line) :
    (skipTail quote (line ++ ['\r'])).closed = (skipTail quote line).closed ∧
      LeftOfLine (skipTail quote line).rest (skipTail quote (line ++ ['\r'])).rest := by
  fun_induction skipTail quote line with
  | case1 =>
      have hlast : skipTail quote ['\r'] = ⟨['\r'], [], false⟩ := by
        simp [skipTail, Ne.symm hreturn, Tail.behind]
      rw [List.nil_append, hlast]
      exact ⟨rfl, .taken⟩
  | case2 text => simp at hline
  | case3 text => simp at hline
  | case4 text c hc ih =>
      rw [List.cons_append, List.cons_append, skipTail]
      · exact ih (by simp_all)
      · exact hc
  | case5 text hnewline hpair hescape =>
      rw [List.cons_append, skipTail, if_pos rfl]
      · exact ⟨rfl, .kept text⟩
      · exact hnewline
      · exact fun _ hc => absurd hc hbackslash
      · exact fun _ _ hc => absurd hc hbackslash
  | case6 c text hnewline hpair hescape hc ih =>
      by_cases hc' : c = '\\'
      · -- A backslash at the end of the line takes the carriage return along.
        have hend : text = [] := by
          cases text with
          | nil => rfl
          | cons d text => exact (hescape d text hc' rfl).elim
        subst hc' hend
        exact ⟨rfl, .taken⟩
      · rw [List.cons_append, skipTail, if_neg hc]
        · exact ih (by simp_all)
        · exact hnewline
        · exact fun _ h => absurd h hc'
        · exact fun _ _ h => absurd h hc'

theorem newline_not_mem_rest_escape (hline : '\n' ∉ line) : '\n' ∉ (Escape.scan line).rest := by
  have hsplits : (Escape.scan line).read ++ (Escape.scan line).rest = line :=
    Escape.scan_splits line
  exact fun hmem => hline (hsplits ▸ List.mem_append_right _ hmem)

/-- An escape that is out of order spoils the literal with a carriage return or without. -/
theorem spoilt_return {quote : Char} (hbackslash : quote ≠ '\\') (hreturn : quote ≠ '\r')
    (unterminated fault : Fault) (c : Char) (hline : '\n' ∉ c :: line) (breaks : Prop) {α : Type} :
    (spoilt quote unterminated fault (c :: line) : Scan α).Returned breaks
      (spoilt quote unterminated fault (c :: line ++ ['\r'])) := by
  have hc : c ≠ '\n' := fun h => hline (by simp [h])
  have hescape := Escape.scan_before_blank isWhiteSpace_return c line []
  have hrest := newline_not_mem_rest_escape hline
  rw [List.cons_append, spoilt_cons _ _ hc, spoilt_cons _ _ hc, hescape]
  exact ⟨.inl rfl, (skipTail_return hbackslash hreturn hrest).2⟩

theorem interpreted_return (hline : '\n' ∉ line) :
    (interpreted line).Returned (∃ pieces, line = spelling pieces ++ ['\\'])
      (interpreted (line ++ ['\r'])) := by
  fun_induction interpreted line with
  | case1 =>
      have hlast : interpreted ['\r'] = ⟨['\r'], [], .error .unterminatedString⟩ := by
        rw [interpreted, interpreted]
        · rfl
        all_goals decide
      rw [List.nil_append, hlast]
      exact ⟨.inl rfl, .taken⟩
  | case2 text => simp at hline
  | case3 text =>
      rw [List.cons_append, interpreted]
      exact ⟨.inl rfl, .kept text⟩
  | case4 text escape c hverdict ih =>
      have hscan := Escape.scan_before_blank_of_ok isWhiteSpace_return hverdict []
      have hok : (Escape.scan (text ++ ['\r'])).verdict = .ok c := by
        rw [hscan]
        exact hverdict
      have hrest : '\n' ∉ escape.rest := newline_not_mem_rest_escape (by simp_all)
      rw [List.cons_append, interpreted, hok]
      simp only [hscan, Scan.followedBy_rest, Scan.followedBy_read]
      refine (((ih hrest).map _).behind _ _).mono ?_
      rintro ⟨pieces, hpieces⟩
      have hsplits : escape.read ++ escape.rest = text := Escape.scan_splits text
      refine ⟨⟨_, c, .escape (Escape.denotes_of_scan hverdict)⟩ :: pieces, ?_⟩
      rw [spelling_cons, List.append_assoc, ← hpieces]
      exact (congrArg (List.cons '\\') hsplits).symm
  | case5 text escape fault hverdict =>
      rcases text with _ | ⟨d, text⟩
      · have hlast : interpreted ['\\', '\r'] =
            ⟨['\\', '\r'], [], .error (.unknownEscape '\r')⟩ := by
          rw [interpreted]
          rfl
        rw [List.cons_append, List.nil_append, hlast]
        exact ⟨.inr ⟨[], rfl⟩, .taken⟩
      · have herror : (Escape.scan (d :: text ++ ['\r'])).verdict = .error fault := by
          rw [List.cons_append, Escape.scan_before_blank isWhiteSpace_return]
          exact hverdict
        rw [List.cons_append, interpreted, herror]
        exact spoilt_return (by decide) (by decide) _ _ _ (by simp_all) _
  | case6 c text hnewline hquote hescape ih =>
      rw [List.cons_append, interpreted]
      · refine (((ih (by simp_all)).map _).behind [c] [c]).mono ?_
        rintro ⟨pieces, rfl⟩
        exact ⟨⟨[c], c, .plain hquote hescape hnewline⟩ :: pieces, rfl⟩
      · exact hnewline
      · exact hquote
      · exact hescape

theorem closeCharacter_return (value : Char) (hline : '\n' ∉ line) (breaks : Prop) :
    (closeCharacter value line).Returned breaks (closeCharacter value (line ++ ['\r'])) := by
  have hbackslash : '\'' ≠ '\\' := by decide
  obtain ⟨hclosed, hrest⟩ := skipTail_return hbackslash (by decide) hline
  by_cases hquote : ∃ behind, line = '\'' :: behind
  · obtain ⟨behind, rfl⟩ := hquote
    exact ⟨.inl rfl, .kept behind⟩
  · rw [closeCharacter, closeCharacter]
    · exact ⟨.inl (by rw [hclosed]), hrest⟩
    · intro behind h
      cases line with
      | nil => simp at h
      | cons c line => exact hquote ⟨line, by simp_all⟩
    · exact fun behind h => hquote ⟨behind, h⟩

theorem character_return (hline : '\n' ∉ line) :
    (character line).Returned (line = ['\\']) (character (line ++ ['\r'])) := by
  fun_cases character line with
  | case1 => exact ⟨.inl rfl, .taken⟩
  | case2 text => simp at hline
  | case3 text => exact ⟨.inl rfl, .kept text⟩
  | case4 text escape c hverdict =>
      have hscan := Escape.scan_before_blank_of_ok isWhiteSpace_return hverdict []
      have hok : (Escape.scan (text ++ ['\r'])).verdict = .ok c := by
        rw [hscan]
        exact hverdict
      have hrest : '\n' ∉ escape.rest := newline_not_mem_rest_escape (by simp_all)
      rw [List.cons_append, character, hok]
      simp only [hscan, Scan.followedBy_rest, Scan.followedBy_read]
      exact (closeCharacter_return c hrest _).behind _ _
  | case5 text escape fault hverdict =>
      rcases text with _ | ⟨d, text⟩
      · exact ⟨.inr rfl, .taken⟩
      · have herror : (Escape.scan (d :: text ++ ['\r'])).verdict = .error fault := by
          rw [List.cons_append, Escape.scan_before_blank isWhiteSpace_return]
          exact hverdict
        rw [List.cons_append, character, herror]
        exact spoilt_return (by decide) (by decide) _ _ _ (by simp_all) _
  | case6 c text hnewline hquote hescape =>
      rw [List.cons_append, character]
      · exact (closeCharacter_return c (by simp_all) _).behind _ _
      · exact hnewline
      · exact hquote
      · exact hescape

end Line

/-! ## Literals that break off -/

/-- The text begins with a quoted literal whose line ends in the backslash of an escape, and `fault`
is the fault of that.  A string may have pieces before the backslash. -/
inductive BreaksOff : List Char → Fault → Prop where
  | string (pieces : List Piece) (behind : List Char) :
      BreaksOff ('"' :: (spelling pieces ++ '\\' :: '\n' :: behind)) .unterminatedString
  | character (behind : List Char) :
      BreaksOff ('\'' :: '\\' :: '\n' :: behind) .unterminatedChar

/-- A carriage return is no escape. -/
theorem stops_return (text : List Char) : Stops ('\\' :: '\r' :: text) (.unknownEscape '\r') :=
  .escape (by decide) (Escape.scan_error_iff.1 rfl).2

end Quotation

open Quotation

namespace Lexeme

/-! ## Lexemes of a line -/

variable {c : Char}

theorem scan_return (hback : c ≠ '`') {line : List Char} (hline : '\n' ∉ line)
    (more : List Char) :
    (scan c line).Returned (∃ fault, BreaksOff (c :: (line ++ '\n' :: more)) fault)
      (scan c (line ++ ['\r'])) := by
  by_cases hdouble : c = '"'
  · subst hdouble
    rw [scan, scan, if_pos rfl, if_pos rfl]
    refine (((interpreted_return hline).map _).behind _ _).mono ?_
    rintro ⟨pieces, rfl⟩
    exact ⟨_, by simpa using BreaksOff.string pieces more⟩
  by_cases hsingle : c = '\''
  · subst hsingle
    rw [scan, scan, if_neg hdouble, if_neg hback, if_pos rfl, if_neg hdouble, if_neg hback,
      if_pos rfl]
    refine (((character_return hline).map _).behind _ _).mono ?_
    rintro rfl
    exact ⟨_, .character more⟩
  rw [scan_before_blank isWhiteSpace_return hdouble hback hsingle]
  exact Scan.returned_followedBy _ _

/-! ## Lexemes of a text -/

/-- With carriage returns, a lexeme takes what it takes without, and it is the same lexeme or the
same fault unless it breaks off. -/
theorem inStep_scan (hback : c ≠ '`') (hnewline : c ≠ '\n') (text : List Char) :
    ((scan c (withReturns text)).verdict = (scan c text).verdict ∨
        ∃ fault, BreaksOff (c :: text) fault) ∧
      InStep (scan c text).rest (scan c (withReturns text)).rest := by
  have hrest : ∀ line, '\n' ∉ line → '\n' ∉ (scan c line).rest := by
    intro line hline hmem
    have hsplits : (scan c line).read ++ (scan c line).rest = c :: line := scan_splits c line
    have hcons : '\n' ∈ c :: line := hsplits ▸ List.mem_append_right _ hmem
    exact (List.mem_cons.1 hcons).elim (fun h => hnewline h.symm) hline
  by_cases hmem : '\n' ∈ text
  · obtain ⟨line, more, rfl, hline⟩ := List.eq_append_cons_of_mem hmem
    have hreturned := scan_return hback hline more
    rw [withReturns_line hline, scan_before_newline_of_ne hback, scan_before_newline_of_ne hback]
    exact ⟨hreturned.verdict, hreturned.rest.inStep (hrest line hline) more⟩
  · rw [withReturns_of_not_mem hmem]
    exact ⟨.inl rfl, inStep_of_not_mem (hrest text hmem)⟩

/-- What breaks off has another fault with carriage returns. -/
theorem verdict_of_breaksOff {text : List Char} {fault : Fault} (h : BreaksOff (c :: text) fault) :
    (scan c text).verdict = .error fault ∧
      (scan c (withReturns text)).verdict = .error (.unknownEscape '\r') := by
  cases h with
  | string pieces behind =>
      have htext : withReturns (spelling pieces ++ '\\' :: '\n' :: behind) =
          spelling pieces ++ '\\' :: '\r' :: '\n' :: withReturns behind := by
        rw [withReturns_append, withReturns_of_not_mem (newline_not_mem_spelling pieces),
          withReturns_cons (by decide), withReturns_newline]
      rw [htext, scan, scan, if_pos rfl, if_pos rfl]
      simp only [Scan.behind_verdict, Scan.map_verdict_eq_error]
      exact ⟨interpreted_stopped pieces (.backslashAtNewline behind),
        interpreted_stopped pieces (stops_return _)⟩
  | character behind => exact ⟨rfl, rfl⟩

end Lexeme

end Lexis
