import Lexis.Proofs.Lexeme.Fault
import Lexis.Proofs.Lexer.Strings
import Lexis.Proofs.Lexer.Tiling

/-!
# Skipping trivia

What a lexer skips before it reads.  `Trivia.skip_eq_iff` says which text that is.  This module says
what the step does then, from any cursor: it comes to the end of the text, to a comment that is
never closed, or to a lexeme.

* `Cursor.step_past_trivia`: a step over trivia is the step from behind it.
* `Cursor.IsStep` is the relation of a cursor to what its step hands out and to the cursor behind
  the step, and `Cursor.step_eq_iff` says that it is the step.
* `Cursor.step_unterminatedComment_iff`: when a step finds an open comment, and how much it takes.
* `Lexer.trivia_skipping` puts these together.
-/

namespace Lexis

/-- What is read behind trivia is read with the trivia in front. -/
theorem Reading.ofText_append_of_isTrivia {trivia text : List Char}
    (h : Trivia.IsTrivia trivia text) : ofText (trivia ++ text) = (ofText text).behind trivia := by
  simp only [ofText, Trivia.skip_append_of_isTrivia h]
  split <;> rfl

open Trivia

namespace Cursor

variable {cursor : Cursor} {trivia unread : List Char}

/-- A step over trivia is the step from behind it. -/
theorem step_past_trivia (hrest : cursor.rest = trivia ++ unread)
    (htrivia : IsTrivia trivia unread) : cursor.step = (cursor.past trivia unread).step := by
  rw [step_eq, step_eq, hrest, Reading.ofText_append_of_isTrivia htrivia,
    Reading.toOutcome_behind, Reading.stop_behind]
  rfl

/-- A comment that is never closed takes the whole text. -/
theorem step_of_unclosed (hunclosed : Unclosed cursor.rest) :
    cursor.step =
      (.error ⟨.unterminatedComment, cursor.spanOver cursor.rest⟩, cursor.past cursor.rest []) := by
  have hskip := skip_of_piece?_eq_none hunclosed.piece?_eq_none
  generalize hrest : cursor.rest = rest at hunclosed hskip ⊢
  obtain ⟨hbody⟩ := hunclosed
  rw [step_eq, hrest, Reading.ofText, hskip]
  rfl

/-- Behind the trivia, a step comes to the end of the text, to a comment that is never closed or to
a lexeme. -/
inductive IsStep (cursor : Cursor) : Outcome → Cursor → Prop where
  | atEnd (htrivia : IsTrivia cursor.rest []) :
      IsStep cursor (.ok (.endOfInput (.point (cursor.position.after cursor.rest) cursor.fileId)))
        (cursor.past cursor.rest [])
  | comment {trivia body : List Char} (hrest : cursor.rest = trivia ++ '/' :: '*' :: body)
      (htrivia : IsTrivia trivia ('/' :: '*' :: body)) (hbody : ¬ ['*', '/'] <:+: body) :
      IsStep cursor
        (.error ⟨.unterminatedComment,
          (cursor.past trivia ('/' :: '*' :: body)).spanOver ('/' :: '*' :: body)⟩)
        (cursor.past cursor.rest [])
  | lexeme {trivia text : List Char} {c : Char} (hrest : cursor.rest = trivia ++ c :: text)
      (htrivia : IsTrivia trivia (c :: text)) (hbare : Bare (c :: text)) :
      IsStep cursor
        (Lexeme.outcome (Lexeme.scan c text).verdict
          ((cursor.past trivia (c :: text)).spanOver (Lexeme.scan c text).read))
        (cursor.past (trivia ++ (Lexeme.scan c text).read) (Lexeme.scan c text).rest)

theorem IsStep.step_eq {outcome : Outcome} {last : Cursor} (h : cursor.IsStep outcome last) :
    cursor.step = (outcome, last) := by
  cases h with
  | atEnd htrivia =>
      rw [step_past_trivia (List.append_nil _).symm htrivia, Cursor.step_eq]
      simp [past, Reading.toOutcome, Reading.stop, Span.point]
  | comment hrest htrivia hbody =>
      rw [step_past_trivia hrest htrivia, step_of_unclosed (.intro hbody), hrest]
      simp [past]
  | lexeme hrest htrivia hbare =>
      rw [step_past_trivia hrest htrivia, step_of_scan rfl hbare.piece?_eq_none hbare.block]
      simp [past]

theorem isStep_step (cursor : Cursor) : cursor.IsStep cursor.step.1 cursor.step.2 := by
  obtain ⟨hrest, htrivia, hstop⟩ := skip_eq_iff.1 (rfl : skip cursor.rest = (_, _))
  generalize (skip cursor.rest).1 = trivia at hrest htrivia
  generalize (skip cursor.rest).2 = unread at hrest htrivia hstop
  rcases hstop with hbare | ⟨⟨hbody⟩⟩
  · cases unread with
    | nil =>
        rw [List.append_nil] at hrest
        have hend := IsStep.atEnd (hrest ▸ htrivia)
        rwa [hend.step_eq]
    | cons c text =>
        have hlexeme := IsStep.lexeme hrest htrivia hbare
        rwa [hlexeme.step_eq]
  · have hcomment := IsStep.comment hrest htrivia hbody
    rwa [hcomment.step_eq]

/-- What a step does, all of it. -/
theorem step_eq_iff {outcome : Outcome} {last : Cursor} :
    cursor.step = (outcome, last) ↔ cursor.IsStep outcome last := by
  constructor
  · intro h
    have hstep := isStep_step cursor
    rwa [h] at hstep
  · exact IsStep.step_eq

/-- An error is a comment that is never closed, or the fault of a lexeme. -/
theorem IsStep.of_error {error : LexicalError} {last : Cursor}
    (h : cursor.IsStep (.error error) last) :
    (∃ trivia body, cursor.rest = trivia ++ '/' :: '*' :: body ∧
      IsTrivia trivia ('/' :: '*' :: body) ∧ ¬ ['*', '/'] <:+: body ∧
      error = ⟨.unterminatedComment,
        (cursor.past trivia ('/' :: '*' :: body)).spanOver ('/' :: '*' :: body)⟩ ∧
      last = cursor.past cursor.rest []) ∨
    ∃ trivia c text, cursor.rest = trivia ++ c :: text ∧ IsTrivia trivia (c :: text) ∧
      Bare (c :: text) ∧ (Lexeme.scan c text).verdict = .error error.fault ∧
      error.span = (cursor.past trivia (c :: text)).spanOver (Lexeme.scan c text).read ∧
      last = cursor.past (trivia ++ (Lexeme.scan c text).read) (Lexeme.scan c text).rest := by
  generalize houtcome : (Except.error error : Outcome) = outcome at h
  cases h with
  | atEnd htrivia => cases houtcome
  | comment hrest htrivia hbody =>
      exact .inl ⟨_, _, hrest, htrivia, hbody, Except.error.inj houtcome, rfl⟩
  | lexeme hrest htrivia hbare =>
      obtain ⟨hverdict, hspan⟩ := Lexeme.outcome_eq_error houtcome.symm
      exact .inr ⟨_, _, _, hrest, htrivia, hbare, hverdict, hspan, rfl⟩

/-- Where neither trivia nor a comment begins, the step begins. -/
theorem span_start_step_of_bare (hbare : Bare cursor.rest) :
    cursor.step.1.span.start = cursor.position := by
  rw [step_eq, Reading.span_toOutcome, Reading.trivia_ofText,
    skip_of_piece?_eq_none hbare.piece?_eq_none]
  rfl

/-- An open comment is found just where one stands behind the trivia, and it takes the rest of the
text. -/
theorem step_unterminatedComment_iff (span : Span) (last : Cursor) :
    cursor.step = (.error ⟨.unterminatedComment, span⟩, last) ↔
      ∃ trivia body, cursor.rest = trivia ++ '/' :: '*' :: body ∧
        IsTrivia trivia ('/' :: '*' :: body) ∧ ¬ ['*', '/'] <:+: body ∧
        span = ⟨cursor.position.after trivia, cursor.position.after cursor.rest, cursor.fileId⟩ ∧
        last = cursor.past cursor.rest [] := by
  rw [step_eq_iff]
  constructor
  · intro h
    rcases h.of_error with ⟨trivia, body, hrest, htrivia, hbody, herror, hlast⟩ |
      ⟨trivia, c, text, _, _, _, hverdict, _⟩
    · obtain ⟨-, rfl⟩ := LexicalError.mk.inj herror
      exact ⟨trivia, body, hrest, htrivia, hbody, by simp [spanOver, past, hrest], hlast⟩
    · -- No lexeme has this fault.
      cases Lexeme.refused_of_scan hverdict with
      | interpreted hc hclass => cases hclass
      | character hc hclass => cases hclass
      | numeral hc hclass => cases hclass
  · rintro ⟨trivia, body, hrest, htrivia, hbody, rfl, rfl⟩
    have hcomment := IsStep.comment hrest htrivia hbody
    simpa [spanOver, past, hrest] using hcomment

end Cursor

/-- A step skips trivia and nothing else, as far as trivia goes.  What it skips is white space, line
comments up to their line feed and block comments up to the first `*/`, and where it stops stands
none of these.  Only a comment that is never closed is an error.  The step takes it with everything
behind it. -/
theorem Lexer.trivia_skipping (cursor : Cursor) :
    (∀ trivia unread, skip cursor.rest = (trivia, unread) ↔
      cursor.rest = trivia ++ unread ∧ IsTrivia trivia unread ∧
        (Bare unread ∨ Unclosed unread)) ∧
    (∀ trivia unread, skip cursor.rest = (trivia, unread) → Bare unread →
      cursor.step = (cursor.past trivia unread).step ∧
        cursor.step.1.span.start = cursor.position.after trivia ∧
        ∀ span, cursor.step.1 ≠ .error ⟨.unterminatedComment, span⟩) ∧
    ∀ span last, cursor.step = (.error ⟨.unterminatedComment, span⟩, last) ↔
      ∃ trivia body, cursor.rest = trivia ++ '/' :: '*' :: body ∧
        IsTrivia trivia ('/' :: '*' :: body) ∧ ¬ ['*', '/'] <:+: body ∧
        span = ⟨cursor.position.after trivia, cursor.position.after cursor.rest, cursor.fileId⟩ ∧
        last = cursor.past cursor.rest [] := by
  refine ⟨fun trivia unread => skip_eq_iff, ?_, cursor.step_unterminatedComment_iff⟩
  intro trivia unread hskip hbare
  obtain ⟨hrest, htrivia, -⟩ := skip_eq_iff.1 hskip
  have hstep := Cursor.step_past_trivia hrest htrivia
  refine ⟨hstep, ?_, ?_⟩
  · rw [hstep]
    exact Cursor.span_start_step_of_bare hbare
  · intro span herror
    obtain ⟨before, body, hrest', hbefore, hbody, -⟩ :=
      (cursor.step_unterminatedComment_iff span cursor.step.2).1 (Prod.ext herror rfl)
    have hopen := skip_eq_iff.2 ⟨hrest', hbefore, .inr (.intro hbody)⟩
    rw [hskip] at hopen
    obtain ⟨-, rfl⟩ := Prod.mk.inj hopen
    exact hbare.block (List.prefix_append ['/', '*'] body)

end Lexis
