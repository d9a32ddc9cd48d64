import Lexis.Lexer.Basic

/-!
# One step of a lexer

A step of a cursor is the reading of the unread text, placed at the position of
the cursor.  `Reading.toOutcome` is what the reading is handed out as,
`Reading.stop` the position behind it, and `Cursor.step_eq` the step.

`Reading.ofText` branches on what follows the trivia at the head of a text, and
each of its three branches has an equation here.
-/

namespace Lexis

namespace Reading

/-- The position behind a reading that begins at `start`. -/
def stop (reading : Reading) (start : Position) : Position :=
  (start.after reading.trivia).after reading.read

/-- What is handed out for a reading that begins at `start`. -/
def toOutcome (reading : Reading) (start : Position) (fileId : Nat) : Outcome :=
  let span : Span := ⟨start.after reading.trivia, reading.stop start, fileId⟩
  match reading.outcome with
  | none => .ok (.endOfInput span)
  | some (.ok lexeme) => .ok (lexeme.toToken span)
  | some (.error fault) => .error ⟨fault, span⟩

/-- The reading with more trivia in front. -/
def behind (reading : Reading) (before : List Char) : Reading :=
  { reading with trivia := before ++ reading.trivia }

@[simp] theorem behind_outcome (reading : Reading) (before : List Char) :
    (reading.behind before).outcome = reading.outcome := rfl

@[simp] theorem behind_rest (reading : Reading) (before : List Char) :
    (reading.behind before).rest = reading.rest := rfl

theorem stop_behind (reading : Reading) (before : List Char) (start : Position) :
    (reading.behind before).stop start = reading.stop (start.after before) := by
  simp [stop, behind]

/-- Trivia in front of a reading moves what is handed out for it. -/
theorem toOutcome_behind (reading : Reading) (before : List Char) (start : Position)
    (fileId : Nat) :
    (reading.behind before).toOutcome start fileId =
      reading.toOutcome (start.after before) fileId := by
  simp [toOutcome, stop, behind]

/-- Only the reading at the end of the text is handed out as the end of the
source. -/
theorem isEndOfInput_toOutcome (reading : Reading) (start : Position) (fileId : Nat) :
    (reading.toOutcome start fileId).isEndOfInput = reading.outcome.isNone := by
  unfold toOutcome
  rcases reading.outcome with _ | (fault | lexeme)
  · rfl
  · rfl
  · exact lexeme.isEndOfInput_toToken _

/-- Behind the trivia stands the end of the text, a comment that is never closed, or
a lexeme. -/
theorem ofText_cases (text : List Char) :
    ((Trivia.skip text).2 = [] ∧ ofText text = ⟨text, [], [], none⟩) ∨
      (∃ body, (Trivia.skip text).2 = '/' :: '*' :: body ∧
        ofText text =
          ⟨(Trivia.skip text).1, '/' :: '*' :: body, [], some (.error .unterminatedComment)⟩) ∨
      ∃ c rest, (Trivia.skip text).2 = c :: rest ∧ ¬ ['/', '*'] <+: c :: rest ∧
        ofText text =
          ⟨(Trivia.skip text).1, (Lexeme.scan c rest).read, (Lexeme.scan c rest).rest,
            some (Lexeme.scan c rest).verdict⟩ := by
  have happend := Trivia.skip_append text
  unfold ofText
  generalize Trivia.skip text = skipped at happend ⊢
  obtain ⟨trivia, unread⟩ := skipped
  simp only at happend ⊢
  split
  · exact .inl ⟨rfl, by simpa using happend⟩
  · exact .inr (.inl ⟨_, rfl, rfl⟩)
  · next c rest hopen =>
      refine .inr (.inr ⟨c, rest, rfl, ?_, rfl⟩)
      rintro ⟨body, hbody⟩
      simp only [List.cons_append, List.nil_append, List.cons.injEq] at hbody
      exact hopen body hbody.1.symm hbody.2.symm

/-- The reading at the end of the text takes trivia only. -/
theorem ofText_of_outcome_eq_none {text : List Char} (h : (ofText text).outcome = none) :
    ofText text = ⟨text, [], [], none⟩ := by
  rcases ofText_cases text with ⟨_, htext⟩ | ⟨body, _, htext⟩ | ⟨c, rest, _, _, htext⟩
  · exact htext
  · simp [htext] at h
  · simp [htext] at h

/-- A text whose trivia ends in front of a lexeme is read as that lexeme. -/
theorem ofText_of_skip {text : List Char} {trivia : List Char} {c : Char} {rest : List Char}
    (hskip : Trivia.skip text = (trivia, c :: rest)) (hopen : ¬ ['/', '*'] <+: c :: rest) :
    ofText text =
      ⟨trivia, (Lexeme.scan c rest).read, (Lexeme.scan c rest).rest,
        some (Lexeme.scan c rest).verdict⟩ := by
  rcases ofText_cases text with ⟨hnil, _⟩ | ⟨body, hbody, _⟩ | ⟨d, rest', hrest, _, htext⟩
  · simp [hskip] at hnil
  · rw [hskip] at hbody
    exact absurd ⟨body, hbody.symm⟩ hopen
  · rw [hskip] at hrest htext
    obtain ⟨rfl, rfl⟩ := by simpa using hrest
    exact htext

theorem trivia_ofText (text : List Char) : (ofText text).trivia = (Trivia.skip text).1 := by
  unfold ofText
  simp only
  split <;> rfl

/-- The text left by a reading leads to where the whole text leads. -/
theorem after_rest_ofText (text : List Char) (start : Position) :
    ((ofText text).stop start).after (ofText text).rest = start.after text := by
  have happend := congrArg start.after (ofText_append text)
  simpa [stop] using happend

/-- The end of the text is read as what it is. -/
@[simp] theorem ofText_nil : ofText [] = ⟨[], [], [], none⟩ := by
  simp [ofText, Trivia.skip, Trivia.piece?]

end Reading

/-- A step of a cursor is the reading of its unread text, at its position. -/
theorem Cursor.step_eq (cursor : Cursor) :
    cursor.step =
      ((Reading.ofText cursor.rest).toOutcome cursor.position cursor.fileId,
        { cursor with
          rest := (Reading.ofText cursor.rest).rest
          position := (Reading.ofText cursor.rest).stop cursor.position }) := by
  have happend := Reading.ofText_append cursor.rest
  simp only [Cursor.step, Reading.toOutcome, Reading.stop, Cursor.spanSince, advanceBy]
  generalize Reading.ofText cursor.rest = reading at happend ⊢
  rw [← happend]
  rcases reading.outcome with _ | (fault | lexeme) <;> simp

end Lexis
