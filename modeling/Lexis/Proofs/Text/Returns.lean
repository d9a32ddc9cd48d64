/-!
# Line endings of two characters

`withReturns` puts a carriage return in front of every line feed of a text.  Reading the two texts
side by side, the same amount of both is left after each step, but for one thing: what goes on to
the end of a line takes the carriage return along in one of them.  `InStep` is this relation
between what is left of the two.
-/

namespace Lexis

/-- The text with a carriage return in front of every line feed. -/
def withReturns (text : List Char) : List Char :=
  text.flatMap fun c => if c = '\n' then ['\r', '\n'] else [c]

@[simp] theorem withReturns_nil : withReturns [] = [] := rfl

@[simp] theorem withReturns_newline (text : List Char) :
    withReturns ('\n' :: text) = '\r' :: '\n' :: withReturns text := rfl

theorem withReturns_cons {c : Char} (hc : c ≠ '\n') (text : List Char) :
    withReturns (c :: text) = c :: withReturns text := by
  rw [withReturns, List.flatMap_cons, if_neg hc]
  rfl

@[simp] theorem withReturns_append (text more : List Char) :
    withReturns (text ++ more) = withReturns text ++ withReturns more :=
  List.flatMap_append

/-- There is nothing to do on a line. -/
theorem withReturns_of_not_mem {line : List Char} (h : '\n' ∉ line) : withReturns line = line := by
  induction line with
  | nil => rfl
  | cons c line ih =>
      rw [List.mem_cons, not_or] at h
      rw [withReturns_cons (Ne.symm h.1), ih h.2]

/-- A line and the lines behind it. -/
theorem withReturns_line {line : List Char} (h : '\n' ∉ line) (more : List Char) :
    withReturns (line ++ '\n' :: more) = line ++ ['\r'] ++ '\n' :: withReturns more := by
  rw [withReturns_append, withReturns_of_not_mem h, withReturns_newline, List.append_assoc]
  rfl

/-- A character at the head was there before, unless it is a carriage return. -/
theorem exists_cons_of_withReturns {c : Char} (hc : c ≠ '\r') {text behind : List Char}
    (h : withReturns text = c :: behind) : ∃ more, text = c :: more := by
  cases text with
  | nil => cases h
  | cons d text =>
      by_cases hd : d = '\n'
      · subst hd
        exact absurd (List.cons.inj h).1.symm hc
      · rw [withReturns_cons hd] at h
        exact ⟨text, by rw [(List.cons.inj h).1]⟩

/-- What is left of a text and of the text with carriage returns. -/
inductive InStep : List Char → List Char → Prop where
  | whole (text : List Char) : InStep text (withReturns text)
  /-- The carriage return at the end of the line has been taken. -/
  | taken (text : List Char) : InStep ('\n' :: text) ('\n' :: withReturns text)

/-- Nothing changes where no line ends. -/
theorem inStep_of_not_mem {line : List Char} (h : '\n' ∉ line) : InStep line line := by
  have hwhole := InStep.whole line
  rwa [withReturns_of_not_mem h] at hwhole

/-- What is left of a line and of the line with a carriage return behind it. -/
inductive LeftOfLine : List Char → List Char → Prop where
  | kept (rest : List Char) : LeftOfLine rest (rest ++ ['\r'])
  | taken : LeftOfLine [] []

/-- With further lines behind, the two texts are in step. -/
theorem LeftOfLine.inStep {rest returned : List Char} (h : LeftOfLine rest returned)
    (hrest : '\n' ∉ rest) (more : List Char) :
    InStep (rest ++ '\n' :: more) (returned ++ '\n' :: withReturns more) := by
  cases h with
  | kept =>
      have hwhole := InStep.whole (rest ++ '\n' :: more)
      rwa [withReturns_line hrest] at hwhole
  | taken => exact .taken more

end Lexis
