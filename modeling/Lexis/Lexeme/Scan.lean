import Lexis.Fault

/-!
# Scans

The outcome of reading one thing at the head of a text: the characters taken, the characters left,
and the value read or the fault found.  A faulty stretch is taken as a whole, so that reading can
go on behind it.
-/

namespace Lexis

/-- The outcome of reading something of type `α` at the head of a text. -/
structure Scan (α : Type) where
  /-- The characters taken. -/
  read : List Char
  /-- The characters left. -/
  rest : List Char
  /-- What the characters taken mean. -/
  verdict : Except Fault α

namespace Scan

variable {α β : Type}

/-- The same scan with its value changed by `f`. -/
def map (f : α → β) (scan : Scan α) : Scan β :=
  ⟨scan.read, scan.rest, scan.verdict.map f⟩

/-- The scan that has taken `before` first. -/
def behind (scan : Scan α) (before : List Char) : Scan α :=
  { scan with read := before ++ scan.read }

/-- The scan takes nothing but characters of `text`, from its head, and leaves the others. -/
def Splits (scan : Scan α) (text : List Char) : Prop :=
  scan.read ++ scan.rest = text

theorem Splits.map {scan : Scan α} {text : List Char} (h : scan.Splits text) (f : α → β) :
    (scan.map f).Splits text := h

theorem Splits.behind {scan : Scan α} {text : List Char} (h : scan.Splits text)
    (before : List Char) : (scan.behind before).Splits (before ++ text) := by
  unfold Splits at h ⊢
  simp [Scan.behind, h]

theorem Splits.length_rest_le {scan : Scan α} {text : List Char} (h : scan.Splits text) :
    scan.rest.length ≤ text.length := by
  have := congrArg List.length h
  simp at this
  omega

end Scan

end Lexis
