import Lexis.Lexeme.Scan

/-!
# What becomes of a scan

`Scan.map` and `Scan.behind` change the value and the characters taken, and they
leave the success or the fault of a scan as it is.  `Scan.followedBy` is the same
scan of a longer text.
-/

namespace Lexis

namespace Scan

variable {α β : Type} (scan : Scan α)

@[simp] theorem behind_verdict (before : List Char) :
    (scan.behind before).verdict = scan.verdict := rfl

@[simp] theorem behind_read (before : List Char) :
    (scan.behind before).read = before ++ scan.read := rfl

@[simp] theorem behind_rest (before : List Char) : (scan.behind before).rest = scan.rest := rfl

@[simp] theorem map_read (f : α → β) : (scan.map f).read = scan.read := rfl

@[simp] theorem map_rest (f : α → β) : (scan.map f).rest = scan.rest := rfl

/-- A changed value is no fault. -/
@[simp] theorem map_verdict_eq_error {f : α → β} {fault : Fault} :
    (scan.map f).verdict = .error fault ↔ scan.verdict = .error fault := by
  cases h : scan.verdict <;> simp [map, h, Except.map]

@[simp] theorem behind_behind (before first : List Char) :
    (scan.behind before).behind first = scan.behind (first ++ before) := by
  simp [behind]

@[simp] theorem map_behind (f : α → β) (before : List Char) :
    (scan.behind before).map f = (scan.map f).behind before := rfl

@[simp] theorem map_id : scan.map (fun a => a) = scan := by
  obtain ⟨read, rest, verdict⟩ := scan
  cases verdict <;> rfl

@[simp] theorem map_map {γ : Type} (f : α → β) (g : β → γ) :
    (scan.map f).map g = scan.map fun a => g (f a) := by
  cases h : scan.verdict <;> simp [map, h, Except.map]

/-- The text is what the scan has taken of it, and what it leaves. -/
theorem Splits.eq_append {scan : Scan α} {before taken text : List Char}
    (h : scan.Splits (before ++ text)) (hread : scan.read = before ++ taken) :
    text = taken ++ scan.rest := by
  rw [Splits, hread, List.append_assoc] at h
  exact (List.append_cancel_left h).symm

/-! ## More text behind -/

/-- The same scan of a text with `more` behind it. -/
def followedBy (more : List Char) : Scan α :=
  { scan with rest := scan.rest ++ more }

@[simp] theorem followedBy_verdict (more : List Char) :
    (scan.followedBy more).verdict = scan.verdict := rfl

@[simp] theorem followedBy_read (more : List Char) :
    (scan.followedBy more).read = scan.read := rfl

@[simp] theorem followedBy_rest (more : List Char) :
    (scan.followedBy more).rest = scan.rest ++ more := rfl

end Scan

end Lexis
