import Lexis.Proofs.Lexeme.Scan
import Lexis.Proofs.Text.Runs

/-!
# Looking ahead

A scan may look further than it takes.  `Scan.LooksAhead` bounds how far: what it finds
does not change with the text behind that.

The laws below put bounds together as the scanners are put together.

* `of_nil`, `of_stop`, `of_take` and `of_const` are the scans of a character or of none.
* `of_run`, `of_takeWhile` and `of_head` go on as another scan, behind a run of characters
  or right away, and `of_behind` lets another scan begin.
* `mono`, `map` and `behind` change the bound, the value and what is taken first.
-/

namespace Lexis

/-- Behind `before`, the scan takes something from the head of `text` and goes by no more
than the next `count` characters: with another text behind what is taken that has them too,
the scan is the same. -/
def Scan.LooksAhead {α : Type} (count : Nat) (f : List Char → Scan α)
    (before text : List Char) : Prop :=
  ∃ taken, (f text).read = before ++ taken ∧
    ∀ other, (f text).rest.take count = other.take count →
      f (taken ++ other) = ⟨before ++ taken, other, (f text).verdict⟩

/-- What is taken begins as the text does, also with another text behind it. -/
theorem Scan.Splits.head?_eq {α : Type} {scan : Scan α} {before taken text other : List Char}
    {count : Nat} (h : scan.Splits (before ++ text)) (hread : scan.read = before ++ taken)
    (htake : scan.rest.take (count + 1) = other.take (count + 1)) :
    (taken ++ other).head? = text.head? := by
  conv => rhs; rw [h.eq_append hread]
  exact head?_append_congr htake

namespace Scan.LooksAhead

variable {α β : Type} {count : Nat} {f : List Char → Scan α} {before text : List Char}

theorem mono {more : Nat} (h : LooksAhead count f before text) (hle : count ≤ more) :
    LooksAhead more f before text := by
  obtain ⟨taken, hread, hother⟩ := h
  refine ⟨taken, hread, fun other htake => hother other ?_⟩
  have hless := congrArg (List.take count) htake
  rwa [List.take_take, List.take_take, Nat.min_eq_left hle] at hless

theorem map (h : LooksAhead count f before text) (g : α → β) :
    LooksAhead count (fun text => (f text).map g) before text := by
  obtain ⟨taken, hread, hother⟩ := h
  refine ⟨taken, hread, fun other htake => ?_⟩
  simp only [hother other htake]
  rfl

theorem behind (h : LooksAhead count f before text) (first : List Char) :
    LooksAhead count (fun text => (f text).behind first) (first ++ before) text := by
  obtain ⟨taken, hread, hother⟩ := h
  refine ⟨taken, ?_, fun other htake => ?_⟩
  · simp [hread]
  · simp only [hother other htake]
    simp [Scan.behind]

/-- At the end of the text, nothing is taken and nothing else can follow. -/
theorem of_nil {verdict : Except Fault α} (h : f [] = ⟨before, [], verdict⟩) :
    LooksAhead 1 f before [] := by
  refine ⟨[], by rw [h, List.append_nil], fun other htake => ?_⟩
  rw [h] at htake
  rw [eq_nil_of_take htake, List.append_nil, h, List.append_nil]

/-- A character that stops the scan is looked at. -/
theorem of_stop {c : Char} {verdict : Except Fault α}
    (h : ∀ text, f (c :: text) = ⟨before, c :: text, verdict⟩) :
    LooksAhead 1 f before (c :: text) := by
  refine ⟨[], by rw [h, List.append_nil], fun other htake => ?_⟩
  rw [h] at htake
  obtain ⟨behind, rfl⟩ := List.head?_eq_some_iff.1 (head?_congr htake)
  rw [List.nil_append, h, h, List.append_nil]

/-- Nothing is looked at behind a character that is all the scan takes. -/
theorem of_take {c : Char} {verdict : Except Fault α}
    (h : ∀ text, f (c :: text) = ⟨before ++ [c], text, verdict⟩) :
    LooksAhead count f before (c :: text) := by
  refine ⟨[c], by rw [h], fun other htake => ?_⟩
  rw [List.singleton_append, h, h]

/-- Behind a run, the scan may go on as another one, if it does so on all texts with the same
first character. -/
theorem of_run (g : List Char → Scan α) {run behind : List Char}
    (h : LooksAhead (count + 1) g (before ++ run) behind)
    (hsplits : (g behind).Splits (before ++ run ++ behind))
    (hf : ∀ other : List Char, other.head? = behind.head? → f (run ++ other) = g other) :
    LooksAhead (count + 1) f before (run ++ behind) := by
  obtain ⟨taken, hread, hother⟩ := h
  refine ⟨run ++ taken, by rw [hf behind rfl, hread, List.append_assoc], fun other htake => ?_⟩
  rw [hf behind rfl] at htake ⊢
  rw [List.append_assoc, hf _ (hsplits.head?_eq hread htake), hother other htake,
    List.append_assoc]

/-- The scan may take the longest run of a class first. -/
theorem of_takeWhile {p : Char → Bool} (g : List Char → List Char → Scan α)
    (hf : ∀ text, f text = g (text.takeWhile p) (text.dropWhile p))
    (hsplits : (f text).Splits (before ++ text))
    (h : ∀ run behind, LooksAhead (count + 1) (g run) (before ++ run) behind) :
    LooksAhead (count + 1) f before text := by
  have htext := List.takeWhile_append_dropWhile (p := p) (l := text)
  rw [hf] at hsplits
  rw [← htext]
  refine .of_run (g (text.takeWhile p)) (h _ _) ?_ fun other hhead => ?_
  · rwa [List.append_assoc, htext]
  · rw [hf, takeWhile_of_head? hhead, dropWhile_of_head? hhead]

/-- The scan may be another one, if it is so on all texts with the same first character. -/
theorem of_head (g : List Char → Scan α) (h : LooksAhead (count + 1) g before text)
    (hsplits : (g text).Splits (before ++ text))
    (hf : ∀ other : List Char, other.head? = text.head? → f other = g other) :
    LooksAhead (count + 1) f before text := by
  have hrun : LooksAhead (count + 1) f before ([] ++ text) :=
    .of_run g (by simpa using h) (by simpa using hsplits) hf
  exact hrun

/-- Nothing is looked at by a scan that takes nothing and finds the same everywhere. -/
theorem of_const {read : List Char} {verdict : Except Fault α}
    (hf : ∀ text, f text = ⟨read, text, verdict⟩) : LooksAhead count f read text := by
  refine ⟨[], by rw [hf, List.append_nil], fun other htake => ?_⟩
  rw [List.nil_append, hf, hf, List.append_nil]

/-- What is taken first may be taken before another scan begins. -/
theorem of_behind {g : List Char → Scan α} (h : LooksAhead count g [] text) (first : List Char)
    (hf : ∀ text, f (first ++ text) = (g text).behind first) :
    LooksAhead count f [] (first ++ text) := by
  obtain ⟨taken, hread, hother⟩ := h
  refine ⟨first ++ taken, ?_, fun other htake => ?_⟩
  · rw [hf, Scan.behind_read, hread]
    rfl
  · rw [hf] at htake ⊢
    rw [List.append_assoc, hf, hother other htake]
    rfl

end Scan.LooksAhead

end Lexis
