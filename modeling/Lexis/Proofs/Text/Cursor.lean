import Lexis.Proofs.Text.Lines
import Lexis.Proofs.Text.Slice
import Lexis.Text.Cursor

/-!
# A cursor parts its source

However a cursor is moved, its source stays parted in two: what has been read, and what is still
unread.

* `Operation` is what may be done with a cursor, and `performAll` does one after the other.
* `IsBehind` is the invariant.  `IsBehind.perform` keeps it over one operation, and
  `IsBehind.performAll` over any number.
* `IsBehind.slice?_spanSince` says what is cut out of the source between two places where the
  cursor has stood.
-/

namespace Lexis

/-- The longest beginning of a text in which every character satisfies `p`. -/
structure IsLongestRun (p : Char → Bool) (run text : List Char) : Prop where
  isPrefix : run <+: text
  pass : ∀ c ∈ run, p c = true
  longest : ∀ other, other <+: text → (∀ c ∈ other, p c = true) → other.length ≤ run.length

theorem isLongestRun_takeWhile (p : Char → Bool) (text : List Char) :
    IsLongestRun p (text.takeWhile p) text where
  isPrefix := List.takeWhile_prefix p
  pass := fun c hc => List.all_eq_true.1 List.all_takeWhile c hc
  longest := by
    intro other hother hpass
    obtain ⟨rest, rfl⟩ := hother
    rw [List.takeWhile_append_of_pos hpass, List.length_append]
    omega

/-- There is one longest run. -/
theorem IsLongestRun.eq_takeWhile {p : Char → Bool} {run text : List Char}
    (h : IsLongestRun p run text) : run = text.takeWhile p := by
  have htaken := isLongestRun_takeWhile p text
  have hle := htaken.longest run h.isPrefix h.pass
  have hge := h.longest _ htaken.isPrefix htaken.pass
  rw [List.prefix_iff_eq_take.1 h.isPrefix, List.prefix_iff_eq_take.1 htaken.isPrefix]
  congr 1
  omega

namespace Cursor

/-! ## Moving on -/

section Move

variable {cursor : Cursor} {c : Char} {text : List Char} {p : Char → Bool}

/-- Moving twice is moving over both counts at once. -/
theorem advanceBy_advanceBy (cursor : Cursor) (count more : Nat) :
    (cursor.advanceBy count).advanceBy more = cursor.advanceBy (count + more) := by
  simp only [advanceBy, List.drop_drop, List.take_add, Position.after_append]

/-- At the end there is nothing to move over. -/
theorem advanceBy_of_rest_nil (hrest : cursor.rest = []) (count : Nat) :
    cursor.advanceBy count = cursor := by
  obtain ⟨source, rest, position, fileId⟩ := cursor
  obtain rfl : rest = [] := hrest
  unfold advanceBy
  rw [List.drop_nil, List.take_nil, Position.after_nil]

theorem current_of_rest (hrest : cursor.rest = c :: text) : cursor.current = some c := by
  unfold current peek
  rw [hrest]
  rfl

theorem advanceWhile_of_pos (hrest : cursor.rest = c :: text) (hp : p c = true) :
    (cursor.advanceWhile p).1 = ((cursor.advanceBy 1).advanceWhile p).1 + 1 ∧
      (cursor.advanceWhile p).2 = ((cursor.advanceBy 1).advanceWhile p).2 := by
  have hcount : (cursor.advanceWhile p).1 = ((cursor.advanceBy 1).advanceWhile p).1 + 1 := by
    show (cursor.rest.takeWhile p).length = ((cursor.rest.drop 1).takeWhile p).length + 1
    rw [hrest, List.takeWhile_cons_of_pos hp]
    rfl
  refine ⟨hcount, ?_⟩
  show cursor.advanceBy (cursor.advanceWhile p).1 =
    (cursor.advanceBy 1).advanceBy ((cursor.advanceBy 1).advanceWhile p).1
  rw [advanceBy_advanceBy, hcount, Nat.add_comm]

/-- Where no next character satisfies `p`, nothing is moved over. -/
theorem advanceWhile_of_neg (h : cursor.current.any p = false) :
    cursor.advanceWhile p = (0, cursor) := by
  have hrun : cursor.rest.takeWhile p = [] := by
    cases hrest : cursor.rest with
    | nil => rfl
    | cons c text =>
        rw [current_of_rest hrest] at h
        exact List.takeWhile_cons_of_neg (Bool.eq_false_iff.1 h)
  unfold advanceWhile
  rw [hrun]
  rfl

end Move

/-! ## Operations -/

/-- What may be done with a cursor.  The first four look at it or ahead, and move nothing. -/
inductive Operation where
  | position
  | peek (ahead : UInt64)
  | isAtEnd
  | startsWith (text : String)
  | advance
  | advanceBy (count : Nat)
  | advanceWhile (p : Char → Bool)

/-- The cursor after an operation. -/
def perform (cursor : Cursor) : Operation → Cursor
  | .position | .peek _ | .isAtEnd | .startsWith _ => cursor
  | .advance => cursor.advance.2
  | .advanceBy count => cursor.advanceBy count
  | .advanceWhile p => (cursor.advanceWhile p).2

/-- The cursor after operations, one after the other. -/
def performAll (cursor : Cursor) (operations : List Operation) : Cursor :=
  operations.foldl perform cursor

/-! ## The invariant -/

/-- The cursor stands right behind `before`, the beginning of its source. -/
structure IsBehind (cursor : Cursor) (before : List Char) : Prop where
  source : cursor.source.toList = before ++ cursor.rest
  position : cursor.position = Position.start.after before

theorem isBehind_ofSource (source : String) (fileId : Nat) : (ofSource source fileId).IsBehind [] :=
  ⟨rfl, rfl⟩

namespace IsBehind

variable {cursor : Cursor} {before : List Char}

theorem advanceBy (h : cursor.IsBehind before) (count : Nat) :
    (cursor.advanceBy count).IsBehind (before ++ cursor.rest.take count) where
  source := by
    rw [advanceBy_source, advanceBy_rest, List.append_assoc, List.take_append_drop, h.source]
  position := by
    rw [advanceBy_position, h.position, Position.after_append]

/-- An operation takes characters from the head of what is unread, or none. -/
theorem perform (h : cursor.IsBehind before) (operation : Operation) :
    ∃ taken, cursor.rest = taken ++ (cursor.perform operation).rest ∧
      (cursor.perform operation).IsBehind (before ++ taken) := by
  have hmove : ∀ count, ∃ taken, cursor.rest = taken ++ (cursor.advanceBy count).rest ∧
      (cursor.advanceBy count).IsBehind (before ++ taken) := by
    intro count
    exact ⟨cursor.rest.take count, (List.take_append_drop _ _).symm, h.advanceBy count⟩
  have hstay : ∃ taken, cursor.rest = taken ++ cursor.rest ∧ cursor.IsBehind (before ++ taken) := by
    refine ⟨[], rfl, ?_⟩
    rw [List.append_nil]
    exact h
  cases operation with
  | position => exact hstay
  | peek ahead => exact hstay
  | isAtEnd => exact hstay
  | startsWith text => exact hstay
  | advance => exact hmove 1
  | advanceBy count => exact hmove count
  | advanceWhile p => exact hmove _

theorem performAll (h : cursor.IsBehind before) (operations : List Operation) :
    ∃ taken, cursor.rest = taken ++ (cursor.performAll operations).rest ∧
      (cursor.performAll operations).IsBehind (before ++ taken) := by
  induction operations generalizing cursor before with
  | nil =>
      refine ⟨[], rfl, ?_⟩
      rw [List.append_nil]
      exact h
  | cons operation operations ih =>
      obtain ⟨first, hfirst, hstep⟩ := h.perform operation
      obtain ⟨taken, htaken, hlast⟩ := ih hstep
      refine ⟨first ++ taken, ?_, ?_⟩
      · rw [hfirst, htaken, List.append_assoc]
        rfl
      · rw [← List.append_assoc]
        exact hlast

/-- From an earlier place on, the text that the cursor has gone over is cut out of the source. -/
theorem slice?_spanSince {mark : Cursor} {consumed : List Char} (hmark : mark.IsBehind before)
    (h : cursor.IsBehind (before ++ consumed)) :
    (cursor.spanSince mark.position).slice? cursor.source = some (String.ofList consumed) := by
  have hcut := Span.slice?_after before consumed cursor.rest cursor.fileId
  rw [← List.append_assoc, ← h.source, String.ofList_toList] at hcut
  rw [spanSince, hmark.position, h.position]
  exact hcut

end IsBehind

theorem source_performAll (cursor : Cursor) (operations : List Operation) :
    (cursor.performAll operations).source = cursor.source ∧
      (cursor.performAll operations).fileId = cursor.fileId := by
  induction operations generalizing cursor with
  | nil => exact ⟨rfl, rfl⟩
  | cons operation operations ih =>
      have hstep : (cursor.perform operation).source = cursor.source ∧
          (cursor.perform operation).fileId = cursor.fileId := by
        cases operation <;> exact ⟨rfl, rfl⟩
      obtain ⟨hsource, hfileId⟩ := ih (cursor.perform operation)
      exact ⟨hsource.trans hstep.1, hfileId.trans hstep.2⟩

end Cursor

end Lexis
