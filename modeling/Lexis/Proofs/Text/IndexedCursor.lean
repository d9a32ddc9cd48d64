import Lexis.Proofs.Text.Cursor
import Lexis.Text.IndexedCursor

/-!
# An index in place of the unread text

A cursor over an array keeps an index, and counts in words that wrap.  It is moved one character at
a time.  On a source of fewer than `2 ^ 32 - 1` characters, whatever is done with it comes to the
same as with the cursor that holds the unread text, and no count wraps.

* `peek_eq`, `isAtEnd_iff` and `startsWith_iff` say what lies ahead of an index, and `unread_past`
  what one character is.
* `InRange` keeps the counts below the ends of their words, and `InRange.past` keeps it over one
  character.
* `Represents` is the relation between the two cursors.  `Represents.advance`,
  `Represents.advanceBy` and `Represents.advanceWhile` keep it over one move,
  `Represents.performAll` over any operations.
* `Parts` is the state of a cursor as seen from outside: where it stands and what lies ahead.
  `Advances` is the same of its moves.
* `parts_source` is the main result.  It also says what is cut out of the source between two
  places where the cursor has stood.
-/

namespace Lexis

/-- A word that is not the last has its successor behind it. -/
theorem toNat_add_one_of_lt {word : UInt32} (h : word.toNat + 1 < UInt32.size) :
    (word + 1).toNat = word.toNat + 1 := by
  rw [UInt32.toNat_add, UInt32.toNat_one]
  exact Nat.mod_eq_of_lt h

namespace IndexedCursor

variable {cursor : IndexedCursor} {c : Char}

/-! ## What lies ahead of an index -/

/-- The characters from the index on. -/
def unread (cursor : IndexedCursor) : List Char :=
  cursor.chars.toList.drop cursor.index.toNat

theorem length_unread (cursor : IndexedCursor) :
    cursor.unread.length = cursor.chars.size - cursor.index.toNat :=
  List.length_drop

theorem peek_eq {ahead : UInt64} (h : cursor.index.toNat + ahead.toNat < UInt64.size) :
    cursor.peek ahead = cursor.unread[ahead.toNat]? := by
  unfold peek unread
  rw [toNat_add_of_lt h, List.getElem?_drop, Array.getElem?_toList]

theorem current_eq (cursor : IndexedCursor) : cursor.current = cursor.unread.head? := by
  have hplace : cursor.index.toNat + (0 : UInt64).toNat < UInt64.size := cursor.index.toNat_lt
  rw [List.head?_eq_getElem?]
  exact peek_eq hplace

theorem isAtEnd_iff : cursor.isAtEnd = true ↔ cursor.unread = [] := by
  unfold isAtEnd unread
  rw [decide_eq_true_iff, List.drop_eq_nil_iff, Array.length_toList]

/-- A place among the unread characters, or right behind them, is no place where an index wraps. -/
theorem peek_ofNat (hindex : cursor.index.toNat ≤ cursor.chars.size) {ahead : Nat}
    (hahead : ahead ≤ cursor.unread.length) :
    cursor.peek (.ofNat ahead) = cursor.unread[ahead]? := by
  have hsize := cursor.size_lt
  rw [length_unread] at hahead
  have htoNat : (UInt64.ofNat ahead).toNat = ahead := UInt64.toNat_ofNat_of_lt' (by omega)
  have hplace : cursor.index.toNat + (UInt64.ofNat ahead).toNat < UInt64.size := by
    rw [htoNat]
    omega
  rw [peek_eq hplace, htoNat]

theorem startsWith_iff_forall (text : String) :
    cursor.startsWith text = true ↔
      ∀ (ahead : Nat) (h : ahead < text.toList.length),
        cursor.peek (.ofNat ahead) = some text.toList[ahead] := by
  unfold startsWith
  simp only [List.all_eq_true, Prod.forall, List.mem_zipIdx_iff_getElem?, beq_iff_eq]
  constructor
  · intro h ahead hahead
    exact h _ ahead (List.getElem?_eq_getElem hahead)
  · intro h c ahead hc
    obtain ⟨hahead, rfl⟩ := List.getElem?_eq_some_iff.1 hc
    exact h ahead hahead

/-- To compare character by character is to ask for a beginning.  A text that is too long fails at
the first character that is not there, before an index wraps. -/
theorem startsWith_iff (hindex : cursor.index.toNat ≤ cursor.chars.size) (text : String) :
    cursor.startsWith text = true ↔ text.toList <+: cursor.unread := by
  rw [startsWith_iff_forall, List.prefix_iff_getElem?]
  constructor
  · intro h
    have hlength : text.toList.length ≤ cursor.unread.length := by
      apply Nat.le_of_not_lt
      intro hlong
      have hlast := h cursor.unread.length hlong
      rw [peek_ofNat hindex (Nat.le_refl _), List.getElem?_eq_none (Nat.le_refl _)] at hlast
      cases hlast
    intro ahead hahead
    rw [← peek_ofNat hindex (by omega)]
    exact h ahead hahead
  · intro h ahead hahead
    have hsome := h ahead hahead
    obtain ⟨hlt, -⟩ := List.getElem?_eq_some_iff.1 hsome
    rw [peek_ofNat hindex (Nat.le_of_lt hlt)]
    exact hsome

/-- The next character is the first of the unread ones. -/
theorem unread_past (h : cursor.current = some c) :
    cursor.unread = c :: (cursor.past c).unread := by
  have htail : (cursor.past c).unread = cursor.unread.tail := by
    unfold unread
    rw [toNat_index_past h, List.tail_drop]
    rfl
  rw [current_eq] at h
  obtain ⟨text, htext⟩ := List.head?_eq_some_iff.1 h
  rw [htail, htext]
  rfl

/-! ## One character after the other -/

theorem advance_of_some (h : cursor.current = some c) :
    cursor.advance = (some c, cursor.past c) := by
  unfold advance
  rw [h]

theorem advance_of_none (h : cursor.current = none) : cursor.advance = (none, cursor) := by
  unfold advance
  rw [h]

theorem advanceBy_of_none (h : cursor.current = none) (count : Nat) :
    cursor.advanceBy count = cursor := by
  cases count with
  | zero => rfl
  | succ count => rw [advanceBy, advance_of_none h]

theorem advanceBy_of_some (h : cursor.current = some c) (count : Nat) :
    cursor.advanceBy (count + 1) = (cursor.past c).advanceBy count := by
  rw [advanceBy, advance_of_some h]

/-- The moves stop where no character is left, and from there none is made. -/
theorem advanceBy_advanceBy (cursor : IndexedCursor) (count more : Nat) :
    (cursor.advanceBy count).advanceBy more = cursor.advanceBy (count + more) := by
  induction count generalizing cursor with
  | zero => rw [advanceBy, Nat.zero_add]
  | succ count ih =>
      cases hc : cursor.current with
      | none => rw [advanceBy_of_none hc, advanceBy_of_none hc, advanceBy_of_none hc]
      | some c =>
          rw [Nat.add_right_comm, advanceBy_of_some hc, advanceBy_of_some hc]
          exact ih (cursor.past c)

/-! ## Counts in words -/

/-- The index stays within a source that is short enough, and no count runs ahead of the index. -/
structure InRange (cursor : IndexedCursor) : Prop where
  size_lt : cursor.chars.size < UInt32.size - 1
  index_le : cursor.index.toNat ≤ cursor.chars.size
  line_le : cursor.line.toNat ≤ cursor.index.toNat + 1
  column_le : cursor.column.toNat ≤ cursor.index.toNat + 1
  offset_le : cursor.offset.toNat ≤ 4 * cursor.index.toNat

namespace InRange

theorem toNat_line_past (h : cursor.InRange) (hc : cursor.current = some c) :
    (cursor.past c).line.toNat =
      if c = '\n' then cursor.line.toNat + 1 else cursor.line.toNat := by
  have hindex := index_lt_of_current hc
  have hline : cursor.line.toNat + 1 < UInt32.size := by
    have := h.size_lt
    have := h.line_le
    omega
  unfold past
  split
  · exact toNat_add_one_of_lt hline
  · rfl

theorem toNat_column_past (h : cursor.InRange) (hc : cursor.current = some c) :
    (cursor.past c).column.toNat = if c = '\n' then 1 else cursor.column.toNat + 1 := by
  have hindex := index_lt_of_current hc
  have hcolumn : cursor.column.toNat + 1 < UInt32.size := by
    have := h.size_lt
    have := h.column_le
    omega
  unfold past
  split
  · rfl
  · exact toNat_add_one_of_lt hcolumn

theorem toNat_offset_past (h : cursor.InRange) (hc : cursor.current = some c) :
    (cursor.past c).offset.toNat = cursor.offset.toNat + c.utf8Size := by
  have hindex := index_lt_of_current hc
  have hwords : 4 * UInt32.size ≤ UInt64.size := by decide
  have hbytes : c.utf8Size ≤ 4 := c.utf8Size_le_four
  have hchars := h.size_lt
  have hsize : (UInt64.ofNat c.utf8Size).toNat = c.utf8Size :=
    UInt64.toNat_ofNat_of_lt' (by omega)
  have hoffset : cursor.offset.toNat + (UInt64.ofNat c.utf8Size).toNat < UInt64.size := by
    have := h.offset_le
    omega
  have hadd := toNat_add_of_lt hoffset
  rw [hsize] at hadd
  exact hadd

/-- No count wraps over one character. -/
theorem position_past (h : cursor.InRange) (hc : cursor.current = some c) :
    (cursor.past c).position = cursor.position.next c := by
  unfold position Position.next
  rw [h.toNat_line_past hc, h.toNat_column_past hc, h.toNat_offset_past hc]
  split
  · rfl
  · rfl

theorem past (h : cursor.InRange) (hc : cursor.current = some c) : (cursor.past c).InRange where
  size_lt := h.size_lt
  index_le := by
    rw [toNat_index_past hc]
    exact index_lt_of_current hc
  line_le := by
    have := h.line_le
    rw [h.toNat_line_past hc, toNat_index_past hc]
    split <;> omega
  column_le := by
    have := h.column_le
    rw [h.toNat_column_past hc, toNat_index_past hc]
    split <;> omega
  offset_le := by
    have := h.offset_le
    have := c.utf8Size_le_four
    rw [h.toNat_offset_past hc, toNat_index_past hc]
    omega

end InRange

/-! ## The two cursors -/

/-- The cursor over an array stands where the other does, with the same text ahead. -/
structure Represents (indexed : IndexedCursor) (cursor : Cursor) : Prop where
  inRange : indexed.InRange
  chars : indexed.chars.toList = indexed.source.toList
  source : indexed.source = cursor.source
  unread : indexed.unread = cursor.rest
  position : indexed.position = cursor.position
  fileId : indexed.fileId = cursor.fileId

/-- A source that 32 bits can count is one that 64 bits can. -/
theorem length_lt_of_countable {source : String} (h : source.length < UInt32.size - 1) :
    source.length < UInt64.size :=
  Nat.lt_of_lt_of_le h (by decide)

theorem represents_ofSource (source : String) (fileId : Nat)
    (h : source.length < UInt32.size - 1) :
    (ofSource source fileId (length_lt_of_countable h)).Represents
      (Cursor.ofSource source fileId) where
  inRange := by
    refine ⟨?_, Nat.zero_le _, Nat.le_refl 1, Nat.le_refl 1, Nat.le_refl 0⟩
    show source.toList.toArray.size < UInt32.size - 1
    rw [List.size_toArray, String.length_toList]
    exact h
  chars := rfl
  source := rfl
  unread := rfl
  position := rfl
  fileId := rfl

namespace Represents

variable {indexed : IndexedCursor} {cursor : Cursor}

theorem current (h : indexed.Represents cursor) : indexed.current = cursor.current := by
  rw [current_eq, h.unread]
  exact List.head?_eq_getElem?

/-! ### One move -/

theorem past (h : indexed.Represents cursor) (hc : indexed.current = some c) :
    (indexed.past c).Represents (cursor.advanceBy 1) := by
  have hrest : cursor.rest = c :: (indexed.past c).unread := by
    rw [← h.unread]
    exact unread_past hc
  refine ⟨h.inRange.past hc, h.chars, h.source, ?_, ?_, h.fileId⟩
  · rw [Cursor.advanceBy_rest, hrest]
    rfl
  · rw [Cursor.advanceBy_position, hrest, h.inRange.position_past hc, h.position]
    rfl

theorem rest_eq_nil (h : indexed.Represents cursor) (hc : indexed.current = none) :
    cursor.rest = [] := by
  rw [current_eq, h.unread] at hc
  exact List.head?_eq_none_iff.1 hc

theorem advance (h : indexed.Represents cursor) :
    indexed.advance.1 = cursor.advance.1 ∧ indexed.advance.2.Represents cursor.advance.2 := by
  show indexed.advance.1 = cursor.current ∧ indexed.advance.2.Represents (cursor.advanceBy 1)
  rw [← h.current]
  cases hc : indexed.current with
  | some c =>
      rw [advance_of_some hc]
      exact ⟨rfl, h.past hc⟩
  | none =>
      rw [advance_of_none hc, Cursor.advanceBy_of_rest_nil (h.rest_eq_nil hc)]
      exact ⟨rfl, h⟩

theorem advanceBy (h : indexed.Represents cursor) (count : Nat) :
    (indexed.advanceBy count).Represents (cursor.advanceBy count) := by
  induction count generalizing indexed cursor with
  | zero => exact h
  | succ count ih =>
      cases hc : indexed.current with
      | some c =>
          rw [advanceBy_of_some hc, Nat.add_comm, ← Cursor.advanceBy_advanceBy]
          exact ih (h.past hc)
      | none =>
          rw [advanceBy_of_none hc, Cursor.advanceBy_of_rest_nil (h.rest_eq_nil hc)]
          exact h

/-- The loop counts what it moves over, on from any count that is not ahead of the index. -/
theorem advanceWhileFrom (h : indexed.Represents cursor) (p : Char → Bool) (count : UInt64)
    (hcount : count.toNat ≤ indexed.index.toNat) :
    (indexed.advanceWhileFrom p count).1.toNat = count.toNat + (cursor.advanceWhile p).1 ∧
      (indexed.advanceWhileFrom p count).2.Represents (cursor.advanceWhile p).2 := by
  fun_induction IndexedCursor.advanceWhileFrom p indexed count generalizing cursor with
  | case1 indexed count c hc hp ih =>
      have hrest : cursor.rest = c :: (indexed.past c).unread := by
        rw [← h.unread]
        exact unread_past hc
      have hindex := index_lt_of_current hc
      have hcountable : count.toNat + 1 < UInt64.size := by
        have := indexed.size_lt
        omega
      have hnext : (count + 1).toNat = count.toNat + 1 := toNat_add_of_lt hcountable
      have hbehind : (count + 1).toNat ≤ (indexed.past c).index.toNat := by
        rw [hnext, toNat_index_past hc]
        omega
      obtain ⟨hfirst, hlast⟩ := Cursor.advanceWhile_of_pos hrest hp
      obtain ⟨hrun, hrepresents⟩ := ih (h.past hc) hbehind
      refine ⟨?_, ?_⟩
      · rw [hrun, hnext, hfirst]
        omega
      · rw [hlast]
        exact hrepresents
  | case2 indexed count c hc hp =>
      have hnone : cursor.current.any p = false := by
        rw [← h.current, hc]
        exact Bool.eq_false_iff.2 hp
      rw [Cursor.advanceWhile_of_neg hnone]
      exact ⟨rfl, h⟩
  | case3 indexed count hc =>
      have hnone : cursor.current.any p = false := by
        rw [← h.current, hc]
        rfl
      rw [Cursor.advanceWhile_of_neg hnone]
      exact ⟨rfl, h⟩

theorem advanceWhile (h : indexed.Represents cursor) (p : Char → Bool) :
    (indexed.advanceWhile p).1.toNat = (cursor.advanceWhile p).1 ∧
      (indexed.advanceWhile p).2.Represents (cursor.advanceWhile p).2 := by
  have hloop := h.advanceWhileFrom p 0 (Nat.zero_le _)
  rw [UInt64.toNat_zero, Nat.zero_add] at hloop
  exact hloop

/-! ### What both show -/

/-- The index of the cursor is the number of characters that have been read. -/
theorem index_eq {before : List Char} (h : indexed.Represents cursor)
    (hbehind : cursor.IsBehind before) : indexed.index.toNat = before.length := by
  have hsource := congrArg List.length hbehind.source
  have hunread := congrArg List.length h.unread
  have hindex := h.inRange.index_le
  rw [← h.source, ← h.chars, Array.length_toList, List.length_append] at hsource
  rw [length_unread] at hunread
  omega

theorem spanSince (h : indexed.Represents cursor) (start : Position) :
    indexed.spanSince start = cursor.spanSince start := by
  unfold IndexedCursor.spanSince Cursor.spanSince
  rw [h.position, h.fileId]

theorem textSince (h : indexed.Represents cursor) (start : Position) :
    indexed.textSince start = cursor.textSince start := by
  unfold IndexedCursor.textSince Cursor.textSince
  rw [h.spanSince, h.source]

end Represents

/-! ## Any number of operations -/

/-- The cursor after an operation. -/
def perform (cursor : IndexedCursor) : Cursor.Operation → IndexedCursor
  | .position | .peek _ | .isAtEnd | .startsWith _ => cursor
  | .advance => cursor.advance.2
  | .advanceBy count => cursor.advanceBy count
  | .advanceWhile p => (cursor.advanceWhile p).2

/-- The cursor after operations, one after the other. -/
def performAll (cursor : IndexedCursor) (operations : List Cursor.Operation) : IndexedCursor :=
  operations.foldl perform cursor

namespace Represents

variable {indexed : IndexedCursor} {cursor : Cursor}

theorem perform (h : indexed.Represents cursor) (operation : Cursor.Operation) :
    (indexed.perform operation).Represents (cursor.perform operation) := by
  cases operation with
  | position => exact h
  | peek ahead => exact h
  | isAtEnd => exact h
  | startsWith text => exact h
  | advance => exact h.advance.2
  | advanceBy count => exact h.advanceBy count
  | advanceWhile p => exact (h.advanceWhile p).2

theorem performAll (h : indexed.Represents cursor) (operations : List Cursor.Operation) :
    (indexed.performAll operations).Represents (cursor.performAll operations) := by
  induction operations generalizing indexed cursor with
  | nil => exact h
  | cons operation operations ih => exact ih (h.perform operation)

end Represents

/-! ## What a cursor shows -/

/-- The cursor stands between `before` and `rest`, the two parts of its source.  It looks as far
ahead as places can be counted. -/
structure Parts (cursor : IndexedCursor) (before rest : List Char) : Prop where
  source : cursor.source.toList = before ++ rest
  line : cursor.position.line = before.count '\n' + 1
  column : ∃ last, IsLastLine before last ∧ cursor.position.column = last.length + 1
  offset : cursor.position.offset = (String.ofList before).utf8ByteSize
  peek : ∀ ahead : UInt64, before.length + ahead.toNat < UInt64.size →
    cursor.peek ahead = rest[ahead.toNat]?
  isAtEnd : cursor.isAtEnd = true ↔ rest = []
  startsWith : ∀ text : String, cursor.startsWith text = true ↔ text.toList <+: rest

/-- The cursor moves over characters of `rest`, from its head, and over as many as it is told. -/
structure Advances (cursor : IndexedCursor) (before rest : List Char) : Prop where
  advance : cursor.advance.1 = rest.head? ∧
    cursor.advance.2.Parts (before ++ rest.take 1) (rest.drop 1)
  advanceBy : ∀ count, ∃ taken left, rest = taken ++ left ∧
    taken.length = min count rest.length ∧ (cursor.advanceBy count).Parts (before ++ taken) left
  advanceBy_advanceBy : ∀ count more,
    (cursor.advanceBy count).advanceBy more = cursor.advanceBy (count + more)
  advanceWhile : ∀ p, ∃ run left, rest = run ++ left ∧ IsLongestRun p run rest ∧
    (cursor.advanceWhile p).1.toNat = run.length ∧
    (cursor.advanceWhile p).2.Parts (before ++ run) left

namespace Represents

variable {indexed : IndexedCursor} {cursor : Cursor} {before : List Char}

/-- Where the cursor stands and what it sees ahead are those of the two parts. -/
theorem parts (h : indexed.Represents cursor) (hbehind : cursor.IsBehind before) :
    indexed.Parts before cursor.rest where
  source := by
    rw [h.source]
    exact hbehind.source
  line := by
    rw [h.position, hbehind.position, Position.line_after]
    exact Nat.add_comm _ _
  column := by
    obtain ⟨last, hlast⟩ := exists_isLastLine before
    refine ⟨last, hlast, ?_⟩
    rw [h.position, hbehind.position, hlast.column_after]
  offset := by
    rw [h.position, hbehind.position, Position.offset_after, ← byteSize_toList,
      String.toList_ofList]
    exact Nat.zero_add _
  peek := by
    intro ahead hahead
    rw [← h.index_eq hbehind] at hahead
    rw [peek_eq hahead, h.unread]
  isAtEnd := by
    rw [isAtEnd_iff, h.unread]
  startsWith := by
    intro text
    rw [startsWith_iff h.inRange.index_le, h.unread]

theorem advances (h : indexed.Represents cursor) (hbehind : cursor.IsBehind before) :
    indexed.Advances before cursor.rest where
  advance := by
    obtain ⟨hfirst, hlast⟩ := h.advance
    refine ⟨?_, hlast.parts (hbehind.advanceBy 1)⟩
    rw [hfirst]
    exact List.head?_eq_getElem?.symm
  advanceBy := by
    intro count
    exact ⟨_, _, (List.take_append_drop count cursor.rest).symm, List.length_take,
      (h.advanceBy count).parts (hbehind.advanceBy count)⟩
  advanceBy_advanceBy := indexed.advanceBy_advanceBy
  advanceWhile := by
    intro p
    obtain ⟨hcount, hlast⟩ := h.advanceWhile p
    have hlongest := isLongestRun_takeWhile p cursor.rest
    have htake := (List.prefix_iff_eq_take.1 hlongest.isPrefix).symm
    have hparts := hlast.parts (hbehind.advanceBy (cursor.rest.takeWhile p).length)
    rw [htake] at hparts
    refine ⟨_, _, ?_, hlongest, hcount, hparts⟩
    conv => lhs; rw [← List.take_append_drop (cursor.rest.takeWhile p).length cursor.rest]
    rw [htake]
    rfl

end Represents

/-- After any operations, a cursor stands between two parts of its source, and shows and moves
over nothing else.  From every place where it has stood before, what it has gone over since is the
text and the slice of the span from there.  The cursor that holds the unread text, after the same
operations, stands at the same place. -/
theorem parts_source (source : String) (fileId : Nat) (h : source.length < UInt32.size - 1)
    (earlier later : List Cursor.Operation) :
    let mark := (ofSource source fileId (length_lt_of_countable h)).performAll earlier
    let cursor := mark.performAll later
    ∃ before consumed rest,
      source.toList = before ++ (consumed ++ rest) ∧
      mark.Parts before (consumed ++ rest) ∧
      cursor.Parts (before ++ consumed) rest ∧
      cursor.Advances (before ++ consumed) rest ∧
      cursor.textSince mark.position = String.ofList consumed ∧
      cursor.spanSince mark.position = ⟨mark.position, cursor.position, fileId⟩ ∧
      (cursor.spanSince mark.position).slice? source = some (String.ofList consumed) ∧
      cursor.Represents
        (((Cursor.ofSource source fileId).performAll earlier).performAll later) := by
  intro mark cursor
  have hmark := (represents_ofSource source fileId h).performAll earlier
  have hcursor := hmark.performAll later
  obtain ⟨before, hbefore, hbehind⟩ := (Cursor.isBehind_ofSource source fileId).performAll earlier
  obtain ⟨consumed, hconsumed, hlast⟩ := hbehind.performAll later
  obtain ⟨hsource, hfileId⟩ := Cursor.source_performAll (.ofSource source fileId) earlier
  obtain ⟨hsource', hfileId'⟩ := Cursor.source_performAll _ later
  have hcut := hbehind.slice?_spanSince hlast
  rw [← hmark.position] at hcut
  have hparts := hmark.parts hbehind
  rw [hconsumed] at hbefore hparts
  refine ⟨before, consumed, _, hbefore, hparts, hcursor.parts hlast, hcursor.advances hlast, ?_, ?_,
    ?_, hcursor⟩
  · rw [hcursor.textSince, Cursor.textSince, hcut]
    rfl
  · rw [spanSince, hcursor.fileId, hfileId', hfileId]
    rfl
  · rw [hsource', hsource] at hcut
    rw [hcursor.spanSince]
    exact hcut

/-- Over two wide characters and a line feed, columns go by characters and offsets by bytes. -/
theorem parts_source_wide :
    let mark := (ofSource "中a\n中" 3 (by decide)).performAll [.advance]
    let cursor := mark.performAll [.startsWith "a\n", .advanceBy 2]
    "中a\n中".length < UInt32.size - 1 ∧ mark.position = ⟨1, 2, 3⟩ ∧ cursor.position = ⟨2, 1, 5⟩ ∧
      cursor.current = some '中' ∧ cursor.textSince mark.position = "a\n" ∧
      ∃ before consumed rest,
        "中a\n中".toList = before ++ (consumed ++ rest) ∧
        mark.Parts before (consumed ++ rest) ∧
        cursor.Parts (before ++ consumed) rest ∧
        cursor.Advances (before ++ consumed) rest ∧
        cursor.textSince mark.position = String.ofList consumed := by
  have h : "中a\n中".length < UInt32.size - 1 := by decide
  obtain ⟨before, consumed, rest, hsource, hmark, hcursor, hadvances, htext, -⟩ :=
    parts_source "中a\n中" 3 h [.advance] [.startsWith "a\n", .advanceBy 2]
  exact ⟨h, rfl, rfl, rfl, by decide +kernel, before, consumed, rest, hsource, hmark, hcursor,
    hadvances, htext⟩

end IndexedCursor

end Lexis
