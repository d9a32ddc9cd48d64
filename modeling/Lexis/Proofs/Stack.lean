import Lexis.Stack
import Mathlib.Data.Nat.PSub

/-!
# Several elements of a stack at once

Whatever is done with several elements at the top comes to taking the top element off, again and
again.  Nor does it matter from which end the places are counted.  A stack that keeps its elements
in a row from the bottom finds a place by a difference of counts, and no difference is below zero.

* `pops` takes the top element off a number of times.  `pops_fst` and `pops_snd` say what is handed
  out and what is left.
* `popTop_of_range` and `popTop_of_not_range` are about counts in and out of range, and
  `extend_drop` puts what was taken off on again.
* `cutTop?` and `atDepth?` find the places in a row, where a difference is partial.
  `cutTop?_toList` and `atDepth?_toList` say that they find the places of the stack.
* `Operation` is what may be done with a stack, and `Operation.onRow?` does it to a row.
  `onRow?_toList` is about one operation and `foldlM_onRow?` about any number.
* `Batches` collects the laws, and `batch_operations` says that they hold wherever operations lead.
-/

namespace Lexis

namespace Stack

variable {α : Type} {stack other : Stack α} {n : Nat}

/-- A stack is known by its elements from the bottom to the top. -/
theorem toList_inj : stack.toList = other.toList ↔ stack = other := by
  constructor
  · intro h
    cases stack
    cases other
    exact congrArg mk (List.reverse_inj.1 h)
  · exact congrArg toList

/-! ## One element after the other -/

/-- Takes the top element off `n` times, and lists what each time hands out.  Nothing is handed out
when no element is left. -/
def pops : Stack α → Nat → List (Option α) × Stack α
  | stack, 0 => ([], stack)
  | stack, n + 1 => (stack.pop.1 :: (pops stack.pop.2 n).1, (pops stack.pop.2 n).2)

theorem pop_eq (stack : Stack α) : stack.pop = (stack.peek, ⟨stack.fromTop.tail⟩) := by
  obtain ⟨_ | ⟨item, items⟩⟩ := stack
  · rfl
  · rfl

theorem pops_fst (h : n ≤ stack.size) : (stack.pops n).1 = (stack.fromTop.take n).map some := by
  induction n generalizing stack with
  | zero => rfl
  | succ n ih =>
      obtain ⟨_ | ⟨item, items⟩⟩ := stack
      · simp [size] at h
      · have hrest : n ≤ (⟨items⟩ : Stack α).size := by
          simp only [size, List.length_cons] at h ⊢
          omega
        rw [pops, pop_eq, List.tail_cons, ih hrest]
        rfl

theorem pops_snd (stack : Stack α) (n : Nat) : (stack.pops n).2 = ⟨stack.fromTop.drop n⟩ := by
  induction n generalizing stack with
  | zero => rfl
  | succ n ih => rw [pops, pop_eq, ih, List.drop_tail]

/-- There may be more times than elements. -/
example : (ofList [1, 2]).pops 3 = ([some 2, some 1, none], ∅) := by decide

/-- The element at a depth is the one that is taken off behind those above it. -/
theorem peekAt_eq_pop (stack : Stack α) (depth : Nat) :
    stack.peekAt depth = (stack.pops depth).2.pop.1 := by
  rw [pops_snd, pop_eq]
  show stack.fromTop[depth]? = (stack.fromTop.drop depth).head?
  rw [List.head?_drop]

/-! ## Counts in and out of range -/

theorem popTop_of_range (hpos : 1 ≤ n) (hle : n ≤ stack.size) :
    stack.popTop n = (some (stack.fromTop.take n).reverse, ⟨stack.fromTop.drop n⟩) := by
  unfold popTop
  rw [if_neg]
  omega

theorem popTop_of_not_range (h : n = 0 ∨ stack.size < n) : stack.popTop n = (none, stack) := by
  unfold popTop
  rw [if_pos h]

/-- Dropping elements leaves what taking them off leaves. -/
theorem dropTop_eq (stack : Stack α) (n : Nat) : stack.dropTop n = (stack.popTop n).2 := by
  unfold dropTop popTop
  split
  · rfl
  · rfl

/-- Elements that are put on again, in the order in which they are handed out, stand where they
stood before. -/
theorem extend_drop (stack : Stack α) (n : Nat) :
    (⟨stack.fromTop.drop n⟩ : Stack α).extend (stack.fromTop.take n).reverse = stack := by
  apply toList_inj.1
  rw [toList_extend]
  show (stack.fromTop.drop n).reverse ++ (stack.fromTop.take n).reverse = stack.fromTop.reverse
  rw [← List.reverse_append, List.take_append_drop]

/-! ## Places in a row -/

/-- Cuts the top `n` elements off a row that begins at the bottom: what is handed out, and what is
left.  There is no answer if the place of the cut is a difference below zero. -/
def cutTop? (row : List α) (n : Nat) : Option (Option (List α) × List α) :=
  if n = 0 ∨ row.length < n then some (none, row)
  else (row.length.psub n).map fun place => (some (row.drop place), row.take place)

/-- The element `depth` places below the top of a row that begins at the bottom.  There is none if
one of the two differences is below zero. -/
def atDepth? (row : List α) (depth : Nat) : Option α := do
  let above ← row.length.psub depth
  let place ← above.psub 1
  row[place]?

theorem cutTop?_toList (stack : Stack α) (n : Nat) :
    cutTop? stack.toList n = some ((stack.popTop n).1, (stack.popTop n).2.toList) := by
  unfold cutTop?
  rw [length_toList]
  by_cases h : n = 0 ∨ stack.size < n
  · rw [if_pos h, popTop_of_not_range h]
  · have hle : n ≤ stack.size := by omega
    have hrest : stack.fromTop.length - (stack.size - n) = n := Nat.sub_sub_self hle
    rw [if_neg h, popTop_of_range (by omega) hle, Nat.psub_eq_sub hle, Option.map_some]
    unfold toList
    rw [List.drop_reverse, List.take_reverse, hrest]

/-- The two differences are one. -/
theorem atDepth?_eq (row : List α) (depth : Nat) :
    atDepth? row depth = (row.length.psub (depth + 1)).bind fun place => row[place]? := by
  unfold atDepth?
  rw [Nat.psub_add]
  exact (Option.bind_assoc _ _ _).symm

theorem atDepth?_toList (stack : Stack α) (depth : Nat) :
    atDepth? stack.toList depth = stack.peekAt depth := by
  rw [atDepth?_eq, length_toList]
  cases hplace : stack.size.psub (depth + 1) with
  | none =>
      have hlt : stack.fromTop.length < depth + 1 := Nat.psub_eq_none.1 hplace
      exact (List.getElem?_eq_none (Nat.le_of_lt_succ hlt)).symm
  | some place =>
      have hsize : place + (depth + 1) = stack.fromTop.length := Nat.psub_eq_some.1 hplace
      have hdepth : stack.fromTop.length - 1 - place = depth := by omega
      show stack.fromTop.reverse[place]? = stack.fromTop[depth]?
      rw [List.getElem?_reverse (by omega), hdepth]

/-! ## Any number of operations -/

/-- What may be done with a stack. -/
inductive Operation (α : Type) where
  | push (item : α)
  | pop
  | extend (items : List α)
  | clear
  | dropTop (n : Nat)
  | popTop (n : Nat)

/-- The stack after an operation. -/
def perform (stack : Stack α) : Operation α → Stack α
  | .push item => stack.push item
  | .pop => stack.pop.2
  | .extend items => stack.extend items
  | .clear => ∅
  | .dropTop n => stack.dropTop n
  | .popTop n => (stack.popTop n).2

/-- The stack after operations, one after the other. -/
def performAll (stack : Stack α) (operations : List (Operation α)) : Stack α :=
  operations.foldl perform stack

/-- The elements in a row from the bottom, after an operation.  There is no answer if the operation
comes to a difference below zero. -/
def Operation.onRow? (row : List α) : Operation α → Option (List α)
  | .push item => some (row ++ [item])
  | .pop => some row.dropLast
  | .extend items => some (row ++ items)
  | .clear => some []
  | .dropTop n => (cutTop? row n).map Prod.snd
  | .popTop n => (cutTop? row n).map Prod.snd

theorem toList_pop (stack : Stack α) : stack.pop.2.toList = stack.toList.dropLast := by
  rw [pop_eq]
  exact List.dropLast_reverse.symm

/-- An operation does the same to the row as to the stack. -/
theorem onRow?_toList (operation : Operation α) (stack : Stack α) :
    operation.onRow? stack.toList = some (stack.perform operation).toList := by
  cases operation with
  | push item => exact congrArg some (toList_push stack item).symm
  | pop => exact congrArg some (toList_pop stack).symm
  | extend items => exact congrArg some (toList_extend stack items).symm
  | clear => rfl
  | dropTop n =>
      show (cutTop? stack.toList n).map Prod.snd = some (stack.dropTop n).toList
      rw [cutTop?_toList, dropTop_eq]
      rfl
  | popTop n =>
      show (cutTop? stack.toList n).map Prod.snd = some (stack.popTop n).2.toList
      rw [cutTop?_toList]
      rfl

theorem foldlM_onRow? (operations : List (Operation α)) (stack : Stack α) :
    operations.foldlM Operation.onRow? stack.toList =
      some (stack.performAll operations).toList := by
  induction operations generalizing stack with
  | nil => rfl
  | cons operation operations ih =>
      rw [List.foldlM_cons, onRow?_toList, Option.bind_eq_bind, Option.bind_some, ih]
      rfl

/-! ## The laws -/

/-- The operations on several elements agree with taking elements off one by one, and with the same
operations on the elements in a row. -/
structure Batches (stack : Stack α) : Prop where
  popTop : ∀ n, 1 ≤ n → n ≤ stack.size →
    ∃ items, stack.popTop n = (some items, (stack.pops n).2) ∧
      items.reverse.map some = (stack.pops n).1 ∧ (stack.popTop n).2.extend items = stack
  dropTop : ∀ n, stack.dropTop n = (stack.popTop n).2
  outOfRange : ∀ n, n = 0 ∨ stack.size < n →
    stack.popTop n = (none, stack) ∧ stack.dropTop n = stack
  peekAt : ∀ depth, stack.peekAt depth = (stack.pops depth).2.pop.1
  peekAt_eq_none : ∀ depth, stack.peekAt depth = none ↔ stack.size ≤ depth
  peekAt_eq_peek : ∀ depth, 1 ≤ depth → depth ≤ stack.size →
    stack.peekAt depth = (stack.dropTop depth).peek
  cutTop : ∀ n, cutTop? stack.toList n = some ((stack.popTop n).1, (stack.popTop n).2.toList)
  atDepth : ∀ depth, atDepth? stack.toList depth = stack.peekAt depth

theorem batches (stack : Stack α) : stack.Batches where
  popTop := by
    intro n hpos hle
    refine ⟨(stack.fromTop.take n).reverse, ?_, ?_, ?_⟩
    · rw [popTop_of_range hpos hle, pops_snd]
    · rw [List.reverse_reverse, pops_fst hle]
    · rw [popTop_of_range hpos hle, extend_drop]
  dropTop := dropTop_eq stack
  outOfRange := by
    intro n h
    have hstay := popTop_of_not_range h
    refine ⟨hstay, ?_⟩
    rw [dropTop_eq, hstay]
  peekAt := peekAt_eq_pop stack
  peekAt_eq_none := fun _ => List.getElem?_eq_none_iff
  peekAt_eq_peek := by
    intro depth hpos hle
    rw [dropTop_eq, popTop_of_range hpos hle, peekAt_eq_pop, pops_snd, pop_eq]
  cutTop := cutTop?_toList stack
  atDepth := atDepth?_toList stack

/-- After any operations, on whichever stack they began, operations on several elements agree with
those on one.  The operations themselves do the same to the elements in a row, and find all their
places there. -/
theorem batch_operations (stack : Stack α) (operations : List (Operation α)) :
    (stack.performAll operations).Batches ∧
      operations.foldlM Operation.onRow? stack.toList =
        some (stack.performAll operations).toList :=
  ⟨batches _, foldlM_onRow? operations stack⟩

end Stack

end Lexis
