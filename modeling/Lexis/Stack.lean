/-!
# Stacks

Last in, first out, with operations on several elements at the top at once.  An operation whose
count is out of range changes nothing.

A stack is seen through `Stack.toList`, which lists its elements from the bottom to the top.
-/

namespace Lexis

/-- A stack of elements of type `α`. -/
structure Stack (α : Type) where
  /-- The elements, the topmost first. -/
  fromTop : List α := []
deriving DecidableEq, Repr

namespace Stack

variable {α : Type}

instance : EmptyCollection (Stack α) := ⟨{}⟩

/-- The elements from the bottom to the top. -/
def toList (stack : Stack α) : List α :=
  stack.fromTop.reverse

/-- The stack whose elements from the bottom to the top are `items`. -/
def ofList (items : List α) : Stack α :=
  ⟨items.reverse⟩

/-- Puts an element on top. -/
def push (stack : Stack α) (item : α) : Stack α :=
  ⟨item :: stack.fromTop⟩

/-- Puts elements on top, the last of them topmost. -/
def extend (stack : Stack α) (items : List α) : Stack α :=
  items.foldl push stack

/-- Takes the top element off. -/
def pop (stack : Stack α) : Option α × Stack α :=
  match stack.fromTop with
  | [] => (none, stack)
  | item :: items => (some item, ⟨items⟩)

/-- The top element. -/
def peek (stack : Stack α) : Option α :=
  stack.fromTop.head?

/-- The element `depth` places below the top. -/
def peekAt (stack : Stack α) (depth : Nat) : Option α :=
  stack.fromTop[depth]?

/-- The number of elements. -/
def size (stack : Stack α) : Nat :=
  stack.fromTop.length

/-- Whether there is no element. -/
def isEmpty (stack : Stack α) : Bool :=
  stack.fromTop.isEmpty

/-- Takes the top `n` elements off and lists them from the bottom to the top.  There is no answer if
`n` is zero or more than there are. -/
def popTop (stack : Stack α) (n : Nat) : Option (List α) × Stack α :=
  if n = 0 ∨ stack.size < n then (none, stack)
  else (some (stack.fromTop.take n).reverse, ⟨stack.fromTop.drop n⟩)

/-- Drops the top `n` elements, or nothing if `n` is zero or more than there are. -/
def dropTop (stack : Stack α) (n : Nat) : Stack α :=
  if n = 0 ∨ stack.size < n then stack else ⟨stack.fromTop.drop n⟩

/-- A stack is written from the bottom to the top. -/
instance [ToString α] : ToString (Stack α) where
  toString stack := "[" ++ ", ".intercalate (stack.toList.map toString) ++ "]"

@[simp] theorem toList_empty : (∅ : Stack α).toList = [] := rfl

@[simp] theorem toList_ofList (items : List α) : (ofList items).toList = items :=
  List.reverse_reverse items

@[simp] theorem toList_push (stack : Stack α) (item : α) :
    (stack.push item).toList = stack.toList ++ [item] :=
  List.reverse_cons

@[simp] theorem toList_extend (stack : Stack α) (items : List α) :
    (stack.extend items).toList = stack.toList ++ items := by
  induction items generalizing stack with
  | nil => simp [extend]
  | cons item items ih =>
      have := ih (stack.push item)
      simpa [extend] using this

@[simp] theorem length_toList (stack : Stack α) : stack.toList.length = stack.size :=
  List.length_reverse

end Stack

end Lexis
