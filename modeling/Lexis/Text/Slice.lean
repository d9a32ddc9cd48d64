/-!
# Slices by byte offsets

Offsets count UTF-8 bytes, while texts are lists of characters.  A cut at an offset exists only
where a character ends: there is none inside a character and none beyond the text.
-/

namespace Lexis

/-- The number of UTF-8 bytes that write `text`. -/
def byteSize : List Char → Nat
  | [] => 0
  | c :: text => c.utf8Size + byteSize text

@[simp] theorem byteSize_nil : byteSize [] = 0 := rfl

@[simp] theorem byteSize_cons (c : Char) (text : List Char) :
    byteSize (c :: text) = c.utf8Size + byteSize text := rfl

@[simp] theorem byteSize_append (text more : List Char) :
    byteSize (text ++ more) = byteSize text + byteSize more := by
  induction text with
  | nil => simp
  | cons c text ih => rw [List.cons_append, byteSize_cons, byteSize_cons, ih, Nat.add_assoc]

/-- The two parts of a text before and after the byte offset `offset`. -/
def splitAtByte? : List Char → Nat → Option (List Char × List Char)
  | text, 0 => some ([], text)
  | [], _ + 1 => none
  | c :: text, offset + 1 =>
      if c.utf8Size ≤ offset + 1 then
        (splitAtByte? text (offset + 1 - c.utf8Size)).map fun (before, behind) =>
          (c :: before, behind)
      else none

/-- The part of `text` from the byte offset `first` up to the byte offset `last`.  There is none if
the offsets are in the wrong order. -/
def slice? (text : List Char) (first last : Nat) : Option (List Char) :=
  if first ≤ last then do
    let (_, tail) ← splitAtByte? text first
    let (part, _) ← splitAtByte? tail (last - first)
    some part
  else none

/-- A text splits after its own beginning. -/
theorem splitAtByte?_append (before behind : List Char) :
    splitAtByte? (before ++ behind) (byteSize before) = some (before, behind) := by
  induction before with
  | nil => cases behind <;> rfl
  | cons c before ih =>
      obtain ⟨size, hsize⟩ := Nat.exists_eq_add_of_lt c.utf8Size_pos
      have hstep : byteSize (c :: before) = (size + byteSize before) + 1 := by
        rw [byteSize_cons]; omega
      rw [hstep, List.cons_append, splitAtByte?, if_pos (by omega)]
      rw [show size + byteSize before + 1 - c.utf8Size = byteSize before by omega, ih]
      rfl

/-- A stretch of text is what its own offsets cut out. -/
theorem slice?_append (before part behind : List Char) :
    slice? (before ++ (part ++ behind)) (byteSize before) (byteSize before + byteSize part) =
      some part := by
  have hcut := splitAtByte?_append before (part ++ behind)
  have hpart := splitAtByte?_append part behind
  simp [slice?, hcut, hpart]

end Lexis
