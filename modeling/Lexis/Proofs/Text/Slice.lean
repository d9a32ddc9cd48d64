import Lexis.Proofs.Text.Position
import Lexis.Text.Span

/-!
# What a slice is

`slice?_append` cuts a stretch out of a text whose parts are known.  This module goes the
other way, from the cut to the parts.

* `splitAtByte?_eq_some_iff`: a split has the text as its two parts, and the first of them
  has the size of the offset.
* `slice?_eq_some_iff`: a slice stands in the text, between the two offsets.
* `append_inj_of_byteSize_eq`: the size of the first part decides the split.

`Span.slice?_after` cuts by a span: from the position behind one text to the position behind
another that goes on.
-/

namespace Lexis

/-- The parts of a split. -/
theorem splitAtByte?_eq_some_iff {text before behind : List Char} {offset : Nat} :
    splitAtByte? text offset = some (before, behind) ↔
      before ++ behind = text ∧ byteSize before = offset := by
  constructor
  · intro h
    fun_induction splitAtByte? text offset generalizing before with
    | case1 text =>
        obtain ⟨rfl, rfl⟩ := Prod.mk.inj (Option.some.inj h)
        exact ⟨rfl, rfl⟩
    | case2 => cases h
    | case3 c text offset hsize ih =>
        simp only [Option.map_eq_some_iff, Prod.exists, Prod.mk.injEq] at h
        obtain ⟨before', behind', hsplit, rfl, rfl⟩ := h
        obtain ⟨rfl, hoffset⟩ := ih hsplit
        refine ⟨rfl, ?_⟩
        rw [byteSize_cons]
        omega
    | case4 => cases h
  · rintro ⟨rfl, rfl⟩
    exact splitAtByte?_append before behind

/-- The size of the first part decides where a text is split. -/
theorem append_inj_of_byteSize_eq {before behind other more : List Char}
    (h : before ++ behind = other ++ more) (hsize : byteSize before = byteSize other) :
    before = other ∧ behind = more := by
  have hsplit := splitAtByte?_append before behind
  rw [h, hsize, splitAtByte?_append] at hsplit
  obtain ⟨rfl, rfl⟩ := Prod.mk.inj (Option.some.inj hsplit)
  exact ⟨rfl, rfl⟩

/-- A slice stands in the text, between the two offsets. -/
theorem slice?_eq_some_iff {text part : List Char} {first last : Nat} :
    slice? text first last = some part ↔
      ∃ before behind, text = before ++ (part ++ behind) ∧ byteSize before = first ∧
        byteSize before + byteSize part = last := by
  constructor
  · intro h
    rw [slice?] at h
    split at h
    · next hle =>
        simp only [Option.bind_eq_bind, Option.bind_eq_some_iff, Option.some.injEq,
          Prod.exists, splitAtByte?_eq_some_iff] at h
        obtain ⟨before, tail, ⟨rfl, hbefore⟩, part', behind, ⟨rfl, hpart⟩, rfl⟩ := h
        exact ⟨before, behind, rfl, hbefore, by omega⟩
    · cases h
  · rintro ⟨before, behind, rfl, rfl, rfl⟩
    exact slice?_append before part behind

/-- The span from behind `before` to behind `part` cuts `part` out of a text. -/
theorem Span.slice?_after (before part behind : List Char) (fileId : Nat) :
    Span.slice?
        ⟨Position.start.after before, Position.start.after (before ++ part), fileId⟩
        (String.ofList (before ++ (part ++ behind))) =
      some (String.ofList part) := by
  have hcut := slice?_append before part behind
  simp only [Span.slice?, String.toList_ofList, Position.offset_after, Position.start,
    byteSize_append, Nat.zero_add, hcut]
  rfl

/-- The same of a source that is known to be put together from the three. -/
theorem Span.slice?_source {source : String} {before part behind : List Char}
    (h : source.toList = before ++ (part ++ behind)) (fileId : Nat) :
    (⟨Position.start.after before, Position.start.after (before ++ part), fileId⟩ :
      Span).slice? source = some (String.ofList part) := by
  rw [← String.ofList_toList (s := source), h]
  exact slice?_after before part behind fileId

end Lexis
