/-!
# Texts as rows

A report is read row by row.  `rowsOf` parts a text at its line feeds, and `ofRows` puts
rows one under the other.

* `rowsOf_ofRows_append` gets the rows back, and `rowsOf_intercalate` those of several
  texts with an empty row between one and the next.
* `withNext` pairs the members of a list with their successors, and
  `filter_withNext_append` passes over members that are not looked for.
-/

namespace Lexis

/-- The text has no line feed in it. -/
def IsRow (text : String) : Prop :=
  '\n' ∉ text.toList

instance (text : String) : Decidable (IsRow text) :=
  inferInstanceAs (Decidable (¬ _))

/-- What stands between the line feeds of a text. -/
def rowsOf (text : String) : List String :=
  (text.toList.splitOn '\n').map String.ofList

/-- Rows one under the other, a line feed behind each. -/
def ofRows (rows : List String) : String :=
  String.join (rows.map (· ++ "\n"))

@[simp] theorem isRow_append {text more : String} :
    IsRow (text ++ more) ↔ IsRow text ∧ IsRow more := by
  simp [IsRow]

theorem isRow_ofList {text : List Char} : IsRow (String.ofList text) ↔ '\n' ∉ text := by
  simp [IsRow]

@[simp] theorem ofRows_nil : ofRows [] = "" := by
  simp [ofRows]

@[simp] theorem ofRows_cons (row : String) (rows : List String) :
    ofRows (row :: rows) = row ++ "\n" ++ ofRows rows := by
  simp [ofRows]

@[simp] theorem ofRows_append (rows more : List String) :
    ofRows (rows ++ more) = ofRows rows ++ ofRows more := by
  simp [ofRows]

@[simp] theorem rowsOf_empty : rowsOf "" = [""] := by
  simp [rowsOf]

theorem rowsOf_cons {row : String} (h : IsRow row) (text : String) :
    rowsOf (row ++ "\n" ++ text) = row :: rowsOf text := by
  have htext : (row ++ "\n" ++ text).toList = row.toList ++ '\n' :: text.toList := by simp
  rw [rowsOf, htext, List.splitOn_append_cons_self_of_not_mem h, List.map_cons,
    String.ofList_toList, rowsOf]

/-- The rows that a text was made of are its rows. -/
theorem rowsOf_ofRows_append {rows : List String} (h : ∀ row ∈ rows, IsRow row) (text : String) :
    rowsOf (ofRows rows ++ text) = rows ++ rowsOf text := by
  induction rows with
  | nil => simp
  | cons row rows ih =>
      rw [List.forall_mem_cons] at h
      rw [ofRows_cons, String.append_assoc, rowsOf_cons h.1, ih h.2, List.cons_append]

/-- Texts with a line feed between them have the rows of all, and an empty row behind those of
each. -/
theorem rowsOf_intercalate {blocks : List (List String)} (hne : blocks ≠ [])
    (h : ∀ block ∈ blocks, ∀ row ∈ block, IsRow row) :
    rowsOf ("\n".intercalate (blocks.map ofRows)) = blocks.flatMap (· ++ [""]) := by
  induction blocks with
  | nil => exact absurd rfl hne
  | cons block blocks ih =>
      rw [List.forall_mem_cons] at h
      cases blocks with
      | nil =>
          have hrows := rowsOf_ofRows_append h.1 ""
          simpa using hrows
      | cons next blocks =>
          have hbreak : ∀ text, rowsOf ("\n" ++ text) = "" :: rowsOf text := by
            intro text
            have hempty : IsRow "" := by decide
            simpa using rowsOf_cons hempty text
          rw [List.map_cons, String.intercalate_cons_of_ne_nil (by simp), String.append_assoc,
            rowsOf_ofRows_append h.1, hbreak, ih (List.cons_ne_nil _ _) h.2]
          simp

/-! ## Rows and the rows under them -/

/-- The members of a list, each with the one behind it. -/
def withNext {α : Type} : List α → List (α × Option α)
  | [] => []
  | a :: list => (a, list.head?) :: withNext list

theorem filter_withNext_append {α : Type} {p : α → Bool} {front : List α}
    (h : ∀ a ∈ front, p a = false) (rest : List α) :
    (withNext (front ++ rest)).filter (fun pair => p pair.1) =
      (withNext rest).filter fun pair => p pair.1 := by
  induction front with
  | nil => rfl
  | cons a front ih =>
      rw [List.forall_mem_cons] at h
      rw [List.cons_append, withNext, List.filter_cons_of_neg (by simp [h.1]), ih h.2]

end Lexis
