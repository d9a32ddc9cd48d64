/-!
# Runs of a class of characters

The scanners take the longest run of a class.  A character that is not in the
class ends a run as the end of the text does.

* `takeWhile_before` and `dropWhile_before` put such a character behind a text.
* `takeWhile_of_ends` and `dropWhile_of_ends` know the run, and what follows it.
* `forall_mem_takeWhile` and `any_head?_dropWhile` say so of the run that is taken.
* `takeWhile_of_head?` and `dropWhile_of_head?` put another text behind a run, with the same
  character at its head.
-/

namespace Lexis

variable {p : Char → Bool} {c : Char}

theorem takeWhile_before (h : p c = false) (text more : List Char) :
    (text ++ c :: more).takeWhile p = text.takeWhile p := by
  induction text with
  | nil => simp [h]
  | cons d text ih =>
      rw [List.cons_append, List.takeWhile_cons, List.takeWhile_cons, ih]

theorem dropWhile_before (h : p c = false) (text more : List Char) :
    (text ++ c :: more).dropWhile p = text.dropWhile p ++ c :: more := by
  induction text with
  | nil => simp [h]
  | cons d text ih =>
      rw [List.cons_append, List.dropWhile_cons, List.dropWhile_cons, ih]
      split <;> rfl

theorem takeWhile_take_before (h : p c = false) (count : Nat) (text more : List Char) :
    ((text ++ c :: more).take count).takeWhile p = (text.take count).takeWhile p := by
  induction text generalizing count with
  | nil => cases count <;> simp [h]
  | cons d text ih =>
      cases count with
      | zero => rfl
      | succ count =>
          rw [List.cons_append, List.take_succ_cons, List.take_succ_cons,
            List.takeWhile_cons, List.takeWhile_cons, ih]

/-! ## A run and what follows it -/

section Ends

variable {run rest : List Char}

theorem takeWhile_of_ends (hrun : ∀ d ∈ run, p d = true) (hrest : rest.head?.any p = false) :
    (run ++ rest).takeWhile p = run := by
  rw [List.takeWhile_append_of_pos hrun]
  cases rest with
  | nil => simp
  | cons d rest =>
      have hd : p d = false := by simpa using hrest
      simp [hd]

theorem dropWhile_of_ends (hrun : ∀ d ∈ run, p d = true) (hrest : rest.head?.any p = false) :
    (run ++ rest).dropWhile p = rest := by
  rw [List.dropWhile_append_of_pos hrun]
  cases rest with
  | nil => simp
  | cons d rest =>
      have hd : p d = false := by simpa using hrest
      simp [hd]

end Ends

/-- A text without a character runs up to it. -/
theorem forall_bne_of_not_mem {run : List Char} (h : c ∉ run) : ∀ d ∈ run, (d != c) = true :=
  fun _ hd => bne_iff_ne.2 fun heq => h (heq ▸ hd)

/-- The longest run is in the class. -/
theorem forall_mem_takeWhile (p : Char → Bool) (text : List Char) :
    ∀ d ∈ text.takeWhile p, p d = true :=
  List.all_eq_true.1 List.all_takeWhile

/-- What follows the longest run does not go on with it. -/
theorem any_head?_dropWhile (p : Char → Bool) (text : List Char) :
    (text.dropWhile p).head?.any p = false := by
  have hstop := List.head?_dropWhile_not p text
  cases hhead : (text.dropWhile p).head? with
  | none => rfl
  | some d => simpa [hhead] using hstop

/-! ## Another text behind -/

section Congr

variable {taken rest other : List Char}

/-- What agrees in the rest agrees in the whole, and by as much further as the whole is
longer. -/
theorem take_append_congr {more count : Nat} (h : rest.take more = other.take more)
    (hcount : count ≤ taken.length + more) :
    (taken ++ rest).take count = (taken ++ other).take count := by
  have hrest := congrArg (List.take (count - taken.length)) h
  rw [List.take_take, List.take_take, Nat.min_eq_left (by omega)] at hrest
  rw [List.take_append, List.take_append, hrest]

/-- The other way round: a text that agrees with another further than a part of it begins
with that part, and the rests agree. -/
theorem exists_append_of_take {text : List Char} {more count : Nat}
    (h : (taken ++ rest).take count = text.take count) (hcount : taken.length + more ≤ count) :
    ∃ behind, text = taken ++ behind ∧ rest.take more = behind.take more := by
  refine ⟨text.drop taken.length, ?_, ?_⟩
  · have htaken := congrArg (List.take taken.length) h
    rw [List.take_take, List.take_take, Nat.min_eq_left (by omega), List.take_left] at htaken
    conv => rhs; lhs; rw [htaken]
    exact (List.take_append_drop _ _).symm
  · have hbehind := congrArg (fun text => (text.drop taken.length).take more) h
    simpa only [List.drop_take, List.take_take, List.drop_left,
      Nat.min_eq_left (show more ≤ count - taken.length by omega)] using hbehind

theorem head?_congr {more : Nat} (h : rest.take (more + 1) = other.take (more + 1)) :
    other.head? = rest.head? := by
  have hhead := congrArg List.head? h
  rwa [List.head?_take, List.head?_take, if_neg (by simp), if_neg (by simp), eq_comm] at hhead

theorem head?_append_congr {more : Nat} (h : rest.take (more + 1) = other.take (more + 1)) :
    (taken ++ other).head? = (taken ++ rest).head? := by
  rw [List.head?_append, List.head?_append, head?_congr h]

theorem eq_nil_of_take {more : Nat} (h : [] = other.take (more + 1)) : other = [] := by
  cases other with
  | nil => rfl
  | cons d other => cases h

/-- A run ends where the next character is the same. -/
theorem takeWhile_of_head? {text : List Char} (h : other.head? = (text.dropWhile p).head?) :
    (text.takeWhile p ++ other).takeWhile p = text.takeWhile p := by
  refine takeWhile_of_ends (forall_mem_takeWhile p text) ?_
  rw [h]
  exact any_head?_dropWhile p text

theorem dropWhile_of_head? {text : List Char} (h : other.head? = (text.dropWhile p).head?) :
    (text.takeWhile p ++ other).dropWhile p = other := by
  refine dropWhile_of_ends (forall_mem_takeWhile p text) ?_
  rw [h]
  exact any_head?_dropWhile p text

end Congr

end Lexis
