import Lexis.Proofs.Text.Runs
import Lexis.Trivia

/-!
# What trivia is

`Trivia.IsTrivia` says, without a scanner, what may stand between lexemes: white
space, comments through the end of their line, and comments that are closed at
the first `*/` behind their head.  Whether a comment ends where it does can
depend on what follows it, so the relation has the text behind the trivia as a
second argument.

* `Trivia.isTrivia_skip`: skipping takes nothing but trivia.
* `Trivia.skip_append_of_isTrivia`: it takes all of it, and then what follows is skipped.
* `Trivia.IsSpacing` is trivia in front of anything, as `Trivia.IsSpacing.isTrivia` says.
* `Trivia.Bare` is what stops the skipping and is no open comment either, as
  `Trivia.bare_iff` says, and `Trivia.Unclosed` is an open comment.
* `Trivia.skip_eq_iff`: these two, and the relation, say all about what is skipped.
* `Trivia.skip_before_newline` and `Trivia.skip_of_unread_eq_nil`: a line feed
  behind a text stops the skipping where the end of the text stops it, or is
  skipped with all that stands before it.
-/

namespace Lexis

namespace Trivia

/-! ## Pieces of trivia -/

/-- `piece` is a piece of trivia in front of `behind`. -/
inductive IsPiece : (piece behind : List Char) → Prop where
  | blank {c behind} (hblank : isWhiteSpace c = true) : IsPiece [c] behind
  | line {body behind} (hbody : '\n' ∉ body) (hbehind : ∀ c ∈ behind.head?, c = '\n') :
      IsPiece ('/' :: '/' :: body) behind
  | block {body behind} (hfirst : ¬ ['*', '/'] <:+: body ++ ['*']) :
      IsPiece ('/' :: '*' :: (body ++ ['*', '/'])) behind

/-- `trivia` is made of pieces of trivia and stands in front of `behind`. -/
inductive IsTrivia : (trivia behind : List Char) → Prop where
  | nil {behind} : IsTrivia [] behind
  | cons {piece trivia behind} (hpiece : IsPiece piece (trivia ++ behind))
      (htrivia : IsTrivia trivia behind) : IsTrivia (piece ++ trivia) behind

/-- The body of a block comment is closed once, at its end. -/
theorem blockBody?_first {text body behind : List Char}
    (h : blockBody? text = some (body, behind)) :
    ∃ inner, body = inner ++ ['*', '/'] ∧ ¬ ['*', '/'] <:+: inner ++ ['*'] := by
  fun_induction blockBody? text generalizing body with
  | case1 => simp at h
  | case2 text =>
      simp only [Option.some.injEq, Prod.mk.injEq] at h
      obtain ⟨rfl, rfl⟩ := h
      refine ⟨[], rfl, fun hinfix => ?_⟩
      have hle := hinfix.length_le
      simp at hle
  | case3 c text hopen ih =>
      simp only [Option.map_eq_some_iff, Prod.exists, Prod.mk.injEq] at h
      obtain ⟨body', _, hbody, rfl, rfl⟩ := h
      have htext := blockBody?_append hbody
      obtain ⟨inner, rfl, hfirst⟩ := ih hbody
      refine ⟨c :: inner, rfl, fun hinfix => ?_⟩
      rw [List.cons_append, List.infix_cons_iff] at hinfix
      rcases hinfix with hprefix | hinfix
      · -- The two characters at the head would have closed the comment.
        rcases inner with _ | ⟨d, inner⟩
        · simp at hprefix
        · simp only [List.cons_append, List.cons_prefix_cons, List.nil_prefix, and_true] at hprefix
          obtain ⟨hc, hd⟩ := hprefix
          exact hopen _ hc.symm (by rw [← htext, ← hd]; rfl)
      · exact hfirst hinfix

/-- A piece that is found is one. -/
theorem isPiece_of_piece? {text piece behind : List Char}
    (h : piece? text = some (piece, behind)) : IsPiece piece behind := by
  unfold piece? at h
  split at h
  · simp at h
  · next text =>
      simp only [Option.some.injEq, Prod.mk.injEq] at h
      obtain ⟨rfl, rfl⟩ := h
      refine .line ?_ ?_
      · intro hmem
        have hkept := List.all_eq_true.1 (List.all_takeWhile (p := (· != '\n')) (l := text)) _ hmem
        simp at hkept
      · intro c hc
        have hstop := List.head?_dropWhile_not (fun c => c != '\n') text
        simp_all
  · simp only [Option.map_eq_some_iff, Prod.exists, Prod.mk.injEq] at h
    obtain ⟨body, _, hbody, rfl, rfl⟩ := h
    obtain ⟨inner, rfl, hfirst⟩ := blockBody?_first hbody
    exact .block hfirst
  · split at h
    · next hblank =>
        simp only [Option.some.injEq, Prod.mk.injEq] at h
        obtain ⟨rfl, rfl⟩ := h
        exact .blank hblank
    · simp at h

/-! ## Skipping -/

theorem skip_of_piece? {text piece behind : List Char}
    (h : piece? text = some (piece, behind)) :
    skip text = (piece ++ (skip behind).1, (skip behind).2) := by
  rw [skip]
  split
  · next piece' behind' h' =>
      rw [h] at h'
      obtain ⟨rfl, rfl⟩ := by simpa using h'
      rfl
  · next h' => simp [h] at h'

theorem skip_of_piece?_eq_none {text : List Char} (h : piece? text = none) :
    skip text = ([], text) := by
  rw [skip]
  split
  · next h' => simp [h] at h'
  · rfl

/-- Skipping takes nothing but trivia. -/
theorem isTrivia_skip (text : List Char) : IsTrivia (skip text).1 (skip text).2 := by
  fun_induction skip text with
  | case1 text piece behind h more behind' hskip ih =>
      rw [hskip] at ih
      refine .cons ?_ ih
      have happend := skip_append behind
      rw [hskip] at happend
      rw [happend]
      exact isPiece_of_piece? h
  | case2 text h => exact .nil

/-! ## Trivia before a line feed -/

theorem blockBody?_append_right {text body behind : List Char}
    (h : blockBody? text = some (body, behind)) (more : List Char) :
    blockBody? (text ++ more) = some (body, behind ++ more) := by
  fun_induction blockBody? text generalizing body with
  | case1 => simp at h
  | case2 text =>
      simp only [Option.some.injEq, Prod.mk.injEq] at h
      obtain ⟨rfl, rfl⟩ := h
      rfl
  | case3 c text hopen ih =>
      simp only [Option.map_eq_some_iff, Prod.exists, Prod.mk.injEq] at h
      obtain ⟨body', _, hbody, rfl, rfl⟩ := h
      rw [List.cons_append, blockBody?, ih hbody]
      · rfl
      · intro text' hc htext
        cases text with
        | nil => simp [blockBody?] at hbody
        | cons d text =>
            rw [List.cons_append, List.cons.injEq] at htext
            exact hopen text hc (by rw [htext.1])

private theorem head_ne_of_append {c d : Char} {text more : List Char}
    (h : ∀ behind, c = '/' → text = d :: behind → False) (hd : d ≠ '\n') {behind : List Char}
    (hc : c = '/') : text ++ '\n' :: more ≠ d :: behind := by
  intro htext
  cases text with
  | nil => simp at htext; exact hd htext.1.symm
  | cons e text =>
      rw [List.cons_append, List.cons.injEq] at htext
      exact h text hc (by rw [htext.1])

/-- Whether trivia begins at the head of a text does not depend on a line feed behind
the text, unless a comment is open there. -/
theorem piece?_before_newline {text : List Char} (hne : text ≠ [])
    (hopen : ['/', '*'] <+: text → piece? text ≠ none) (more : List Char) :
    piece? (text ++ '\n' :: more) =
      (piece? text).map fun (piece, behind) => (piece, behind ++ '\n' :: more) := by
  fun_cases piece? text with
  | case1 => exact absurd rfl hne
  | case2 text =>
      simp only [List.cons_append, piece?, Option.map_some]
      rw [takeWhile_before (by simp), dropWhile_before (by simp)]
  | case3 text =>
      have hclosed := hopen (by simp)
      cases hbody : blockBody? text with
      | none => simp [piece?, hbody] at hclosed
      | some parts =>
          obtain ⟨body, behind⟩ := parts
          simp only [List.cons_append, piece?, blockBody?_append_right hbody, Option.map_some]
  | case4 c text hline hblock hblank =>
      rw [List.cons_append, piece?, if_pos hblank]
      · rfl
      · exact fun _ hc => head_ne_of_append hline (by decide) hc
      · exact fun _ hc => head_ne_of_append hblock (by decide) hc
  | case5 c text hline hblock hblank =>
      rw [List.cons_append, piece?, if_neg hblank]
      · rfl
      · exact fun _ hc => head_ne_of_append hline (by decide) hc
      · exact fun _ hc => head_ne_of_append hblock (by decide) hc

/-- A line feed behind a text stops the skipping where a lexeme does. -/
theorem skip_before_newline {text : List Char} (hne : (skip text).2 ≠ [])
    (hopen : ¬ ['/', '*'] <+: (skip text).2) (more : List Char) :
    skip (text ++ '\n' :: more) = ((skip text).1, (skip text).2 ++ '\n' :: more) := by
  fun_induction skip text with
  | case1 text piece behind h more' behind' hskip ih =>
      have htext : text ≠ [] := by
        rintro rfl
        simp [piece?] at h
      have hpiece := piece?_before_newline htext (fun _ => by simp [h]) more
      rw [h, Option.map_some] at hpiece
      rw [skip_of_piece? hpiece, ih]
      · simp [hskip]
      · simpa [hskip] using hne
      · simpa [hskip] using hopen
  | case2 text h =>
      have hpiece := piece?_before_newline hne (fun hprefix => absurd hprefix hopen) more
      rw [h, Option.map_none] at hpiece
      rw [skip_of_piece?_eq_none hpiece]

/-- Where a text is nothing but trivia, a line feed behind it is skipped as well. -/
theorem skip_of_unread_eq_nil {text : List Char} (hnil : (skip text).2 = []) (more : List Char) :
    skip (text ++ '\n' :: more) = (text ++ '\n' :: (skip more).1, (skip more).2) := by
  fun_induction skip text with
  | case1 text piece behind h more' behind' hskip ih =>
      have htext : text ≠ [] := by
        rintro rfl
        simp [piece?] at h
      have hpiece := piece?_before_newline htext (fun _ => by simp [h]) more
      rw [h, Option.map_some] at hpiece
      rw [skip_of_piece? hpiece, ih (by simpa [hskip] using hnil), ← piece?_append h]
      simp
  | case2 text h =>
      have htext : text = [] := hnil
      subst htext
      have hpiece : piece? ('\n' :: more) = some (['\n'], more) := by simp [piece?]
      rw [List.nil_append, skip_of_piece? hpiece]
      rfl

/-! ## All trivia is skipped -/

/-- A comment is closed at the first `*/`. -/
theorem blockBody?_of_first {body : List Char} (hfirst : ¬ ['*', '/'] <:+: body ++ ['*'])
    (behind : List Char) :
    blockBody? (body ++ '*' :: '/' :: behind) = some (body ++ ['*', '/'], behind) := by
  induction body with
  | nil => rfl
  | cons c body ih =>
      rw [List.cons_append, List.infix_cons_iff, not_or] at hfirst
      rw [List.cons_append, blockBody?, ih hfirst.2]
      · rfl
      · intro text hc htext
        apply hfirst.1
        cases body with
        | nil => simp at htext
        | cons d body =>
            rw [List.cons_append, List.cons.injEq] at htext
            simp [hc, htext.1]

/-- A piece of trivia is found. -/
theorem piece?_of_isPiece {piece behind : List Char} (h : IsPiece piece behind) :
    piece? (piece ++ behind) = some (piece, behind) := by
  cases h with
  | @blank c behind hblank =>
      have hslash : c ≠ '/' := by
        rintro rfl
        exact absurd hblank (by decide)
      rw [List.singleton_append, piece?, if_pos hblank]
      · exact fun _ h => absurd h hslash
      · exact fun _ h => absurd h hslash
  | @line body behind hbody hbehind =>
      have hkept : ∀ c ∈ body, (c != '\n') = true := forall_bne_of_not_mem hbody
      have hstop : behind.head?.any (· != '\n') = false := by
        cases behind with
        | nil => rfl
        | cons c behind => simpa using hbehind c rfl
      rw [List.cons_append, List.cons_append, piece?, takeWhile_of_ends hkept hstop,
        dropWhile_of_ends hkept hstop]
  | @block body behind hfirst =>
      have hclosed := blockBody?_of_first hfirst behind
      rw [List.cons_append, List.cons_append, List.append_assoc, List.cons_append,
        List.singleton_append, piece?, hclosed]
      rfl

theorem piece?_blank {c : Char} (hc : isWhiteSpace c = true) (text : List Char) :
    piece? (c :: text) = some ([c], text) :=
  piece?_of_isPiece (.blank hc)

/-- Whether something is trivia depends on no more of what follows than its first
character. -/
theorem IsTrivia.congr {trivia behind other : List Char} (h : IsTrivia trivia behind)
    (hhead : behind.head? = other.head?) : IsTrivia trivia other := by
  induction h with
  | nil => exact .nil
  | @cons piece trivia behind hpiece htrivia ih =>
      refine .cons ?_ (ih hhead)
      have hheads : (trivia ++ behind).head? = (trivia ++ other).head? := by
        rw [List.head?_append, List.head?_append, hhead]
      cases hpiece with
      | blank hblank => exact .blank hblank
      | line hbody hbehind => exact .line hbody (by rwa [← hheads])
      | block hfirst => exact .block hfirst

/-- Trivia is skipped, and the skipping goes on behind it. -/
theorem skip_append_of_isTrivia {trivia behind : List Char} (h : IsTrivia trivia behind) :
    skip (trivia ++ behind) = (trivia ++ (skip behind).1, (skip behind).2) := by
  induction h with
  | nil => rfl
  | @cons piece trivia behind hpiece htrivia ih =>
      rw [List.append_assoc, skip_of_piece? (piece?_of_isPiece hpiece), ih, List.append_assoc]

/-! ## Trivia in front of anything -/

/-- White space and closed comments.  A line comment is closed by a line feed. -/
inductive IsSpacing : List Char → Prop where
  | nil : IsSpacing []
  | blank {c text} (hblank : isWhiteSpace c = true) (htext : IsSpacing text) :
      IsSpacing (c :: text)
  | line {body text} (hbody : '\n' ∉ body) (htext : IsSpacing text) :
      IsSpacing ('/' :: '/' :: (body ++ '\n' :: text))
  | block {body text} (hfirst : ¬ ['*', '/'] <:+: body ++ ['*']) (htext : IsSpacing text) :
      IsSpacing ('/' :: '*' :: (body ++ ['*', '/']) ++ text)

/-- What ends by itself is trivia, whatever follows it. -/
theorem IsSpacing.isTrivia {text : List Char} (h : IsSpacing text) (behind : List Char) :
    IsTrivia text behind := by
  induction h with
  | nil => exact .nil
  | blank hblank htext ih => exact .cons (.blank hblank) ih
  | line hbody htext ih =>
      refine .cons (.line hbody ?_) (.cons (.blank (by decide)) ih)
      intro c hc
      simpa using hc.symm
  | block hfirst htext ih => exact .cons (.block hfirst) ih

/-! ## What stops the skipping -/

/-- Neither trivia nor an open comment stands at the head of the text. -/
structure Bare (text : List Char) : Prop where
  blank : ∀ c ∈ text.head?, isWhiteSpace c = false
  line : ¬ ['/', '/'] <+: text
  block : ¬ ['/', '*'] <+: text

theorem Bare.piece?_eq_none {text : List Char} (h : Bare text) : piece? text = none := by
  fun_cases piece? text with
  | case1 => rfl
  | case2 text => exact absurd (by simp) h.line
  | case3 text => exact absurd (by simp) h.block
  | case4 c text hline hblock hblank => simp [h.blank c rfl] at hblank
  | case5 c text hline hblock hblank => rfl

theorem bare_iff {text : List Char} :
    Bare text ↔ piece? text = none ∧ ¬ ['/', '*'] <+: text := by
  constructor
  · exact fun h => ⟨h.piece?_eq_none, h.block⟩
  · rintro ⟨hpiece, hblock⟩
    refine ⟨?_, ?_, hblock⟩
    · intro c hc
      cases hblank : isWhiteSpace c with
      | false => rfl
      | true =>
          obtain ⟨behind, rfl⟩ := List.head?_eq_some_iff.1 hc
          rw [piece?_blank hblank] at hpiece
          cases hpiece
    · rintro ⟨behind, rfl⟩
      simp [piece?] at hpiece

/-- Behind the trivia of a text stands no more of it, unless a comment is never closed there. -/
theorem bare_skip {text rest : List Char} (hrest : (skip text).2 = rest)
    (hblock : ¬ ['/', '*'] <+: rest) : Bare rest :=
  bare_iff.2 ⟨hrest ▸ piece?_skip text, hblock⟩

/-- Two characters tell whether the skipping stops. -/
theorem Bare.congr {text other : List Char} (h : Bare text) (htake : text.take 2 = other.take 2) :
    Bare other := by
  have hmark : ∀ mark : List Char, mark.length = 2 → mark <+: other → mark <+: text := by
    intro mark hlength hother
    rw [List.prefix_iff_eq_take, hlength] at hother ⊢
    rw [htake]
    exact hother
  refine ⟨?_, ?_, ?_⟩
  · rw [head?_congr htake]
    exact h.blank
  · exact fun hline => h.line (hmark _ rfl hline)
  · exact fun hblock => h.block (hmark _ rfl hblock)

/-- The skipping stops as well where the text is cut off behind that. -/
theorem Bare.of_append {text more : List Char} (h : Bare (text ++ more)) : Bare text := by
  refine ⟨fun c hc => h.blank c ?_, fun hline => h.line ?_, fun hblock => h.block ?_⟩
  · rw [Option.mem_def] at hc ⊢
    rw [List.head?_append, hc]
    rfl
  · exact hline.trans (List.prefix_append _ _)
  · exact hblock.trans (List.prefix_append _ _)

/-- Trivia is skipped up to where the skipping stops. -/
theorem skip_of_bare {trivia text : List Char} (htrivia : IsTrivia trivia text)
    (h : Bare text) : skip (trivia ++ text) = (trivia, text) := by
  rw [skip_append_of_isTrivia htrivia, skip_of_piece?_eq_none h.piece?_eq_none, List.append_nil]

/-! ## Comments that are never closed -/

/-- No comment is closed where `*/` does not occur. -/
theorem blockBody?_eq_none_iff {text : List Char} :
    blockBody? text = none ↔ ¬ ['*', '/'] <:+: text := by
  fun_induction blockBody? text with
  | case1 => simp
  | case2 text =>
      have hclosed : ['*', '/'] <:+: '*' :: '/' :: text := (List.prefix_append _ text).isInfix
      simp [hclosed]
  | case3 c text hopen ih =>
      have hprefix : ¬ ['*', '/'] <+: c :: text := by
        rintro ⟨behind, hbehind⟩
        obtain ⟨rfl, htext⟩ := List.cons.inj hbehind
        exact hopen behind rfl htext.symm
      rw [Option.map_eq_none_iff, ih, List.infix_cons_iff, or_iff_right hprefix]

/-- A comment begins at the head of the text and is never closed. -/
inductive Unclosed : List Char → Prop where
  | intro {body : List Char} (h : ¬ ['*', '/'] <:+: body) : Unclosed ('/' :: '*' :: body)

theorem Unclosed.piece?_eq_none {text : List Char} (h : Unclosed text) : piece? text = none := by
  obtain ⟨hbody⟩ := h
  rw [piece?, blockBody?_eq_none_iff.2 hbody, Option.map_none]

/-- Where no piece of trivia begins, neither trivia nor a comment does, or a comment that is never
closed. -/
theorem piece?_eq_none_iff {text : List Char} : piece? text = none ↔ Bare text ∨ Unclosed text := by
  constructor
  · intro h
    by_cases hblock : ['/', '*'] <+: text
    · obtain ⟨body, rfl⟩ := hblock
      refine .inr (.intro ?_)
      rwa [List.cons_append, List.cons_append, List.nil_append, piece?, Option.map_eq_none_iff,
        blockBody?_eq_none_iff] at h
    · exact .inl (bare_iff.2 ⟨h, hblock⟩)
  · rintro (hbare | hunclosed)
    · exact hbare.piece?_eq_none
    · exact hunclosed.piece?_eq_none

/-- Trivia is skipped, all of it and nothing else. -/
theorem skip_eq_iff {text trivia unread : List Char} :
    skip text = (trivia, unread) ↔
      text = trivia ++ unread ∧ IsTrivia trivia unread ∧ (Bare unread ∨ Unclosed unread) := by
  constructor
  · intro h
    have happend := skip_append text
    have htrivia := isTrivia_skip text
    have hpiece := piece?_skip text
    rw [h] at happend htrivia hpiece
    exact ⟨happend.symm, htrivia, piece?_eq_none_iff.1 hpiece⟩
  · rintro ⟨rfl, htrivia, hstop⟩
    rw [skip_append_of_isTrivia htrivia, skip_of_piece?_eq_none (piece?_eq_none_iff.2 hstop),
      List.append_nil]

end Trivia

end Lexis
