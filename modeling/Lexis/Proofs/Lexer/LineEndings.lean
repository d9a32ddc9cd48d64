import Lexis.Proofs.Lexeme.Returns
import Lexis.Proofs.Lexer.Occurrence
import Lexis.Proofs.Lexer.Tiling
import Lexis.Proofs.Text.Slice
import Mathlib.Data.List.Forall2

/-!
# Line endings

A source with carriage returns in front of its line feeds is read like the source without them: the
same tokens and the same faults come in the same order.  Raw strings keep the carriage returns in
their values, so the source must have none.

There is one exception.  A backslash at the end of a line leaves a quoted literal unterminated if a
line feed follows it, but before a carriage return it counts as an unknown escape.
`Outcome.BreaksOff` says which outcomes that are.

* `Trivia.skip_inStep` says that the same trivia is skipped.
* `Reading.inStep_ofText` is the law for one step.
* `readsAlike_outcomesFrom` is the induction over the steps.
* `Lexer.line_endings` is the law for whole sources.
-/

namespace Lexis

open Quotation

/-! ## Trivia -/

namespace Trivia

theorem blockBody?_withReturns (text : List Char) :
    blockBody? (withReturns text) =
      (blockBody? text).map fun (body, behind) => (withReturns body, withReturns behind) := by
  fun_induction blockBody? text with
  | case1 => rfl
  | case2 text => rfl
  | case3 c text hopen ih =>
      by_cases hc : c = '\n'
      · subst hc
        rw [withReturns_newline, blockBody?, blockBody?, ih]
        · cases blockBody? text <;> rfl
        · exact fun _ h => absurd h (by decide)
        · exact fun _ h => absurd h (by decide)
      · rw [withReturns_cons hc, blockBody?, ih]
        · cases blockBody? text with
          | none => rfl
          | some parts => simp [withReturns_cons hc]
        · intro behind hstar hbehind
          obtain ⟨more, rfl⟩ := exists_cons_of_withReturns (by decide) hbehind
          exact hopen more hstar rfl

/-- White space is skipped. -/
theorem skip_blank {c : Char} (hc : isWhiteSpace c = true) (text : List Char) :
    (skip (c :: text)).2 = (skip text).2 := by
  rw [skip_of_piece? (piece?_blank hc text)]

/-- A line comment takes the carriage return at the end of its line. -/
theorem inStep_dropWhile (text : List Char) :
    InStep (text.dropWhile (· != '\n')) ((withReturns text).dropWhile (· != '\n')) := by
  by_cases hmem : '\n' ∈ text
  · obtain ⟨line, more, rfl, hline⟩ := List.eq_append_cons_of_mem hmem
    have hpass : ∀ c ∈ line, (c != '\n') = true := forall_bne_of_not_mem hline
    have hpassed : ∀ c ∈ line ++ ['\r'], (c != '\n') = true := by
      rw [List.forall_mem_append, List.forall_mem_singleton]
      exact ⟨hpass, by decide⟩
    rw [withReturns_line hline, dropWhile_of_ends hpass rfl, dropWhile_of_ends hpassed rfl]
    exact .taken more
  · have hnone : '\n' ∉ text.dropWhile (· != '\n') :=
      fun h => hmem ((List.dropWhile_suffix _).mem h)
    rw [withReturns_of_not_mem hmem]
    exact inStep_of_not_mem hnone

theorem piece?_withReturns_of_none {text : List Char} (h : piece? text = none) :
    piece? (withReturns text) = none := by
  fun_cases piece? text with
  | case1 => rfl
  | case2 text => simp [piece?] at h
  | case3 text =>
      have hopen : blockBody? text = none := by simpa [piece?] using h
      have hreturned := blockBody?_withReturns text
      rw [hopen] at hreturned
      rw [withReturns_cons (by decide), withReturns_cons (by decide), piece?, hreturned]
      rfl
  | case4 c text hline hblock hblank =>
      rw [piece?_blank hblank] at h
      cases h
  | case5 c text hline hblock hblank =>
      have hc : c ≠ '\n' := by
        rintro rfl
        simp at hblank
      rw [withReturns_cons hc, piece?, if_neg hblank]
      · intro behind hslash hbehind
        obtain ⟨more, rfl⟩ := exists_cons_of_withReturns (by decide) hbehind
        exact hline more hslash rfl
      · intro behind hslash hbehind
        obtain ⟨more, rfl⟩ := exists_cons_of_withReturns (by decide) hbehind
        exact hblock more hslash rfl

/-- Behind a piece of trivia the two texts are in step again. -/
theorem inStep_piece {text other piece behind : List Char} (h : InStep text other)
    (hpiece : piece? text = some (piece, behind)) :
    ∃ returned, InStep behind returned ∧ (skip other).2 = (skip returned).2 := by
  cases h with
  | taken text =>
      rw [piece?_blank (by decide)] at hpiece
      obtain ⟨_, rfl⟩ := Prod.mk.inj (Option.some.inj hpiece)
      exact ⟨_, .whole _, skip_blank (by decide) _⟩
  | whole =>
      fun_cases piece? text with
      | case1 => cases hpiece
      | case2 text =>
          rw [piece?] at hpiece
          obtain ⟨_, rfl⟩ := Prod.mk.inj (Option.some.inj hpiece)
          refine ⟨_, inStep_dropWhile text, ?_⟩
          rw [withReturns_cons (by decide), withReturns_cons (by decide), skip_of_piece? rfl]
      | case3 text =>
          rw [piece?, Option.map_eq_some_iff] at hpiece
          obtain ⟨⟨body, rest⟩, hbody, hparts⟩ := hpiece
          obtain ⟨_, rfl⟩ := Prod.mk.inj hparts
          have hreturned := blockBody?_withReturns text
          rw [hbody, Option.map_some] at hreturned
          refine ⟨_, .whole rest, ?_⟩
          rw [withReturns_cons (by decide), withReturns_cons (by decide),
            skip_of_piece? (by rw [piece?, hreturned]; rfl)]
      | case4 c text hline hblock hblank =>
          rw [piece?_blank hblank] at hpiece
          obtain ⟨_, rfl⟩ := Prod.mk.inj (Option.some.inj hpiece)
          refine ⟨_, .whole text, ?_⟩
          by_cases hc : c = '\n'
          · rw [hc, withReturns_newline, skip_blank (by decide), skip_blank (by decide)]
          · rw [withReturns_cons hc, skip_blank hblank]
      | case5 c text hline hblock hblank =>
          rw [piece?, if_neg hblank] at hpiece
          · cases hpiece
          · exact hline
          · exact hblock

/-- What is behind the trivia of a text is behind that of the text with carriage returns. -/
theorem skip_inStep {text other : List Char} (h : InStep text other) :
    (skip other).2 = withReturns (skip text).2 := by
  fun_induction skip text generalizing other with
  | case1 text piece behind hpiece more rest hskip ih =>
      obtain ⟨returned, hbehind, hother⟩ := inStep_piece h hpiece
      rw [hother, ih hbehind, hskip]
  | case2 text hpiece =>
      cases h with
      | whole => rw [skip_of_piece?_eq_none (piece?_withReturns_of_none hpiece)]
      | taken text =>
          rw [piece?_blank (by decide)] at hpiece
          cases hpiece

end Trivia

/-! ## One step -/

/-- What an outcome says, apart from where it says it. -/
def Outcome.content : Outcome → Except Fault (Token.Kind × String × Token.Detail)
  | .ok token => .ok token.content
  | .error error => .error error.fault

namespace Reading

/-- A step through a text and the step through the text with carriage returns take the same: the
outcomes are the same, unless the first breaks off, and what is left is in step. -/
theorem inStep_ofText {text other : List Char} (h : InStep text other) (hback : '`' ∉ text) :
    InStep (ofText text).rest (ofText other).rest ∧
      ((∀ fault, ¬ BreaksOff (Trivia.skip text).2 fault) ∧
          (ofText other).outcome = (ofText text).outcome ∨
        ∃ fault, BreaksOff (Trivia.skip text).2 fault ∧
          (ofText text).outcome = some (.error fault) ∧
          (ofText other).outcome = some (.error (.unknownEscape '\r'))) := by
  have hskip := Trivia.skip_inStep h
  rcases ofText_cases text with
    ⟨hnil, htext⟩ | ⟨body, hbody, htext⟩ | ⟨c, rest, hrest, hopen, htext⟩
  · have hother : Trivia.skip other = ((Trivia.skip other).1, []) := by
      rw [hnil] at hskip
      exact Prod.ext rfl hskip
    rw [htext, ofText, hother, hnil]
    refine ⟨.whole [], .inl ⟨?_, rfl⟩⟩
    rintro fault ⟨⟩
  · have hother : Trivia.skip other =
        ((Trivia.skip other).1, '/' :: '*' :: withReturns body) := by
      rw [hbody, withReturns_cons (by decide), withReturns_cons (by decide)] at hskip
      exact Prod.ext rfl hskip
    rw [htext, ofText, hother, hbody]
    refine ⟨.whole [], .inl ⟨?_, rfl⟩⟩
    rintro fault ⟨⟩
  · have hbare := Trivia.bare_skip hrest hopen
    have hnewline : c ≠ '\n' := by
      rintro rfl
      simpa using hbare.blank _ rfl
    have hquote : c ≠ '`' := by
      rintro rfl
      have happend := Trivia.skip_append text
      rw [hrest] at happend
      exact hback (happend ▸ by simp)
    have hother : Trivia.skip other = ((Trivia.skip other).1, c :: withReturns rest) := by
      rw [hrest, withReturns_cons hnewline] at hskip
      exact Prod.ext rfl hskip
    have hopen' : ¬ ['/', '*'] <+: c :: withReturns rest := by
      rw [List.cons_prefix_cons] at hopen ⊢
      rintro ⟨hslash, behind, hstar⟩
      obtain ⟨more, rfl⟩ := exists_cons_of_withReturns (by decide) hstar.symm
      exact hopen ⟨hslash, by simp⟩
    obtain ⟨hverdict, hinStep⟩ := Lexeme.inStep_scan hquote hnewline rest
    rw [htext, ofText_of_skip hother hopen', hrest]
    refine ⟨hinStep, ?_⟩
    by_cases hbreaks : ∃ fault, BreaksOff (c :: rest) fault
    · obtain ⟨fault, hfault⟩ := hbreaks
      obtain ⟨hfirst, hsecond⟩ := Lexeme.verdict_of_breaksOff hfault
      exact .inr ⟨fault, hfault, congrArg some hfirst, congrArg some hsecond⟩
    · have hsame := hverdict.resolve_right hbreaks
      exact .inl ⟨not_exists.1 hbreaks, congrArg some hsame⟩

/-- Both readings come to the end of their texts. -/
theorem outcome_eq_none_iff_of_inStep {text other : List Char} (h : InStep text other)
    (hback : '`' ∉ text) : (ofText other).outcome = none ↔ (ofText text).outcome = none := by
  rcases (inStep_ofText h hback).2 with ⟨_, houtcome⟩ | ⟨fault, _, hfirst, hsecond⟩
  · rw [houtcome]
  · simp [hfirst, hsecond]

/-- What is handed out for a reading says what the reading has found, wherever it stands. -/
theorem content_toOutcome {reading other : Reading} (h : other.outcome = reading.outcome)
    (start place : Position) (fileId : Nat) :
    (other.toOutcome place fileId).content = (reading.toOutcome start fileId).content := by
  rw [toOutcome, toOutcome, h]
  rcases reading.outcome with _ | (fault | lexeme) <;> rfl

end Reading

/-! ## The whole source -/

namespace Outcome

/-- A quoted literal breaks off in the source where the outcome begins, and `fault` is the fault of
that. -/
def BreaksOff (source : List Char) (outcome : Outcome) (fault : Fault) : Prop :=
  ∃ before behind, source = before ++ behind ∧
    outcome.span.start = Position.start.after before ∧ Quotation.BreaksOff behind fault

/-- What becomes of an outcome of the source with the carriage returns. -/
inductive ReadsAlike (source : List Char) (outcome returned : Outcome) : Prop where
  | same (hwhole : ∀ fault, ¬ BreaksOff source outcome fault)
      (hcontent : returned.content = outcome.content) : ReadsAlike source outcome returned
  | changed {fault : Fault} (hbreaks : BreaksOff source outcome fault)
      (hcontent : outcome.content = .error fault)
      (hreturned : returned.content = .error (.unknownEscape '\r')) :
      ReadsAlike source outcome returned

/-- What breaks off says something else with the carriage returns. -/
theorem ReadsAlike.content_eq_iff {source : List Char} {outcome returned : Outcome}
    (h : ReadsAlike source outcome returned) :
    returned.content = outcome.content ↔ ∀ fault, ¬ BreaksOff source outcome fault := by
  cases h with
  | same hwhole hcontent => exact ⟨fun _ => hwhole, fun _ => hcontent⟩
  | @changed fault hbreaks hcontent hreturned =>
      have hfault : fault ≠ .unknownEscape '\r' := by
        obtain ⟨_, _, _, _, hbehind⟩ := hbreaks
        cases hbehind <;> decide
      rw [hcontent, hreturned]
      exact ⟨fun h => absurd (Except.error.inj h).symm hfault, fun h => absurd hbreaks (h fault)⟩

/-- An outcome breaks off just if what stands behind its trivia does. -/
theorem breaksOff_toOutcome_iff (before text : List Char) (fileId : Nat) (fault : Fault) :
    BreaksOff (before ++ text)
        ((Reading.ofText text).toOutcome (Position.start.after before) fileId) fault ↔
      Quotation.BreaksOff (Trivia.skip text).2 fault := by
  have hsource : before ++ text = before ++ (Trivia.skip text).1 ++ (Trivia.skip text).2 := by
    rw [List.append_assoc, Trivia.skip_append]
  have hstart : ((Reading.ofText text).toOutcome (Position.start.after before) fileId).span.start =
      Position.start.after (before ++ (Trivia.skip text).1) := by
    rw [Reading.span_toOutcome, Reading.trivia_ofText, Position.after_append]
  rw [BreaksOff, hstart, hsource]
  constructor
  · rintro ⟨other, behind, htext, hplace, hbreaks⟩
    have hsize := congrArg Position.offset hplace
    rw [Position.offset_after, Position.offset_after, Nat.add_left_cancel_iff] at hsize
    rwa [(append_inj_of_byteSize_eq htext hsize).2]
  · exact fun hbreaks => ⟨_, _, rfl, rfl, hbreaks⟩

end Outcome

open Outcome (ReadsAlike)

/-- One step of the two readings. -/
theorem readsAlike_toOutcome {text other : List Char} (h : InStep text other) (hback : '`' ∉ text)
    (before : List Char) (place : Position) (fileId : Nat) :
    ReadsAlike (before ++ text)
      ((Reading.ofText text).toOutcome (Position.start.after before) fileId)
      ((Reading.ofText other).toOutcome place fileId) := by
  have hplaced := Outcome.breaksOff_toOutcome_iff before text fileId
  rcases (Reading.inStep_ofText h hback).2 with
    ⟨hwhole, houtcome⟩ | ⟨fault, hbreaks, hfirst, hsecond⟩
  · exact .same (fun fault => mt (hplaced fault).1 (hwhole fault))
      (Reading.content_toOutcome houtcome _ _ _)
  · refine .changed ((hplaced fault).2 hbreaks) ?_ ?_
    · rw [Reading.toOutcome, hfirst]
      rfl
    · rw [Reading.toOutcome, hsecond]
      rfl

/-- The two readings go through the source side by side. -/
theorem readsAlike_outcomesFrom (fileId : Nat) (start : Position) (before text : List Char)
    {other : List Char} (hstart : start = Position.start.after before) (h : InStep text other)
    (hback : '`' ∉ text) (place : Position) :
    List.Forall₂ (ReadsAlike (before ++ text)) (outcomesFrom fileId start text)
      (outcomesFrom fileId place other) := by
  fun_induction outcomesFrom fileId start text generalizing before other place with
  | case1 start text hend =>
      subst hstart
      rw [outcomesFrom, dif_pos ((Reading.outcome_eq_none_iff_of_inStep h hback).2 hend)]
      exact .cons (readsAlike_toOutcome h hback before place fileId) .nil
  | case2 start text hend ih =>
      subst hstart
      have hother := mt (Reading.outcome_eq_none_iff_of_inStep h hback).1 hend
      have happend := Reading.ofText_append text
      have hrest : '`' ∉ (Reading.ofText text).rest := by
        intro hmem
        exact hback (happend ▸ List.mem_append_right _ (List.mem_append_right _ hmem))
      have hsource : before ++ ((Reading.ofText text).trivia ++ (Reading.ofText text).read) ++
          (Reading.ofText text).rest = before ++ text := by
        rw [List.append_assoc, List.append_assoc, happend]
      have hstop : (Reading.ofText text).stop (Position.start.after before) =
          Position.start.after
            (before ++ ((Reading.ofText text).trivia ++ (Reading.ofText text).read)) := by
        rw [Reading.stop, Position.after_append, Position.after_append]
      have hbehind := ih _ hstop (Reading.inStep_ofText h hback).1 hrest
        ((Reading.ofText other).stop place)
      rw [hsource] at hbehind
      rw [outcomesFrom_of_ne_none hother]
      exact .cons (readsAlike_toOutcome h hback before place fileId) hbehind

/-- Outcomes that read alike say the same just if none of them breaks off. -/
theorem contents_eq_iff_of_readsAlike {source : List Char} {outcomes returned : List Outcome}
    (h : List.Forall₂ (ReadsAlike source) outcomes returned) :
    returned.map Outcome.content = outcomes.map Outcome.content ↔
      ∀ outcome ∈ outcomes, ∀ fault, ¬ outcome.BreaksOff source fault := by
  induction h with
  | nil => simp
  | cons hfirst hrest ih =>
      rw [List.map_cons, List.map_cons, List.cons_eq_cons, List.forall_mem_cons, ih]
      exact and_congr_left fun _ => hfirst.content_eq_iff

namespace Lexer

/-- A source without raw strings, and the same source with a carriage return in front of every line
feed: outcome by outcome, the two read alike.  So they say the same unless a quoted literal breaks
off at the end of a line. -/
theorem line_endings (source : String) (fileId : Nat) (hback : '`' ∉ source.toList) :
    List.Forall₂ (ReadsAlike source.toList) (ofSource source fileId).outcomes
        (ofSource (String.ofList (withReturns source.toList)) fileId).outcomes ∧
      ((ofSource (String.ofList (withReturns source.toList)) fileId).outcomes.map
            Outcome.content = (ofSource source fileId).outcomes.map Outcome.content ↔
        ∀ outcome ∈ (ofSource source fileId).outcomes, ∀ fault,
          ¬ outcome.BreaksOff source.toList fault) := by
  have hreads : List.Forall₂ (ReadsAlike source.toList) (ofSource source fileId).outcomes
      (ofSource (String.ofList (withReturns source.toList)) fileId).outcomes := by
    rw [outcomes_ofSource, outcomes_ofSource, String.toList_ofList]
    exact readsAlike_outcomesFrom fileId .start [] source.toList rfl (.whole _) hback .start
  exact ⟨hreads, contents_eq_iff_of_readsAlike hreads⟩

/-- A string and a character that are not closed on their lines, and a comment. -/
theorem line_endings_unclosed :
    '`' ∉ "x \"a\n'b\n// c\n1".toList ∧
      List.Forall₂ (ReadsAlike "x \"a\n'b\n// c\n1".toList)
        (ofSource "x \"a\n'b\n// c\n1" 3).outcomes
        (ofSource (String.ofList (withReturns "x \"a\n'b\n// c\n1".toList)) 3).outcomes ∧
      ((ofSource (String.ofList (withReturns "x \"a\n'b\n// c\n1".toList)) 3).outcomes.map
            Outcome.content = (ofSource "x \"a\n'b\n// c\n1" 3).outcomes.map Outcome.content ↔
        ∀ outcome ∈ (ofSource "x \"a\n'b\n// c\n1" 3).outcomes, ∀ fault,
          ¬ outcome.BreaksOff "x \"a\n'b\n// c\n1".toList fault) :=
  ⟨by decide, line_endings _ 3 (by decide)⟩

/-- A string that breaks off at the end of its line. -/
theorem line_endings_backslash :
    '`' ∉ "\"a\\\n".toList ∧ '\r' ∉ "\"a\\\n".toList ∧
      (ofSource "\"a\\\n" 0).outcomes.map Outcome.content ≠
        (ofSource (String.ofList (withReturns "\"a\\\n".toList)) 0).outcomes.map
          Outcome.content := by
  decide +kernel

end Lexer

end Lexis
