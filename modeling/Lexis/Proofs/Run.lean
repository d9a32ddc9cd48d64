import Lexis.Proofs.Lexer.Progress
import Lexis.Run

/-!
# The errors of a source

A run over a source and the tokens with diagnostics of the same source come from one list of
outcomes.  So the errors of the run are those that the diagnostics report, in the same order:
`toList_tokenize`.
-/

namespace Lexis

/-- The error, if it is one. -/
def Outcome.error? : Outcome → Option LexicalError
  | .ok _ => none
  | .error error => some error

/-- The reports are made of the errors, one by one. -/
theorem Outcome.filterMap_diagnostic? (outcomes : List Outcome) :
    outcomes.filterMap diagnostic? = (outcomes.filterMap error?).map LexicalError.toDiagnostic := by
  rw [List.map_filterMap]
  congr 1
  funext outcome
  cases outcome <;> rfl

namespace Run

theorem errors_ofOutcomes (outcomes : List Outcome) :
    (ofOutcomes outcomes).errors = outcomes.filterMap Outcome.error? := by
  fun_induction ofOutcomes outcomes with
  | case1 => rfl
  | case2 token outcomes run ih => exact ih
  | case3 error outcomes run ih => exact congrArg (error :: ·) ih

/-- The end of the source, which a run leaves out, is no error. -/
theorem errors_ofSource (source : String) :
    (ofSource source).errors = (Lexer.ofSource source 0).outcomes.filterMap Outcome.error? := by
  obtain ⟨before, last, houtcomes, _⟩ := (Lexer.ofSource source 0).outcomes_eq_append
  rw [ofSource, errors_ofOutcomes, Lexer.collect_eq, houtcomes, List.dropLast_concat,
    List.filterMap_append]
  exact (List.append_nil _).symm

end Run

/-- The diagnostics of a source report the errors of the run over it. -/
theorem toList_tokenize (source : String) :
    (tokenize source 0).2.toList = (Run.ofSource source).errors.map LexicalError.toDiagnostic := by
  rw [(tokenize_eq source 0).2, Outcome.filterMap_diagnostic?, Run.errors_ofSource]

end Lexis
