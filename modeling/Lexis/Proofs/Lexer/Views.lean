import Lexis.Proofs.Run

/-!
# The views of a source agree

One source can be looked at as a run, as tokens with diagnostics, through the runs that may not or
that must be faulty, and through the log.  Each of these splits the outcomes of `Lexer.nextToken`
in its own way: before or behind the end of the source, into tokens and errors, or not at all.

* `Run.exists_tokenize_eq_append` and `toList_tokenize` relate the run to the tokens and to the
  diagnostics.
* `Run.faultless?_eq` and `Run.faulty?_eq` decide by the diagnostics which run there is.
* `Lexer.log_tokenize` is the whole log, and `Event.filter_trace` and `Event.filter_debug` pick
  the tokens and the errors out of it.
* `Lexer.views_agree` puts them together for a source.
-/

namespace Lexis

/-! ## Tokens and errors of a run -/

namespace Run

theorem tokens_ofOutcomes (outcomes : List Outcome) :
    (ofOutcomes outcomes).tokens = outcomes.filterMap Outcome.token? := by
  fun_induction ofOutcomes outcomes with
  | case1 => rfl
  | case2 token outcomes run ih => exact congrArg (token :: ·) ih
  | case3 error outcomes run ih => exact ih

/-- The tokens of a source are those of the run over it, and behind them the token of the end. -/
theorem exists_tokenize_eq_append (source : String) :
    ∃ last, (tokenize source 0).1 = (ofSource source).tokens ++ [last] ∧
      last.isEndOfInput = true ∧
      ∀ token ∈ (ofSource source).tokens, token.isEndOfInput = false := by
  obtain ⟨before, last, houtcomes, hlast, hbefore⟩ := (Lexer.ofSource source 0).outcomes_eq_append
  have htokens : (ofSource source).tokens = before.filterMap Outcome.token? := by
    rw [ofSource, tokens_ofOutcomes, Lexer.collect_eq, houtcomes, List.dropLast_concat]
  refine ⟨last, ?_, hlast, ?_⟩
  · rw [(tokenize_eq source 0).1, houtcomes, htokens, List.filterMap_append]
    rfl
  · intro token htoken
    rw [htokens] at htoken
    obtain ⟨outcome, hmem, houtcome⟩ := List.mem_filterMap.1 htoken
    have hend := hbefore outcome hmem
    rwa [Outcome.token?_eq_some_iff.1 houtcome] at hend

/-! ## Runs that may not and that must be faulty -/

/-- There are diagnostics just if the run has errors. -/
theorem hasErrors_tokenize (source : String) :
    (tokenize source 0).2.hasErrors = !(ofSource source).errors.isEmpty := by
  have hempty : (tokenize source 0).2.isEmpty = (tokenize source 0).2.toList.isEmpty :=
    Array.isEmpty_toList.symm
  rw [Diagnostics.hasErrors, hempty, toList_tokenize, List.isEmpty_map]

theorem faultless?_eq (source : String) :
    faultless? source =
      if (tokenize source 0).2.hasErrors then none else some (ofSource source) := by
  rw [hasErrors_tokenize]
  simp only [faultless?]
  cases (ofSource source).errors.isEmpty <;> rfl

theorem faulty?_eq (source : String) :
    faulty? source =
      if (tokenize source 0).2.hasErrors then some (ofSource source) else none := by
  rw [hasErrors_tokenize]
  simp only [faulty?]
  cases (ofSource source).errors.isEmpty <;> rfl

end Run

/-! ## The log -/

namespace Event

/-- The finest events are those of the tokens. -/
theorem filter_trace (outcomes : List Outcome) :
    (outcomes.map ofOutcome).filter (fun event => event.level = .trace) =
      (outcomes.filterMap Outcome.token?).map token := by
  induction outcomes with
  | nil => rfl
  | cons outcome outcomes ih =>
      cases outcome with
      | ok first => exact congrArg (token first :: ·) ih
      | error first => exact ih

/-- The other events of outcomes are those of the errors. -/
theorem filter_debug (outcomes : List Outcome) :
    (outcomes.map ofOutcome).filter (fun event => event.level = .debug) =
      (outcomes.filterMap Outcome.error?).map error := by
  induction outcomes with
  | nil => rfl
  | cons outcome outcomes ih =>
      cases outcome with
      | ok first => exact ih
      | error first => exact congrArg (error first :: ·) ih

end Event

namespace Lexer

/-- Reading a source to its end logs every outcome in its turn and then the summary. -/
theorem log_tokenize (lexer : Lexer) :
    lexer.tokenize.2.log.toList =
      lexer.log.toList ++ lexer.outcomes.map Event.ofOutcome ++
        [.summary lexer.tokenize.1.length lexer.tokenize.2.diagnostics.size] := by
  rw [← log_readTokens]
  exact Array.toList_push

/-- For every source: the tokens are those of the run and the end of the source behind them; the
diagnostics report the errors of the run, in order; of the two runs that demand something of the
source, just one is refused, and the diagnostics decide which.  The log has one event for each
outcome, the tokens and the errors mixed as they came, and then a summary that counts the tokens
and the diagnostics. -/
theorem views_agree (source : String) :
    (∃ last, (Lexis.tokenize source 0).1 = (Run.ofSource source).tokens ++ [last] ∧
      last.isEndOfInput = true ∧
      ∀ token ∈ (Run.ofSource source).tokens, token.isEndOfInput = false) ∧
    (Lexis.tokenize source 0).2.toList =
      (Run.ofSource source).errors.map LexicalError.toDiagnostic ∧
    Run.faultless? source =
      (if (Lexis.tokenize source 0).2.hasErrors then none else some (Run.ofSource source)) ∧
    Run.faulty? source =
      (if (Lexis.tokenize source 0).2.hasErrors then some (Run.ofSource source) else none) ∧
    ∀ fileId, ∃ summary,
      summary = Event.summary (Lexis.tokenize source fileId).1.length
        (Lexis.tokenize source fileId).2.size ∧
      (ofSource source fileId).tokenize.2.log.toList =
        (ofSource source fileId).outcomes.map Event.ofOutcome ++ [summary] ∧
      (ofSource source fileId).tokenize.2.log.toList.filter (fun event => event.level = .trace) =
        (Lexis.tokenize source fileId).1.map Event.token ∧
      (ofSource source fileId).tokenize.2.log.toList.filter (fun event => event.level = .debug) =
        ((ofSource source fileId).outcomes.filterMap Outcome.error?).map Event.error ++
          [summary] := by
  refine ⟨Run.exists_tokenize_eq_append source, toList_tokenize source,
    Run.faultless?_eq source, Run.faulty?_eq source, ?_⟩
  intro fileId
  have hlog := log_tokenize (ofSource source fileId)
  refine ⟨_, rfl, hlog, ?_, ?_⟩
  · rw [hlog, List.filter_append, List.filter_append, Event.filter_trace,
      (tokenize_eq source fileId).1]
    exact List.append_nil _
  · rw [hlog, List.filter_append, List.filter_append, Event.filter_debug]
    rfl

end Lexer

end Lexis
