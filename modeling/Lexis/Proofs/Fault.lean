import Lexis.Fault
import Lexis.Proofs.Diagnostic.Rendering

/-!
# The report of a fault

Every text that a fault puts into its report is one row.  Two of the messages show a character of
the source, and a line feed is shown by its escape: `Quoting.newline_not_mem_escape`.

`LexicalError.toDiagnostic_eq` is the report field by field, and `LexicalError.hasRowTexts` says
that rendering it breaks no row.
-/

namespace Lexis

/-- The written form of a character never is a line feed. -/
theorem Quoting.newline_not_mem_escape (quoting : Quoting) (c : Char) :
    '\n' ∉ quoting.escape c := by
  have hcodePoint : '\n' ∉ codePoint c := by
    simp [codePoint, newline_not_mem_toDigits 16 c.toNat (by decide) (by decide)]
  fun_cases escape quoting c with
  | case1 => decide
  | case2 => decide
  | case3 => decide
  | case4 => decide
  | case5 => decide
  | case6 hnul htab hreturn hnewline => simpa using Ne.symm hnewline
  | case7 => exact hcodePoint
  | case8 => exact hcodePoint
  | case9 hnul htab hreturn hnewline => simpa using Ne.symm hnewline

namespace Fault

theorem isRow_message (fault : Fault) : IsRow fault.message := by
  fun_cases message fault with
  | case1 c =>
      refine isRow_append.2 ⟨isRow_ofList.2 (by decide), isRow_ofList.2 ?_⟩
      simp [Quoting.newline_not_mem_escape]
  | case7 form =>
      refine isRow_append.2 ⟨isRow_ofList.2 (by decide), ?_⟩
      fun_cases NumericForm.name form <;> exact isRow_ofList.2 (by decide)
  | case16 c =>
      refine isRow_append.2 ⟨isRow_append.2 ⟨isRow_ofList.2 (by decide), ?_⟩, by decide⟩
      exact isRow_ofList.2 (Quoting.newline_not_mem_escape _ c)
  | _ => exact isRow_ofList.2 (by decide)

theorem isRow_remark (fault : Fault) : IsRow fault.remark := by
  fun_cases remark fault <;> exact isRow_ofList.2 (by decide)

theorem isRow_advice {fault : Fault} {advice : String} (h : fault.advice? = some advice) :
    IsRow advice := by
  revert h
  fun_cases advice? fault
  all_goals intro h; cases h
  all_goals exact isRow_ofList.2 (by decide)

end Fault

namespace LexicalError

theorem toDiagnostic_eq (error : LexicalError) :
    error.toDiagnostic =
      { code := some error.code, message := error.fault.message,
        labels := [⟨error.span, error.fault.remark⟩], help := error.fault.advice?.toList } := by
  rw [toDiagnostic]
  cases error.fault.advice? <;> rfl

theorem hasRowTexts (error : LexicalError) : error.toDiagnostic.HasRowTexts := by
  rw [toDiagnostic_eq]
  constructor
  · intro code hcode
    obtain rfl : error.code = code := Option.some.inj hcode
    show 'L' ≠ '\n'
    decide
  · exact error.fault.isRow_message
  · intro label hlabel
    rw [List.mem_singleton.1 hlabel]
    exact error.fault.isRow_remark
  · intro help hhelp
    exact Fault.isRow_advice (Option.mem_toList.1 hhelp)

end LexicalError

end Lexis
