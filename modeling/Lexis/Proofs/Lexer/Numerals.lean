import Lexis.Proofs.Lexeme.Grammar
import Lexis.Proofs.Lexeme.Numeral.Faults
import Lexis.Proofs.Lexer.Strings
import Lexis.Proofs.Lexer.Tiling

/-!
# Numerals in a source

What a lexer hands out where it stands before a digit.  It does so for the run of identifier
characters and points from there: a token just if the run is a numeral, and otherwise one error, for
the fault that the digits at its head and what is behind them say.

* `Cursor.step_of_isDigit` places the scan of a numeral in a source.
* `Cursor.step_numeral_iff` and `Cursor.step_numeral_error_iff` say when a numeral is handed out,
  and when and why none is; `Lexer.numeral_literals` puts them together.
* `Lexer.numeral_extent` says how far the lexer goes on, whatever it hands out.
-/

namespace Lexis

open Numeral

/-! ## Numerals at a cursor -/

namespace Cursor

section Step

variable {cursor : Cursor} {c : Char} {text : List Char}

/-- The step over what begins with a digit. -/
theorem step_of_isDigit (hrest : cursor.rest = c :: text) (hc : isDigit c = true) :
    cursor.step =
      (Lexeme.outcome (scan (c :: text)).verdict (cursor.spanOver (scan (c :: text)).read),
        cursor.past (scan (c :: text)).read (scan (c :: text)).rest) := by
  have hbare : Trivia.Bare (c :: text) :=
    Lexeme.bare_of_isIdentifierPart (isIdentifierPart_of_isDigitIn hc) text
  rw [← Lexeme.scan_of_isDigit hc]
  exact step_of_scan hrest hbare.piece?_eq_none hbare.block

/-- A numeral is handed out just for a run that is one. -/
theorem step_numeral_iff (hrest : cursor.rest = c :: text) (hc : isDigit c = true)
    (token : Token) (last : Cursor) :
    cursor.step = (.ok token, last) ↔
      ∃ lexeme, Denotes ((c :: text).takeWhile isTail) lexeme ∧
        token = lexeme.toToken (cursor.spanOver ((c :: text).takeWhile isTail)) ∧
        last = cursor.past ((c :: text).takeWhile isTail) ((c :: text).dropWhile isTail) := by
  rw [step_of_isDigit hrest hc]
  constructor
  · intro h
    cases hverdict : (scan (c :: text)).verdict with
    | ok lexeme =>
        have hdenotes := denotes_of_verdict hc hverdict
        rw [scan_of_denotes hdenotes] at h
        obtain ⟨htoken, hlast⟩ := Prod.mk.inj h
        exact ⟨lexeme, hdenotes, (Except.ok.inj htoken).symm, hlast.symm⟩
    | error fault =>
        rw [hverdict] at h
        cases (Prod.mk.inj h).1
  · rintro ⟨lexeme, hdenotes, rfl, rfl⟩
    rw [scan_of_denotes hdenotes]
    rfl

/-- A run that is no numeral is an error, for one fault. -/
theorem step_numeral_error_iff (hrest : cursor.rest = c :: text) (hc : isDigit c = true)
    (fault : Fault) :
    (∃ span, cursor.step.1 = .error ⟨fault, span⟩) ↔
      (∀ lexeme, ¬ Denotes ((c :: text).takeWhile isTail) lexeme) ∧
        FaultOf ((c :: text).takeWhile isDigit) ((c :: text).dropWhile isDigit) fault := by
  rw [← verdict_scan_error_iff hc, step_of_isDigit hrest hc]
  cases (scan (c :: text)).verdict with
  | ok lexeme => simp [Lexeme.outcome]
  | error actual => simp [Lexeme.outcome]

end Step

end Cursor

namespace Lexer

/-- The language of numerals, at every place of every source where a digit stands: which runs
are handed out as a numeral, with which value and how far, and for which fault the others are
refused. -/
theorem numeral_literals (cursor : Cursor) (c : Char) (text : List Char)
    (hrest : cursor.rest = c :: text) (hc : isDigit c = true) :
    (∀ token last, cursor.step = (.ok token, last) ↔
      ∃ lexeme, Denotes ((c :: text).takeWhile isTail) lexeme ∧
        token = lexeme.toToken (cursor.spanOver ((c :: text).takeWhile isTail)) ∧
        last = cursor.past ((c :: text).takeWhile isTail) ((c :: text).dropWhile isTail)) ∧
    ∀ fault, (∃ span, cursor.step.1 = .error ⟨fault, span⟩) ↔
      (∀ lexeme, ¬ Denotes ((c :: text).takeWhile isTail) lexeme) ∧
        FaultOf ((c :: text).takeWhile isDigit) ((c :: text).dropWhile isDigit) fault :=
  ⟨Cursor.step_numeral_iff hrest hc, Cursor.step_numeral_error_iff hrest hc⟩

/-- A zero in front of a digit that is not octal, and then an exponent: the zero is at fault. -/
theorem numeral_literals_leadingZero :
    (Cursor.ofSource "08e5;" 3).rest = '0' :: "8e5;".toList ∧ isDigit '0' = true ∧
      (∀ lexeme, ¬ Denotes "08e5".toList lexeme) ∧
      FaultOf "08".toList "e5;".toList .leadingZero := by
  have hrest : (Cursor.ofSource "08e5;" 3).rest = '0' :: "8e5;".toList := rfl
  have hstep : (Cursor.ofSource "08e5;" 3).step.1 =
      .error ⟨.leadingZero, ⟨.start, Position.start.after "08e5".toList, 3⟩⟩ := by
    rw [Cursor.step_of_isDigit hrest rfl]
    rfl
  have hrun : ('0' :: "8e5;".toList).takeWhile isTail = "08e5".toList := by decide +kernel
  have hdigits : ('0' :: "8e5;".toList).takeWhile isDigit = "08".toList := by decide +kernel
  have hbehind : ('0' :: "8e5;".toList).dropWhile isDigit = "e5;".toList := by decide +kernel
  have herror := ((numeral_literals _ '0' _ hrest rfl).2 .leadingZero).1 ⟨_, hstep⟩
  rw [hrun, hdigits, hbehind] at herror
  exact ⟨hrest, rfl, herror⟩

/-- Wherever a digit stands, the lexer takes the extent of a numeral and hands out one outcome for
all of it.  What it goes on with is no part of a numeral. -/
theorem numeral_extent (cursor : Cursor) (c : Char) (text : List Char)
    (hrest : cursor.rest = c :: text) (hc : isDigit c = true) :
    ∃ written rest, Extent (c :: text) written ∧ c :: text = written ++ rest ∧
      beginsWith isTail rest = false ∧ cursor.step.1.span = cursor.spanOver written ∧
      cursor.step.2 = cursor.past written rest := by
  obtain ⟨hextent, hends⟩ := extent_scan hc text
  refine ⟨_, _, hextent, (scan_splits (c :: text)).symm, hends, ?_, ?_⟩
  · rw [Cursor.step_of_isDigit hrest hc]
    cases (scan (c :: text)).verdict <;> rfl
  · rw [Cursor.step_of_isDigit hrest hc]

/-- The sign of an exponent is taken along, and the run behind it. -/
theorem numeral_extent_exponent :
    (Cursor.ofSource "1.5e+5x;" 3).rest = '1' :: ".5e+5x;".toList ∧ isDigit '1' = true ∧
      ∃ written rest, Extent "1.5e+5x;".toList written ∧ "1.5e+5x;".toList = written ++ rest ∧
        beginsWith isTail rest = false ∧
        (Cursor.ofSource "1.5e+5x;" 3).step.1.span =
          (Cursor.ofSource "1.5e+5x;" 3).spanOver written ∧
        (Cursor.ofSource "1.5e+5x;" 3).step.2 =
          (Cursor.ofSource "1.5e+5x;" 3).past written rest :=
  ⟨rfl, rfl, numeral_extent (Cursor.ofSource "1.5e+5x;" 3) '1' ".5e+5x;".toList rfl rfl⟩

end Lexer

end Lexis
