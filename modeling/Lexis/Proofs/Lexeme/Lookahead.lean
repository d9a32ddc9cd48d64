import Lexis.Proofs.Lexeme.Grammar
import Lexis.Proofs.Lexeme.Lookahead.Numeral
import Lexis.Proofs.Lexeme.Lookahead.Quotation

/-!
# How far lexemes look ahead

No lexeme looks further ahead than two characters: `Lexeme.scan_looksAhead`.  A word is known
by the next character, and a symbol by the next two, for the first of the three that it may
have is taken in any case.
-/

namespace Lexis

open Scan (LooksAhead)

namespace Lexeme

theorem scanWord_looksAhead {c : Char} (h : isIdentifierStart c = true) (text : List Char) :
    LooksAhead 2 (scanWord c) [c] text := by
  refine ⟨text.takeWhile isIdentifierPart, congrArg Scan.read (scanWord_eq h text),
    fun other htake => ?_⟩
  rw [scanWord_eq h] at htake
  have hhead := head?_congr htake
  rw [scanWord_eq h, scanWord_eq h, takeWhile_of_head? hhead, dropWhile_of_head? hhead]
  rfl

theorem scanSymbol_of_longest? {c : Char} {taken rest : List Char} {symbol : Symbol}
    (hspelling : symbol.spelling.toList = c :: taken)
    (h : Symbol.longest? (c :: taken ++ rest) = some symbol) :
    scanSymbol c (taken ++ rest) = ⟨c :: taken, rest, .ok (.symbol symbol)⟩ := by
  rw [Symbol.scanSymbol_eq, ← List.cons_append, h]
  simp only [← String.length_toList, hspelling, List.take_left, List.drop_left]

/-- Symbols have three characters at most, and the first is taken. -/
theorem scanSymbol_looksAhead (c : Char) (text : List Char) :
    LooksAhead 2 (scanSymbol c) [c] text := by
  have hcongr : ∀ {taken rest other : List Char}, rest.take 2 = other.take 2 →
      Symbol.longest? (c :: taken ++ rest) = Symbol.longest? (c :: taken ++ other) :=
    fun htake => Symbol.longest?_congr
      (take_append_congr htake (by rw [List.length_cons]; omega))
  cases hfound : Symbol.longest? (c :: text) with
  | none =>
      refine ⟨[], by simp [Symbol.scanSymbol_eq, hfound], fun other htake => ?_⟩
      simp only [Symbol.scanSymbol_eq, hfound] at htake
      have hnone : Symbol.longest? (c :: other) = none :=
        (@hcongr [] text other htake).symm.trans hfound
      simp [Symbol.scanSymbol_eq, hfound, hnone]
  | some symbol =>
      obtain ⟨rest, hrest⟩ := (Symbol.longest?_eq_some_iff.1 hfound).isPrefix
      obtain ⟨taken, hspelling⟩ : ∃ taken, symbol.spelling.toList = c :: taken := by
        rcases hcons : symbol.spelling.toList with _ | ⟨d, taken⟩
        · exact absurd hcons symbol.spelling_ne_nil
        · rw [hcons, List.cons_append, List.cons.injEq] at hrest
          exact ⟨taken, by rw [hrest.1]⟩
      rw [hspelling, List.cons_append, List.cons.injEq] at hrest
      obtain ⟨_, rfl⟩ := hrest
      have heq := scanSymbol_of_longest? hspelling hfound
      refine ⟨taken, by rw [heq]; rfl, fun other htake => ?_⟩
      rw [heq] at htake ⊢
      exact scanSymbol_of_longest? hspelling ((hcongr htake).symm.trans hfound)

/-- A numeral is read from its first digit on. -/
theorem scan_looksAhead_of_isDigit {c : Char} (h : isDigit c = true) (text : List Char) :
    LooksAhead 2 (scan c) [c] text := by
  obtain ⟨taken, hread, hother⟩ := Numeral.scan_looksAhead (c :: text)
  have hsplits : (Numeral.scan (c :: text)).Splits ([] ++ c :: text) := Numeral.scan_splits _
  obtain ⟨more, rfl⟩ : ∃ more, taken = c :: more := by
    have htext := hsplits.eq_append hread
    rcases taken with _ | ⟨d, more⟩
    · exact absurd hread (Numeral.scan_read_ne_nil h text)
    · exact ⟨more, by rw [(List.cons.inj htext).1]⟩
  refine ⟨more, by rw [scan_of_isDigit h, hread]; rfl, fun other htake => ?_⟩
  rw [scan_of_isDigit h] at htake ⊢
  rw [scan_of_isDigit h]
  exact hother other htake

/-- No lexeme looks further ahead than two characters. -/
theorem scan_looksAhead (c : Char) (text : List Char) : LooksAhead 2 (scan c) [c] text := by
  by_cases hdouble : c = '"'
  · subst hdouble
    rw [show scan '"' = _ from funext scan_doubleQuote]
    exact (((Quotation.interpreted_looksAhead text).map interpreted).behind ['"']).mono (by decide)
  by_cases hback : c = '`'
  · subst hback
    rw [show scan '`' = _ from funext scan_backtick]
    exact (((Quotation.raw_looksAhead text).map raw).behind ['`']).mono (by decide)
  by_cases hsingle : c = '\''
  · subst hsingle
    rw [show scan '\'' = _ from funext scan_singleQuote]
    exact (((Quotation.character_looksAhead text).map character).behind ['\'']).mono (by decide)
  by_cases hdigit : isDigit c = true
  · exact scan_looksAhead_of_isDigit hdigit text
  by_cases hstart : isIdentifierStart c = true
  · rw [show scan c = _ from funext (scan_of_isIdentifierStart hstart)]
    exact scanWord_looksAhead hstart text
  · have hsymbol : scan c = scanSymbol c := by
      funext text
      rw [scan, if_neg hdouble, if_neg hback, if_neg hsingle, if_neg hdigit, if_neg hstart]
    rw [hsymbol]
    exact scanSymbol_looksAhead c text

end Lexeme

end Lexis
