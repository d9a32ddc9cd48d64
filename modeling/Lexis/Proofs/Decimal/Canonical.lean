import Lexis.Proofs.Decimal.Shortest
import Lexis.Proofs.Decimal.Value
import Lexis.Proofs.Text.Runs

/-!
# The canonical text of a float

The text of a float depends on nothing but the binary64 number that its digits round to, and it is a
float of that number itself.

* `canonicalFloat?_eq_some_iff` and `canonicalFloat?_eq_none_iff_le` say which text there is, and
  from which value on there is none.
* `exists_canonical` says what the text is: canonical digits whose value rounds to the same number.
* `positional_inj` says that no other number has this text, and `canonicalFloat?_eq_positional_iff`
  what that means for the digits.
-/

namespace Lexis

open Binary64

section Canonical

variable {whole fraction text : List Char}

theorem decimalValue_eq (whole fraction : List Char) :
    decimalValue whole fraction =
      (numeralValue 10 (whole ++ fraction) : ℚ) / (Nat.pow 10 fraction.length : Nat) := by
  rw [decimalValue, Nat.pow_eq, Nat.cast_pow, Nat.cast_ofNat]

/-- The text is the shortest decimal of the number that the digits round to. -/
theorem canonicalFloat?_eq_some_iff :
    canonicalFloat? whole fraction = some text ↔
      ∃ x, IsNearest (decimalValue whole fraction) x ∧ x.units < limit ∧
        positional (shortestDecimal x) = text := by
  have hden : 0 < Nat.pow 10 fraction.length := Nat.pow_pos (by decide)
  simp only [canonicalFloat?, Option.map_eq_some_iff, ofFraction?_eq_some_iff hden,
    ← decimalValue_eq, and_assoc]

/-- There is no text just if the digits write at least what rounds to the limit. -/
theorem canonicalFloat?_eq_none_iff_le :
    canonicalFloat? whole fraction = none ↔ 2 ^ 1024 - 2 ^ 970 ≤ decimalValue whole fraction := by
  have hden : 0 < Nat.pow 10 fraction.length := Nat.pow_pos (by decide)
  rw [canonicalFloat?, Option.map_eq_none_iff, ofFraction?_eq_none_iff hden, ← decimalValue_eq]

/-- The text depends on the value of the digits alone. -/
theorem canonicalFloat?_congr {whole' fraction' : List Char}
    (h : decimalValue whole fraction = decimalValue whole' fraction') :
    canonicalFloat? whole fraction = canonicalFloat? whole' fraction' := by
  ext text
  rw [canonicalFloat?_eq_some_iff, canonicalFloat?_eq_some_iff, h]

/-- Digits before a point end there. -/
theorem append_point_inj {whole' fraction' : List Char} (hwhole : IsDigits whole)
    (hwhole' : IsDigits whole') (h : whole ++ '.' :: fraction = whole' ++ '.' :: fraction') :
    whole = whole' ∧ fraction = fraction' := by
  have hrun := congrArg (List.takeWhile isDigit) h
  rw [takeWhile_of_ends hwhole.isDigit rfl, takeWhile_of_ends hwhole'.isDigit rfl] at hrun
  subst hrun
  exact ⟨rfl, List.tail_eq_of_cons_eq (List.append_cancel_left h)⟩

/-- The text of a number is canonical, and its value rounds to the number. -/
theorem exists_canonical {x : Binary64} (hx : x.InFormat) :
    ∃ whole fraction, positional (shortestDecimal x) = whole ++ '.' :: fraction ∧
      IsCanonical whole fraction ∧ IsNearest (decimalValue whole fraction) x := by
  obtain ⟨whole, fraction, htext, hcanonical, hvalue⟩ := exists_positional (shortestDecimal x)
  have hnearest := isNearest_shortestDecimal hx
  rw [← hvalue] at hnearest
  exact ⟨whole, fraction, htext, hcanonical, hnearest⟩

/-- Different numbers have different texts. -/
theorem positional_inj {x y : Binary64} (hx : x.InFormat) (hy : y.InFormat)
    (h : positional (shortestDecimal x) = positional (shortestDecimal y)) : x = y := by
  obtain ⟨whole, fraction, htext, hcanonical, hnearest⟩ := exists_canonical hx
  obtain ⟨whole', fraction', htext', hcanonical', hnearest'⟩ := exists_canonical hy
  rw [htext, htext'] at h
  obtain ⟨rfl, rfl⟩ := append_point_inj hcanonical.isDigits_whole hcanonical'.isDigits_whole h
  exact hnearest.eq hnearest'

/-- The text that digits have is that of a number just if they round to it. -/
theorem canonicalFloat?_eq_positional_iff {x : Binary64} (hx : x.InFormat)
    (htext : canonicalFloat? whole fraction = some text) :
    text = positional (shortestDecimal x) ↔ IsNearest (decimalValue whole fraction) x := by
  obtain ⟨y, hnearest, _, rfl⟩ := canonicalFloat?_eq_some_iff.1 htext
  constructor
  · intro h
    rwa [← positional_inj hnearest.inFormat hx h]
  · intro h
    rw [h.eq hnearest]

end Canonical

end Lexis
