import Lexis.Proofs.Decimal.Canonical
import Lexis.Proofs.Lexer.Numerals
import Lexis.Proofs.Lexer.Occurrence

/-!
# Floats in a source

What a lexer hands out where it stands before digits, a point and digits, and nothing behind goes on
with them.  The value of the digits decides, and not how they are written.

* `Cursor.AtFloat` is such a place, and `Cursor.AtFloat.step` the step from there.
* `Lexer.float_range` says for which values a float is handed out, and for which it is out of range.
* `Lexer.float_canonical` says what its text is, and which other floats have the same.
-/

namespace Lexis

open Binary64 Numeral

namespace Cursor

/-- The cursor stands before a float, of which `whole` and `fraction` are all the digits. -/
structure AtFloat (cursor : Cursor) (whole fraction rest : List Char) : Prop where
  isDigits_whole : IsDigits whole
  isDigits_fraction : IsDigits fraction
  rest_eq : cursor.rest = whole ++ '.' :: (fraction ++ rest)
  ends : beginsWith isTail rest = false

/-- A source of a float alone. -/
theorem atFloat_ofList {whole fraction : List Char} (hwhole : IsDigits whole)
    (hfraction : IsDigits fraction) (fileId : Nat) :
    (ofSource (String.ofList (whole ++ '.' :: fraction)) fileId).AtFloat whole fraction [] where
  isDigits_whole := hwhole
  isDigits_fraction := hfraction
  rest_eq := by
    rw [List.append_nil]
    exact String.toList_ofList
  ends := rfl

namespace AtFloat

variable {cursor : Cursor} {whole fraction rest : List Char}

/-- The step over a float. -/
theorem step (h : cursor.AtFloat whole fraction rest) :
    cursor.step =
      (match canonicalFloat? whole fraction with
        | some text =>
            .ok ⟨.float, String.ofList text, .none, cursor.spanOver (whole ++ '.' :: fraction)⟩
        | none => .error ⟨.floatOutOfRange, cursor.spanOver (whole ++ '.' :: fraction)⟩,
        cursor.past (whole ++ '.' :: fraction) rest) := by
  obtain ⟨c, text, hwhole⟩ := List.exists_cons_of_ne_nil h.isDigits_whole.ne_nil
  have hc : isDigit c = true := h.isDigits_whole.isDigit c (by simp [hwhole])
  have hpoint : (('.' :: (fraction ++ rest)).head?.any isDigit) = false := rfl
  have hscan : scan cursor.rest = float whole (fraction ++ rest) := by
    rw [h.rest_eq, scan, takeWhile_of_ends h.isDigits_whole.isDigit hpoint,
      dropWhile_of_ends h.isDigits_whole.isDigit hpoint, ofDigits_point]
  have hrest : cursor.rest = c :: (text ++ '.' :: (fraction ++ rest)) := by
    rw [h.rest_eq, hwhole, List.cons_append]
  rw [step_of_isDigit hrest hc, ← hrest, hscan,
    float_append h.isDigits_whole.isDigit h.isDigits_fraction h.ends]
  cases htext : canonicalFloat? whole fraction with
  | none =>
      rw [inRange_eq_error_iff.2 ⟨htext, rfl⟩]
      rfl
  | some text =>
      rw [inRange_eq_ok_iff.2 ⟨text, htext, rfl⟩]
      rfl

/-- A float is handed out just if there is a text for it. -/
theorem step_eq_ok_iff (h : cursor.AtFloat whole fraction rest) (token : Token) :
    cursor.step.1 = .ok token ↔ ∃ text, canonicalFloat? whole fraction = some text ∧
      token = ⟨.float, String.ofList text, .none,
        cursor.spanOver (whole ++ '.' :: fraction)⟩ := by
  rw [h.step]
  cases canonicalFloat? whole fraction with
  | none => simp
  | some text => simp [eq_comm]

/-- No float is handed out just if there is no text for it, and then it is out of range. -/
theorem step_eq_error_iff (h : cursor.AtFloat whole fraction rest) (error : LexicalError) :
    cursor.step.1 = .error error ↔ canonicalFloat? whole fraction = none ∧
      error = ⟨.floatOutOfRange, cursor.spanOver (whole ++ '.' :: fraction)⟩ := by
  rw [h.step]
  cases canonicalFloat? whole fraction with
  | none => simp [eq_comm]
  | some text => simp

end AtFloat

end Cursor

/-- Digits with a canonical text are a float with that text. -/
theorem Numeral.denotes_float {whole fraction text : List Char} (hwhole : IsDigits whole)
    (hfraction : IsDigits fraction) (htext : canonicalFloat? whole fraction = some text) :
    Denotes (whole ++ '.' :: fraction) (.float text) := by
  refine .float hwhole.ne_nil ?_ hfraction.ne_nil htext
  intro c hc
  rcases List.mem_append.1 hc with hc | hc
  · exact hwhole.isDigit c hc
  · exact hfraction.isDigit c hc

namespace Lexer

/-- Wherever digits, a point and digits stand, they are a float or out of range, and their exact
value says which: rounded to nearest, the tie to even included, it has to stay below the limit. -/
theorem float_range (cursor : Cursor) (whole fraction rest : List Char)
    (h : cursor.AtFloat whole fraction rest) :
    ((∃ span, cursor.step.1 = .error ⟨.floatOutOfRange, span⟩) ↔
      2 ^ 1024 - 2 ^ 970 ≤ decimalValue whole fraction) ∧
    ((∃ token, cursor.step.1 = .ok token ∧ token.kind = .float) ↔
      decimalValue whole fraction < 2 ^ 1024 - 2 ^ 970) ∧
    ∀ span, cursor.step.1 ≠ .error ⟨.malformedFloat, span⟩ := by
  refine ⟨?_, ?_, ?_⟩
  · rw [← canonicalFloat?_eq_none_iff_le]
    simp [h.step_eq_error_iff]
  · rw [← not_le, ← canonicalFloat?_eq_none_iff_le]
    constructor
    · rintro ⟨token, htoken, _⟩ hnone
      obtain ⟨text, htext, _⟩ := (h.step_eq_ok_iff token).1 htoken
      simp [hnone] at htext
    · intro hsome
      obtain ⟨text, htext⟩ := Option.ne_none_iff_exists'.1 hsome
      exact ⟨_, (h.step_eq_ok_iff _).2 ⟨text, htext, rfl⟩, rfl⟩
  · intro span
    simp [h.step_eq_error_iff]

/-- The digits of the whole number halfway between the greatest number and the limit. -/
def halfway : List Char :=
  Nat.toDigits 10 (Nat.pow 2 1024 - Nat.pow 2 970)

theorem decimalValue_halfway : decimalValue halfway ['0'] = 2 ^ 1024 - 2 ^ 970 := by
  obtain ⟨high, hhigh⟩ : ∃ high : Nat, high = 1024 := ⟨1024, rfl⟩
  obtain ⟨low, hlow⟩ : ∃ low : Nat, low = 970 := ⟨970, rfl⟩
  unfold halfway
  rw [← hhigh, ← hlow, decimalValue_toDigits]
  simp only [Nat.pow_eq]
  rw [Nat.cast_sub (Nat.pow_le_pow_right (by decide) (by omega)), Nat.cast_pow, Nat.cast_pow,
    Nat.cast_ofNat]

/-- Halfway between the greatest number and the limit, a float is out of range already. -/
theorem float_range_halfway :
    let cursor := Cursor.ofSource (String.ofList (halfway ++ ['.', '0'])) 1
    cursor.AtFloat halfway ['0'] [] ∧ decimalValue halfway ['0'] = 2 ^ 1024 - 2 ^ 970 ∧
      ∃ span, cursor.step.1 = .error ⟨.floatOutOfRange, span⟩ := by
  intro cursor
  have hfloat : cursor.AtFloat halfway ['0'] [] :=
    Cursor.atFloat_ofList (isDigits_toDigits _) (isDigits_of_all (by decide) (by decide)) 1
  have hrange := float_range cursor halfway ['0'] [] hfloat
  exact ⟨hfloat, decimalValue_halfway, hrange.1.2 decimalValue_halfway.ge⟩

/-- The text of a float is canonical, and it stands for the number that the float rounds to: it is a
float with this text itself, and so are all others that round to the number, and no more. -/
theorem float_canonical (cursor : Cursor) (whole fraction rest : List Char) (token : Token)
    (h : cursor.AtFloat whole fraction rest) (htoken : cursor.step.1 = .ok token) :
    ∃ before behind x,
      token = ⟨.float, String.ofList (before ++ '.' :: behind), .none,
        cursor.spanOver (whole ++ '.' :: fraction)⟩ ∧
      IsCanonical before behind ∧ x.units < limit ∧
      IsNearest (decimalValue whole fraction) x ∧ IsNearest (decimalValue before behind) x ∧
      (∀ fileId, (ofSource token.value fileId).outcomes =
        [.ok ⟨.float, token.value, .none,
            ⟨.start, Position.start.after token.value.toList, fileId⟩⟩,
          .ok (.endOfInput (.point (Position.start.after token.value.toList) fileId))]) ∧
      (∀ (other : Cursor) (front back : Nat) (rest' : List Char),
        other.AtFloat (List.replicate front '0' ++ whole)
          (fraction ++ List.replicate back '0') rest' →
        ∃ token', other.step.1 = .ok token' ∧ token'.kind = .float ∧
          token'.value = token.value) ∧
      ∀ (other : Cursor) (whole' fraction' rest' : List Char) (token' : Token),
        other.AtFloat whole' fraction' rest' → other.step.1 = .ok token' →
        (token'.value = token.value ↔ IsNearest (decimalValue whole' fraction') x) := by
  obtain ⟨text, htext, rfl⟩ := (h.step_eq_ok_iff token).1 htoken
  obtain ⟨x, hnearest, hrange, hpositional⟩ := canonicalFloat?_eq_some_iff.1 htext
  obtain ⟨before, behind, hdigits, hcanonical, hvalue⟩ := exists_canonical hnearest.inFormat
  obtain rfl : text = before ++ '.' :: behind := hpositional.symm.trans hdigits
  have hself : canonicalFloat? before behind = some (before ++ '.' :: behind) :=
    canonicalFloat?_eq_some_iff.2 ⟨x, hvalue, hrange, hdigits⟩
  refine ⟨before, behind, x, rfl, hcanonical, hrange, hnearest, hvalue, ?_, ?_, ?_⟩
  · intro fileId
    have hdenotes : Denotes (before ++ '.' :: behind) (.float (before ++ '.' :: behind)) :=
      denotes_float hcanonical.isDigits_whole hcanonical.isDigits_fraction hself
    have houtcomes := Writing.outcomes ⟨_, _, .numeral hdenotes⟩ fileId
    rw [String.toList_ofList]
    exact houtcomes
  · intro other front back rest' hother
    have hsame : decimalValue (List.replicate front '0' ++ whole)
        (fraction ++ List.replicate back '0') = decimalValue whole fraction := by
      rw [decimalValue_zeros_append, decimalValue_append_zeros]
    exact ⟨_, (hother.step_eq_ok_iff _).2 ⟨_, (canonicalFloat?_congr hsame).trans htext, rfl⟩, rfl,
      rfl⟩
  · intro other whole' fraction' rest' token' hother htoken'
    obtain ⟨text', htext', rfl⟩ := (hother.step_eq_ok_iff token').1 htoken'
    rw [String.ofList_inj, ← hdigits]
    exact canonicalFloat?_eq_positional_iff hnearest.inFormat htext'

/-- Zeros that say nothing are left out. -/
theorem float_canonical_zeros :
    let cursor := Cursor.ofSource "007.250;" 1
    let token : Token := ⟨.float, "7.25", .none, cursor.spanOver "007.250".toList⟩
    cursor.AtFloat "007".toList "250".toList [';'] ∧ cursor.step.1 = .ok token ∧
      ∃ before behind x, "7.25" = String.ofList (before ++ '.' :: behind) ∧
        IsCanonical before behind ∧ x.units < limit ∧
        IsNearest (decimalValue "007".toList "250".toList) x ∧
        IsNearest (decimalValue before behind) x := by
  intro cursor token
  have hfloat : cursor.AtFloat "007".toList "250".toList [';'] :=
    ⟨isDigits_of_all (by decide) (by decide), isDigits_of_all (by decide) (by decide), rfl,
      by decide +kernel⟩
  have htext : canonicalFloat? "007".toList "250".toList = some "7.25".toList := by
    decide +kernel
  have htoken : cursor.step.1 = .ok token :=
    (hfloat.step_eq_ok_iff token).2 ⟨"7.25".toList, htext, rfl⟩
  obtain ⟨before, behind, x, hvalue, hcanonical, hrange, hnearest, hsame, _⟩ :=
    float_canonical cursor _ _ _ token hfloat htoken
  exact ⟨hfloat, htoken, before, behind, x, congrArg Token.value hvalue, hcanonical, hrange,
    hnearest, hsame⟩

end Lexer

end Lexis
