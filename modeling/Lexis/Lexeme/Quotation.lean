import Lexis.Lexeme.Escape

/-!
# Quoted literals

Strings between double quotes, strings between backticks, and single characters between single
quotes.  The scans begin behind the opening quote.

No literal but the raw string goes on over a line break.  A fault inside a literal does not end it:
the scan goes on to the closing quote of the literal, or to the end of the line.
-/

namespace Lexis

namespace Quotation

/-- The rest of a literal that is skipped for a fault inside it. -/
structure Tail where
  /-- The characters skipped, with the closing quote if there is one. -/
  read : List Char
  /-- The characters behind. -/
  rest : List Char
  /-- Whether the closing quote was found. -/
  closed : Bool
deriving DecidableEq

/-- The rest that begins with `before`. -/
def Tail.behind (tail : Tail) (before : List Char) : Tail :=
  { tail with read := before ++ tail.read }

/-- Skips to behind the first `quote` on the line.  A backslash takes the character behind it along,
except for a line break. -/
def skipTail (quote : Char) : List Char → Tail
  | [] => ⟨[], [], false⟩
  | '\n' :: text => ⟨[], '\n' :: text, false⟩
  | '\\' :: '\n' :: text => ⟨['\\'], '\n' :: text, false⟩
  | '\\' :: c :: text => (skipTail quote text).behind ['\\', c]
  | c :: text =>
      if c = quote then ⟨[c], text, true⟩ else (skipTail quote text).behind [c]

/-- The rest of a literal whose escape at `text`, behind a backslash, is faulty.  A backslash right
before a line break or the end of the source leaves the literal unterminated, whatever the escape
would have been. -/
def spoilt (quote : Char) (unterminated fault : Fault) (text : List Char) {α : Type} : Scan α :=
  match text with
  | [] => ⟨['\\'], text, .error unterminated⟩
  | '\n' :: _ => ⟨['\\'], text, .error unterminated⟩
  | _ =>
      let escape := Escape.scan text
      let tail := skipTail quote escape.rest
      ⟨'\\' :: escape.read ++ tail.read, tail.rest, .error fault⟩

/-- The rest of a string between double quotes, its escapes decoded. -/
def interpreted : List Char → Scan (List Char)
  | [] => ⟨[], [], .error .unterminatedString⟩
  | '\n' :: text => ⟨[], '\n' :: text, .error .unterminatedString⟩
  | '"' :: text => ⟨['"'], text, .ok []⟩
  | '\\' :: text =>
      let escape := Escape.scan text
      match escape.verdict with
      | .ok c => ((interpreted escape.rest).map (c :: ·)).behind ('\\' :: escape.read)
      | .error fault => spoilt '"' .unterminatedString fault text
  | c :: text => ((interpreted text).map (c :: ·)).behind [c]
termination_by text => text.length
decreasing_by
  · have := (Escape.scan_splits text).length_rest_le
    simp only [List.length_cons]
    omega
  · simp

/-- The rest of a string between backticks, in which every character stands for itself. -/
def raw : List Char → Scan (List Char)
  | [] => ⟨[], [], .error .unterminatedRawString⟩
  | c :: text =>
      if c = '`' then ⟨[c], text, .ok []⟩
      else ((raw text).map (c :: ·)).behind [c]

/-- What follows the character `value` of a character literal: the closing quote, if all is well. -/
def closeCharacter (value : Char) : List Char → Scan Char
  | '\'' :: text => ⟨['\''], text, .ok value⟩
  | text =>
      let tail := skipTail '\'' text
      ⟨tail.read, tail.rest, .error (if tail.closed then .charTooLong else .unterminatedChar)⟩

/-- The rest of a character literal. -/
def character : List Char → Scan Char
  | [] => ⟨[], [], .error .unterminatedChar⟩
  | '\n' :: text => ⟨[], '\n' :: text, .error .unterminatedChar⟩
  | '\'' :: text => ⟨['\''], text, .error .emptyChar⟩
  | '\\' :: text =>
      let escape := Escape.scan text
      match escape.verdict with
      | .ok c => (closeCharacter c escape.rest).behind ('\\' :: escape.read)
      | .error fault => spoilt '\'' .unterminatedChar fault text
  | c :: text => (closeCharacter c text).behind [c]

/-! ## Literals take characters from the head of the text -/

theorem skipTail_append (quote : Char) (text : List Char) :
    (skipTail quote text).read ++ (skipTail quote text).rest = text := by
  fun_induction skipTail quote text <;> simp_all [Tail.behind]

theorem spoilt_splits (quote : Char) (unterminated fault : Fault) (text : List Char) {α : Type} :
    (spoilt quote unterminated fault text : Scan α).Splits ('\\' :: text) := by
  unfold Scan.Splits spoilt
  split
  · rfl
  · rfl
  · have hescape := Escape.scan_splits text
    have htail := skipTail_append quote (Escape.scan text).rest
    unfold Scan.Splits at hescape
    simp only [List.cons_append, List.append_assoc, htail, hescape]

theorem interpreted_splits (text : List Char) : (interpreted text).Splits text := by
  fun_induction interpreted text with
  | case1 => rfl
  | case2 => rfl
  | case3 => rfl
  | case4 text escape c hverdict ih =>
      have := (ih.map (c :: ·)).behind ('\\' :: escape.read)
      have hescape := Escape.scan_splits text
      unfold Scan.Splits at hescape
      simpa [escape, hescape] using this
  | case5 text escape fault hverdict => exact spoilt_splits ..
  | case6 c text _ _ _ ih => exact (ih.map (c :: ·)).behind [c]

theorem raw_splits (text : List Char) : (raw text).Splits text := by
  induction text with
  | nil => rfl
  | cons c text ih =>
      unfold raw
      split
      · rfl
      · exact (ih.map (c :: ·)).behind [c]

theorem closeCharacter_splits (value : Char) (text : List Char) :
    (closeCharacter value text).Splits text := by
  unfold closeCharacter
  split
  · rfl
  · exact skipTail_append '\'' text

theorem character_splits (text : List Char) : (character text).Splits text := by
  unfold character
  split
  · rfl
  · rfl
  · rfl
  · next text =>
      simp only
      split
      · next c hverdict =>
          have := (closeCharacter_splits c (Escape.scan text).rest).behind
            ('\\' :: (Escape.scan text).read)
          have hescape := Escape.scan_splits text
          unfold Scan.Splits at hescape
          simpa [hescape] using this
      · exact spoilt_splits ..
  · exact (closeCharacter_splits ..).behind _

end Quotation

end Lexis
