import Lexis.Character.Identifier
import Lexis.Decimal.Notation
import Lexis.Lexeme.Basic

/-!
# Numerals

The numerals of the language are decimal integers with no redundant zero in front, hexadecimal
integers behind `0x` or `0X`, and floats with digits on both sides of a point.

Whatever else begins with a digit is taken as one faulty numeral, so that it is reported once: the
identifier characters and points that follow belong to it.  So does the sign of an exponent, which
the language knows of and does not accept.
-/

namespace Lexis

/-- Whether `text` begins with a character that satisfies `p`. -/
def beginsWith (p : Char → Bool) (text : List Char) : Bool :=
  text.head?.any p

namespace Numeral

/-- Whether `c` cannot follow a float or a hexadecimal integer, and is taken along by a faulty
numeral. -/
def isTail (c : Char) : Bool :=
  isIdentifierPart c || c == '.'

/-- The faulty numeral that begins with `read`. -/
def reject (fault : Fault) (read rest : List Char) : Scan Lexeme :=
  ⟨read ++ rest.takeWhile isTail, rest.dropWhile isTail, .error fault⟩

/-- Whether `c` marks an exponent. -/
def isExponentMark (c : Char) : Bool :=
  c == 'e' || c == 'E'

/-- Whether `c` is a sign. -/
def isSign (c : Char) : Bool :=
  c == '+' || c == '-'

/-- The mark and the sign of an exponent at the head of `text`, and the text behind them.  There is
an exponent only if a digit follows. -/
def exponent? : List Char → Option (List Char × List Char)
  | mark :: text =>
      if isExponentMark mark then
        match text with
        | sign :: behind =>
            if isSign sign then
              if beginsWith isDigit behind then some ([mark, sign], behind) else none
            else if isDigit sign then some ([mark], text)
            else none
        | [] => none
      else none
  | [] => none

/-- Whether `digits` has a zero in front that says nothing. -/
def hasLeadingZero : List Char → Bool
  | '0' :: _ :: _ => true
  | _ => false

/-- Whether `digits` would be an octal integer where a zero in front marks one. -/
def isLegacyOctal : List Char → Bool
  | '0' :: first :: digits => isOctalDigit first && first != '0' && digits.all isOctalDigit
  | _ => false

/-- The hexadecimal integer whose mark `read` has been taken. -/
def hexadecimal (read rest : List Char) : Scan Lexeme :=
  let digits := rest.takeWhile isHexDigit
  let behind := rest.dropWhile isHexDigit
  if digits = [] ∨ beginsWith isTail behind then reject .hexLiteral (read ++ digits) behind
  else ⟨read ++ digits, behind, .ok (.hex (read ++ digits))⟩

/-- The float with the given digits on both sides of its point, if it is in range. -/
def inRange (whole fraction : List Char) : Except Fault Lexeme :=
  (canonicalFloat? whole fraction).elim (.error .floatOutOfRange) fun text => .ok (.float text)

/-- The float that is written as `text`, if it can be parsed. -/
def floatVerdict (text : List Char) : Except Fault Lexeme :=
  match parseDecimal? text with
  | some parts => inRange parts.1 parts.2
  | none => .error .malformedFloat

/-- The float with the digits `whole` in front of a point, at the text behind the point. -/
def float (whole rest : List Char) : Scan Lexeme :=
  let fraction := rest.takeWhile isDigit
  let behind := rest.dropWhile isDigit
  let read := whole ++ '.' :: fraction
  match exponent? behind with
  | some (mark, behind) =>
      reject (if fraction = [] then .malformedFloat else .unsupportedForm .exponent)
        (read ++ mark) behind
  | none =>
      if fraction = [] ∨ beginsWith isTail behind then reject .malformedFloat read behind
      else ⟨read, behind, floatVerdict read⟩

/-- The integer with the given digits and without a mark. -/
def integer (digits rest : List Char) : Scan Lexeme :=
  match exponent? rest with
  | some (mark, behind) => reject (.unsupportedForm .exponent) (digits ++ mark) behind
  | none =>
      if beginsWith isIdentifierPart rest then reject .numericSuffix digits rest
      else ⟨digits, rest, .ok (.decimal digits)⟩

/-- The numeral with the digits `digits` in front of anything but the mark of a base. -/
def unmarked (digits rest : List Char) : Scan Lexeme :=
  match rest with
  | '.' :: rest => float digits rest
  | _ =>
      if hasLeadingZero digits then
        let fault := if isLegacyOctal digits then .unsupportedForm .legacyOctal else .leadingZero
        reject fault digits rest
      else integer digits rest

/-- The numeral with the digits `digits` in front of anything else, which may be the mark of a base
if the digits are a single zero. -/
def ofDigits : List Char → List Char → Scan Lexeme
  | ['0'], mark :: rest =>
      if mark = 'x' ∨ mark = 'X' then hexadecimal ['0', mark] rest
      else if mark = 'b' ∨ mark = 'B' then reject (.unsupportedForm .binary) ['0'] (mark :: rest)
      else if mark = 'o' ∨ mark = 'O' then
        reject (.unsupportedForm .octalPrefix) ['0'] (mark :: rest)
      else unmarked ['0'] (mark :: rest)
  | digits, rest => unmarked digits rest

/-- Reads the numeral at the head of `text`, which begins with a digit. -/
def scan (text : List Char) : Scan Lexeme :=
  ofDigits (text.takeWhile isDigit) (text.dropWhile isDigit)

/-! ## Numerals take characters from the head of the text -/

theorem reject_splits (fault : Fault) (read rest : List Char) :
    (reject fault read rest).Splits (read ++ rest) := by
  simp [Scan.Splits, reject]

theorem exponent?_append {text mark behind : List Char} (h : exponent? text = some (mark, behind)) :
    mark ++ behind = text := by
  unfold exponent? at h
  repeat' split at h
  all_goals simp at h
  all_goals obtain ⟨rfl, rfl⟩ := h
  all_goals rfl

theorem hexadecimal_splits (read rest : List Char) :
    (hexadecimal read rest).Splits (read ++ rest) := by
  have hrest := List.takeWhile_append_dropWhile (p := isHexDigit) (l := rest)
  unfold hexadecimal
  simp only
  split
  · have := reject_splits .hexLiteral (read ++ rest.takeWhile isHexDigit)
      (rest.dropWhile isHexDigit)
    simpa [hrest] using this
  · simp [Scan.Splits, hrest]

theorem float_splits (whole rest : List Char) :
    (float whole rest).Splits (whole ++ '.' :: rest) := by
  have hrest := List.takeWhile_append_dropWhile (p := isDigit) (l := rest)
  unfold float
  simp only
  split
  · next mark behind hexponent =>
      have hbehind := exponent?_append hexponent
      have := reject_splits
        (if rest.takeWhile isDigit = [] then .malformedFloat else .unsupportedForm .exponent)
        (whole ++ '.' :: rest.takeWhile isDigit ++ mark) behind
      simpa [hbehind, hrest] using this
  · split
    · have := reject_splits .malformedFloat (whole ++ '.' :: rest.takeWhile isDigit)
        (rest.dropWhile isDigit)
      simpa [hrest] using this
    · simp [Scan.Splits, hrest]

theorem integer_splits (digits rest : List Char) :
    (integer digits rest).Splits (digits ++ rest) := by
  unfold integer
  split
  · next mark behind hexponent =>
      have hbehind := exponent?_append hexponent
      have := reject_splits (.unsupportedForm .exponent) (digits ++ mark) behind
      simpa [hbehind] using this
  · split
    · exact reject_splits ..
    · rfl

theorem unmarked_splits (digits rest : List Char) :
    (unmarked digits rest).Splits (digits ++ rest) := by
  unfold unmarked
  split
  · exact float_splits ..
  · split
    · exact reject_splits ..
    · exact integer_splits ..

theorem ofDigits_splits (digits rest : List Char) :
    (ofDigits digits rest).Splits (digits ++ rest) := by
  unfold ofDigits
  split
  · next mark rest =>
      repeat' split
      · exact hexadecimal_splits ['0', mark] rest
      · exact reject_splits ..
      · exact reject_splits ..
      · exact unmarked_splits ..
  · exact unmarked_splits ..

/-- A numeral takes characters from the head of the text. -/
theorem scan_splits (text : List Char) : (scan text).Splits text := by
  have htext := List.takeWhile_append_dropWhile (p := isDigit) (l := text)
  have := ofDigits_splits (text.takeWhile isDigit) (text.dropWhile isDigit)
  rwa [htext] at this

theorem reject_read_ne_nil (fault : Fault) {read : List Char} (h : read ≠ []) (rest : List Char) :
    (reject fault read rest).read ≠ [] := by
  simp [reject, h]

theorem float_read_ne_nil (whole rest : List Char) : (float whole rest).read ≠ [] := by
  unfold float
  simp only
  repeat' split
  all_goals simp [reject]

theorem integer_read_ne_nil {digits : List Char} (h : digits ≠ []) (rest : List Char) :
    (integer digits rest).read ≠ [] := by
  unfold integer
  repeat' split
  all_goals simp [reject, h]

theorem unmarked_read_ne_nil {digits : List Char} (h : digits ≠ []) (rest : List Char) :
    (unmarked digits rest).read ≠ [] := by
  unfold unmarked
  split
  · exact float_read_ne_nil _ _
  · split
    · exact reject_read_ne_nil _ h _
    · exact integer_read_ne_nil h _

theorem ofDigits_read_ne_nil {digits : List Char} (h : digits ≠ []) (rest : List Char) :
    (ofDigits digits rest).read ≠ [] := by
  unfold ofDigits
  split
  · repeat' split
    · simp only [hexadecimal]
      split <;> simp [reject]
    · exact reject_read_ne_nil _ h _
    · exact reject_read_ne_nil _ h _
    · exact unmarked_read_ne_nil h _
  · exact unmarked_read_ne_nil h _

/-- A numeral, faulty or not, takes at least its first digit. -/
theorem scan_read_ne_nil {c : Char} (h : isDigit c = true) (text : List Char) :
    (scan (c :: text)).read ≠ [] :=
  ofDigits_read_ne_nil (by simp [h]) _

end Numeral

end Lexis
