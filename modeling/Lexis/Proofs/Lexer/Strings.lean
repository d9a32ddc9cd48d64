import Lexis.Proofs.Lexeme.Quotation
import Lexis.Proofs.Lexer.Stream
import Lexis.Proofs.Trivia

/-!
# String literals in a source

What a lexer hands out where it stands before a double quote or a backtick.  A string
token is handed out just if the text from there is written as a string, its value is
what the writing means, and the lexer goes on right behind the closing quote.

* `Cursor.step_of_scan` places the scan of a lexeme in a source.
* `Cursor.step_interpreted_iff` and `Cursor.step_raw_iff` say when a string is handed
  out, `Cursor.step_interpreted_error_iff` and `Cursor.step_raw_error_iff` when and why
  none is.
* `Lexer.string_literals` puts these together with the round trip of a whole source.
-/

namespace Lexis

/-! ## Strings as lexemes -/

namespace Quotation

/-- Pieces between double quotes. -/
def quoted (pieces : List Piece) : List Char :=
  '"' :: (spelling pieces ++ ['"'])

/-- A text between backticks. -/
def backticked (text : List Char) : List Char :=
  '`' :: (text ++ ['`'])

end Quotation

open Quotation

namespace Lexeme

theorem scan_doubleQuote (text : List Char) :
    scan '"' text = ((Quotation.interpreted text).map interpreted).behind ['"'] := by
  rw [scan, if_pos rfl]

theorem scan_backtick (text : List Char) :
    scan '`' text = ((Quotation.raw text).map raw).behind ['`'] := by
  rw [scan, if_neg (by decide), if_pos rfl]

/-- Pieces up to the closing quote are a string. -/
theorem scan_interpreted (pieces : List Piece) (rest : List Char) :
    scan '"' (spelling pieces ++ '"' :: rest) =
      ⟨quoted pieces, rest, .ok (.interpreted (meaning pieces))⟩ := by
  rw [scan_doubleQuote, interpreted_closed]
  rfl

/-- Pieces up to a place where the string stops are the fault of that place. -/
theorem verdict_scan_stopped (pieces : List Piece) {rest : List Char} {fault : Fault}
    (h : Stops rest fault) :
    (scan '"' (spelling pieces ++ rest)).verdict = .error fault := by
  rw [scan_doubleQuote, Scan.behind_verdict, Scan.map_verdict_eq_error]
  exact interpreted_stopped pieces h

/-- The text up to the next backtick is a string. -/
theorem scan_raw {value : List Char} (h : '`' ∉ value) (rest : List Char) :
    scan '`' (value ++ '`' :: rest) = ⟨backticked value, rest, .ok (.raw value)⟩ := by
  rw [scan_backtick, raw_closed h]
  rfl

/-- A backtick that is the last takes the whole text. -/
theorem scan_raw_unclosed {text : List Char} (h : '`' ∉ text) :
    scan '`' text = ⟨'`' :: text, [], .error .unterminatedRawString⟩ := by
  rw [scan_backtick, raw_unclosed h]
  rfl

/-- What the verdict on a lexeme is handed out as. -/
def outcome (verdict : Except Fault Lexeme) (span : Span) : Outcome :=
  match verdict with
  | .ok lexeme => .ok (lexeme.toToken span)
  | .error fault => .error ⟨fault, span⟩

theorem outcome_eq_ok {verdict : Except Fault Lexeme} {span : Span} {token : Token}
    (h : outcome verdict span = .ok token) :
    ∃ lexeme, verdict = .ok lexeme ∧ token = lexeme.toToken span := by
  cases verdict with
  | ok lexeme => exact ⟨lexeme, rfl, (Except.ok.inj h).symm⟩
  | error fault => cases h

theorem outcome_eq_error {verdict : Except Fault Lexeme} {span : Span} {error : LexicalError}
    (h : outcome verdict span = .error error) :
    verdict = .error error.fault ∧ error.span = span := by
  cases verdict with
  | ok lexeme => cases h
  | error fault =>
      obtain rfl := Except.error.inj h
      exact ⟨rfl, rfl⟩

end Lexeme

/-! ## Strings at a cursor -/

namespace Cursor

/-- The span that `written` covers at the cursor. -/
def spanOver (cursor : Cursor) (written : List Char) : Span :=
  ⟨cursor.position, cursor.position.after written, cursor.fileId⟩

/-- The cursor behind `written`, with `rest` still unread. -/
def past (cursor : Cursor) (written rest : List Char) : Cursor :=
  { cursor with rest, position := cursor.position.after written }

theorem advanceBy_of_rest {cursor : Cursor} {written rest : List Char}
    (hrest : cursor.rest = written ++ rest) :
    cursor.advanceBy written.length = cursor.past written rest := by
  rw [advanceBy, hrest, List.drop_left, List.take_left]
  rfl

section Step

variable {cursor : Cursor} {text : List Char}

/-- The step over a lexeme that stands right at the cursor. -/
theorem step_of_scan {c : Char} (hrest : cursor.rest = c :: text)
    (hpiece : Trivia.piece? (c :: text) = none) (hopen : ¬ ['/', '*'] <+: c :: text) :
    cursor.step =
      (Lexeme.outcome (Lexeme.scan c text).verdict (cursor.spanOver (Lexeme.scan c text).read),
        cursor.past (Lexeme.scan c text).read (Lexeme.scan c text).rest) := by
  have hreading := Reading.ofText_of_skip (Trivia.skip_of_piece?_eq_none hpiece) hopen
  rw [step_eq, hrest, hreading, Reading.toOutcome]
  cases (Lexeme.scan c text).verdict <;> rfl

theorem step_of_doubleQuote (hrest : cursor.rest = '"' :: text) :
    cursor.step =
      (Lexeme.outcome (Lexeme.scan '"' text).verdict
          (cursor.spanOver (Lexeme.scan '"' text).read),
        cursor.past (Lexeme.scan '"' text).read (Lexeme.scan '"' text).rest) :=
  step_of_scan hrest rfl (by simp)

theorem step_of_backtick (hrest : cursor.rest = '`' :: text) :
    cursor.step =
      (Lexeme.outcome (Lexeme.scan '`' text).verdict
          (cursor.spanOver (Lexeme.scan '`' text).read),
        cursor.past (Lexeme.scan '`' text).read (Lexeme.scan '`' text).rest) :=
  step_of_scan hrest rfl (by simp)

/-- A string between double quotes is handed out just for pieces up to a closing quote. -/
theorem step_interpreted_iff (hrest : cursor.rest = '"' :: text) (token : Token)
    (last : Cursor) :
    cursor.step = (.ok token, last) ↔
      ∃ pieces rest, text = spelling pieces ++ '"' :: rest ∧
        token = ⟨.string, String.ofList (meaning pieces), .interpreted,
          cursor.spanOver (quoted pieces)⟩ ∧
        last = cursor.past (quoted pieces) rest := by
  rw [step_of_doubleQuote hrest]
  constructor
  · intro h
    rcases isDecided text with ⟨pieces, rest, rfl⟩ | ⟨pieces, rest, fault, rfl, hstops⟩
    · rw [Lexeme.scan_interpreted] at h
      obtain ⟨htoken, hlast⟩ := Prod.mk.inj h
      exact ⟨pieces, rest, rfl, (Except.ok.inj htoken).symm, hlast.symm⟩
    · rw [Lexeme.verdict_scan_stopped pieces hstops] at h
      cases (Prod.mk.inj h).1
  · rintro ⟨pieces, rest, rfl, rfl, rfl⟩
    rw [Lexeme.scan_interpreted]
    rfl

/-- The fault of a string between double quotes is that of the place where it stops. -/
theorem step_interpreted_error_iff (hrest : cursor.rest = '"' :: text) (fault : Fault) :
    (∃ span, cursor.step.1 = .error ⟨fault, span⟩) ↔
      ∃ pieces rest, text = spelling pieces ++ rest ∧ Stops rest fault := by
  rw [step_of_doubleQuote hrest]
  constructor
  · rintro ⟨span, h⟩
    rcases isDecided text with ⟨pieces, rest, rfl⟩ | ⟨pieces, rest, fault', rfl, hstops⟩
    · rw [Lexeme.scan_interpreted] at h
      cases h
    · rw [Lexeme.verdict_scan_stopped pieces hstops] at h
      obtain rfl : fault' = fault := congrArg LexicalError.fault (Except.error.inj h)
      exact ⟨pieces, rest, rfl, hstops⟩
  · rintro ⟨pieces, rest, rfl, hstops⟩
    rw [Lexeme.verdict_scan_stopped pieces hstops]
    exact ⟨_, rfl⟩

/-- A string between backticks is handed out just for the text up to the next one. -/
theorem step_raw_iff (hrest : cursor.rest = '`' :: text) (token : Token) (last : Cursor) :
    cursor.step = (.ok token, last) ↔
      ∃ value rest, '`' ∉ value ∧ text = value ++ '`' :: rest ∧
        token = ⟨.string, String.ofList value, .raw, cursor.spanOver (backticked value)⟩ ∧
        last = cursor.past (backticked value) rest := by
  rw [step_of_backtick hrest]
  constructor
  · intro h
    by_cases hmem : '`' ∈ text
    · obtain ⟨value, rest, rfl, hvalue⟩ := List.eq_append_cons_of_mem hmem
      rw [Lexeme.scan_raw hvalue] at h
      obtain ⟨htoken, hlast⟩ := Prod.mk.inj h
      exact ⟨value, rest, hvalue, rfl, (Except.ok.inj htoken).symm, hlast.symm⟩
    · rw [Lexeme.scan_raw_unclosed hmem] at h
      cases (Prod.mk.inj h).1
  · rintro ⟨value, rest, hvalue, rfl, rfl, rfl⟩
    rw [Lexeme.scan_raw hvalue]
    rfl

/-- Without a second backtick, everything to the end of the source is the fault. -/
theorem step_raw_error_iff (hrest : cursor.rest = '`' :: text) (error : LexicalError)
    (last : Cursor) :
    cursor.step = (.error error, last) ↔
      '`' ∉ text ∧ error = ⟨.unterminatedRawString, cursor.spanOver ('`' :: text)⟩ ∧
        last = cursor.past ('`' :: text) [] := by
  rw [step_of_backtick hrest]
  constructor
  · intro h
    by_cases hmem : '`' ∈ text
    · obtain ⟨value, rest, rfl, hvalue⟩ := List.eq_append_cons_of_mem hmem
      rw [Lexeme.scan_raw hvalue] at h
      cases (Prod.mk.inj h).1
    · rw [Lexeme.scan_raw_unclosed hmem] at h
      obtain ⟨herror, hlast⟩ := Prod.mk.inj h
      exact ⟨hmem, (Except.error.inj herror).symm, hlast.symm⟩
  · rintro ⟨hmem, rfl, rfl⟩
    rw [Lexeme.scan_raw_unclosed hmem]
    rfl

end Step

end Cursor

/-! ## Sources that are one string -/

/-- A source that is one lexeme gives its token, and then the end of the source. -/
theorem outcomesFrom_of_scan {c : Char} {text : List Char} {lexeme : Lexeme}
    (hpiece : Trivia.piece? (c :: text) = none) (hopen : ¬ ['/', '*'] <+: c :: text)
    (hscan : Lexeme.scan c text = ⟨c :: text, [], .ok lexeme⟩) (fileId : Nat)
    (start : Position) :
    outcomesFrom fileId start (c :: text) =
      [.ok (lexeme.toToken ⟨start, start.after (c :: text), fileId⟩),
        .ok (.endOfInput (.point (start.after (c :: text)) fileId))] := by
  have hreading := Reading.ofText_of_skip (Trivia.skip_of_piece?_eq_none hpiece) hopen
  rw [hscan] at hreading
  rw [outcomesFrom_of_ne_none (by simp [hreading]), hreading,
    outcomesFrom_of_eq_none (by simp)]
  rfl

namespace Lexer

/-- Pieces between double quotes are a source of one string, which is what the pieces
stand for. -/
theorem outcomes_quoted (pieces : List Piece) (fileId : Nat) :
    (ofSource (String.ofList (quoted pieces)) fileId).outcomes =
      [.ok ⟨.string, String.ofList (meaning pieces), .interpreted,
          ⟨.start, Position.start.after (quoted pieces), fileId⟩⟩,
        .ok (.endOfInput (.point (Position.start.after (quoted pieces)) fileId))] := by
  have hscan := Lexeme.scan_interpreted pieces []
  rw [outcomes_ofSource, String.toList_ofList]
  exact outcomesFrom_of_scan rfl (by simp) hscan fileId .start

/-- A text between backticks is a source of one string, which is the text. -/
theorem outcomes_backticked {value : List Char} (h : '`' ∉ value) (fileId : Nat) :
    (ofSource (String.ofList (backticked value)) fileId).outcomes =
      [.ok ⟨.string, String.ofList value, .raw,
          ⟨.start, Position.start.after (backticked value), fileId⟩⟩,
        .ok (.endOfInput (.point (Position.start.after (backticked value)) fileId))] := by
  have hscan := Lexeme.scan_raw h []
  rw [outcomes_ofSource, String.toList_ofList]
  exact outcomesFrom_of_scan rfl (by simp) hscan fileId .start

/-- The language of string literals, at every place of every source: which texts are handed
out as a string, with which value and how far, and for which fault others are refused.
So what is written and read again comes back, however it was written. -/
theorem string_literals :
    (∀ (cursor : Cursor) (text : List Char), cursor.rest = '"' :: text →
      (∀ token last, cursor.step = (.ok token, last) ↔
        ∃ pieces rest, text = spelling pieces ++ '"' :: rest ∧
          token = ⟨.string, String.ofList (meaning pieces), .interpreted,
            cursor.spanOver (quoted pieces)⟩ ∧
          last = cursor.past (quoted pieces) rest) ∧
      ∀ fault, (∃ span, cursor.step.1 = .error ⟨fault, span⟩) ↔
        ∃ pieces rest, text = spelling pieces ++ rest ∧ Stops rest fault) ∧
    (∀ value, ∃ pieces, meaning pieces = value) ∧
    (∀ pieces fileId, (ofSource (String.ofList (quoted pieces)) fileId).outcomes =
      [.ok ⟨.string, String.ofList (meaning pieces), .interpreted,
          ⟨.start, Position.start.after (quoted pieces), fileId⟩⟩,
        .ok (.endOfInput (.point (Position.start.after (quoted pieces)) fileId))]) ∧
    (∀ (cursor : Cursor) (text : List Char), cursor.rest = '`' :: text →
      (∀ token last, cursor.step = (.ok token, last) ↔
        ∃ value rest, '`' ∉ value ∧ text = value ++ '`' :: rest ∧
          token = ⟨.string, String.ofList value, .raw, cursor.spanOver (backticked value)⟩ ∧
          last = cursor.past (backticked value) rest) ∧
      ∀ error last, cursor.step = (.error error, last) ↔
        '`' ∉ text ∧ error = ⟨.unterminatedRawString, cursor.spanOver ('`' :: text)⟩ ∧
          last = cursor.past ('`' :: text) []) ∧
    ∀ value fileId, '`' ∉ value →
      (ofSource (String.ofList (backticked value)) fileId).outcomes =
        [.ok ⟨.string, String.ofList value, .raw,
            ⟨.start, Position.start.after (backticked value), fileId⟩⟩,
          .ok (.endOfInput (.point (Position.start.after (backticked value)) fileId))] := by
  refine ⟨?_, exists_meaning, outcomes_quoted, ?_, ?_⟩
  · intro cursor text hrest
    exact ⟨Cursor.step_interpreted_iff hrest, Cursor.step_interpreted_error_iff hrest⟩
  · intro cursor text hrest
    exact ⟨Cursor.step_raw_iff hrest, Cursor.step_raw_error_iff hrest⟩
  · intro value fileId h
    exact outcomes_backticked h fileId

/-- A code point in four digits, one in eight and a byte in octal are the characters that they
number, and a surrogate is none. -/
theorem string_literals_escapes :
    (ofSource "\"\\u00e9\\U0001F600\\101\"" 0).outcomes =
      [.ok ⟨.string, "é😀A", .interpreted, ⟨⟨1, 1, 0⟩, ⟨1, 23, 22⟩, 0⟩⟩,
        .ok (.endOfInput (.point ⟨1, 23, 22⟩ 0))] ∧
      ∃ span, (Cursor.ofSource "\"\\ud800\"" 0).step.1 = .error ⟨.unicodeEscape, span⟩ := by
  obtain ⟨hinterpreted, -, hwhole, -⟩ := string_literals
  have hshort : Escape.Writes 16 4 "00e9".toList 'é' := ⟨rfl, [0, 0, 14, 9], by decide, rfl⟩
  have hlong : Escape.Writes 16 8 "0001F600".toList '😀' :=
    ⟨rfl, [0, 0, 0, 1, 15, 6, 0, 0], by decide, rfl⟩
  have hoctal : Escape.Writes 8 3 "101".toList 'A' := ⟨rfl, [1, 0, 1], by decide, rfl⟩
  let pieces : List Piece :=
    [⟨_, _, .escape (.short hshort)⟩, ⟨_, _, .escape (.long hlong)⟩,
      ⟨_, _, .escape (.octal hoctal (by decide))⟩]
  refine ⟨hwhole pieces 0, ?_⟩
  have hrefused : (Escape.scan ('u' :: "d800\"".toList)).verdict = .error .unicodeEscape := rfl
  have hstops : Stops ('\\' :: 'u' :: "d800\"".toList) .unicodeEscape :=
    .escape (by decide) (Escape.scan_error_iff.1 hrefused).2
  exact ((hinterpreted (.ofSource "\"\\ud800\"" 0) _ rfl).2 _).2 ⟨[], _, rfl, hstops⟩

end Lexer

end Lexis
