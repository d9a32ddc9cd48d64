import Lexis.Proofs.Lexeme.Escape
import Lexis.Proofs.Lexeme.Scan
import Lexis.Reading

/-!
# The language of string literals

A string between double quotes is written piece by piece.  `Quotation.Spells` says
which pieces there are and what each stands for, and a `Quotation.Piece` is a text
that has been seen to be one.  `Quotation.Stops` lists the texts at which no piece
begins and the string is not closed either, each with its fault.

* `interpreted_spelling` reads pieces off the head of a text, one by one.
* `isDecided` says that every text is pieces in front of a closing quote, or pieces in
  front of a place where the string stops.
* `raw_closed` and `raw_unclosed` say the same of strings between backticks.
-/

namespace Lexis

namespace Quotation

/-- The pieces of a string between double quotes, and what they stand for. -/
inductive Spells : List Char → Char → Prop where
  /-- A character stands for itself. -/
  | plain {c : Char} (hquote : c ≠ '"') (hbackslash : c ≠ '\\') (hnewline : c ≠ '\n') :
      Spells [c] c
  /-- A backslash begins an escape. -/
  | escape {body : List Char} {c : Char} (h : Escape.Denotes body c) : Spells ('\\' :: body) c

/-- A piece of a string between double quotes. -/
structure Piece where
  /-- How the piece is written. -/
  text : List Char
  /-- The character that it stands for. -/
  value : Char
  spells : Spells text value

/-- How pieces are written, one behind the other. -/
def spelling (pieces : List Piece) : List Char :=
  pieces.flatMap Piece.text

/-- What pieces stand for. -/
def meaning (pieces : List Piece) : List Char :=
  pieces.map Piece.value

@[simp] theorem spelling_nil : spelling [] = [] := rfl

@[simp] theorem spelling_cons (piece : Piece) (pieces : List Piece) :
    spelling (piece :: pieces) = piece.text ++ spelling pieces := rfl

@[simp] theorem meaning_nil : meaning [] = [] := rfl

@[simp] theorem meaning_cons (piece : Piece) (pieces : List Piece) :
    meaning (piece :: pieces) = piece.value :: meaning pieces := rfl

theorem Spells.newline_not_mem {text : List Char} {c : Char} (h : Spells text c) :
    '\n' ∉ text := by
  cases h with
  | plain hquote hbackslash hnewline => simpa using hnewline.symm
  | escape hdenotes => simpa using hdenotes.newline_not_mem

/-- Pieces are written on one line. -/
theorem newline_not_mem_spelling (pieces : List Piece) : '\n' ∉ spelling pieces := by
  intro hmem
  obtain ⟨piece, _, hpiece⟩ := List.mem_flatMap.1 hmem
  exact piece.spells.newline_not_mem hpiece

/-- Every character can be written. -/
theorem exists_piece (c : Char) : ∃ piece : Piece, piece.value = c := by
  by_cases hletter : ∃ letter, (letter, c) ∈ Escape.letters
  · obtain ⟨letter, hmem⟩ := hletter
    exact ⟨⟨_, c, .escape (.letter hmem)⟩, rfl⟩
  · -- The characters that do not stand for themselves all have a letter.
    have hother : ∀ d, (∃ letter, (letter, d) ∈ Escape.letters) → c ≠ d := by
      rintro d hd rfl
      exact hletter hd
    refine ⟨⟨[c], c, .plain ?_ ?_ ?_⟩, rfl⟩
    · exact hother '"' ⟨'"', by decide⟩
    · exact hother '\\' ⟨'\\', by decide⟩
    · exact hother '\n' ⟨'n', by decide⟩

/-- Every text can be written. -/
theorem exists_meaning (value : List Char) : ∃ pieces, meaning pieces = value := by
  induction value with
  | nil => exact ⟨[], rfl⟩
  | cons c value ih =>
      obtain ⟨piece, hpiece⟩ := exists_piece c
      obtain ⟨pieces, hpieces⟩ := ih
      exact ⟨piece :: pieces, by rw [meaning_cons, hpiece, hpieces]⟩

/-- The places where a string between double quotes can neither go on nor be closed, and
the fault of each. -/
inductive Stops : List Char → Fault → Prop where
  /-- The end of the source. -/
  | atEnd : Stops [] .unterminatedString
  /-- The end of the line. -/
  | atNewline (text : List Char) : Stops ('\n' :: text) .unterminatedString
  /-- A backslash right before the end of the source. -/
  | backslashAtEnd : Stops ['\\'] .unterminatedString
  /-- A backslash right before the end of the line. -/
  | backslashAtNewline (text : List Char) : Stops ('\\' :: '\n' :: text) .unterminatedString
  /-- A backslash before what is no escape. -/
  | escape {c : Char} {text : List Char} (hnewline : c ≠ '\n')
      (h : ∀ body value, Escape.Denotes body value → ¬ body <+: c :: text) :
      Stops ('\\' :: c :: text) (Escape.faultOf c)

/-! ## Strings between double quotes -/

/-- An escape that is out of order spoils the literal to the end of the line. -/
theorem spoilt_cons {quote : Char} (unterminated fault : Fault) {c : Char} (hc : c ≠ '\n')
    (text : List Char) {α : Type} :
    (spoilt quote unterminated fault (c :: text) : Scan α) =
      ⟨'\\' :: (Escape.scan (c :: text)).read ++
          (skipTail quote (Escape.scan (c :: text)).rest).read,
        (skipTail quote (Escape.scan (c :: text)).rest).rest, .error fault⟩ := by
  rw [spoilt]
  · simp
  · simp [hc]

/-- A piece is read off the head of any text. -/
theorem interpreted_piece (piece : Piece) (text : List Char) :
    interpreted (piece.text ++ text) =
      ((interpreted text).map (piece.value :: ·)).behind piece.text := by
  obtain ⟨written, c, hspells⟩ := piece
  cases hspells with
  | plain hquote hbackslash hnewline =>
      rw [List.singleton_append, interpreted]
      · exact hnewline
      · exact hquote
      · exact hbackslash
  | escape hdenotes =>
      rw [List.cons_append, interpreted, Escape.scan_append hdenotes]

/-- Pieces are read off the head of any text. -/
theorem interpreted_spelling (pieces : List Piece) (text : List Char) :
    interpreted (spelling pieces ++ text) =
      ((interpreted text).map (meaning pieces ++ ·)).behind (spelling pieces) := by
  induction pieces with
  | nil => exact (Scan.map_id _).symm
  | cons piece pieces ih =>
      rw [spelling_cons, List.append_assoc, interpreted_piece, ih, Scan.map_behind, Scan.map_map,
        Scan.behind_behind]
      rfl

/-- A closing quote behind pieces ends the string. -/
theorem interpreted_closed (pieces : List Piece) (rest : List Char) :
    interpreted (spelling pieces ++ '"' :: rest) =
      ⟨spelling pieces ++ ['"'], rest, .ok (meaning pieces)⟩ := by
  have hquote : interpreted ('"' :: rest) = ⟨['"'], rest, .ok []⟩ := by rw [interpreted]
  rw [interpreted_spelling, hquote]
  simp [Scan.map, Scan.behind, Except.map]

theorem interpreted_of_stops {text : List Char} {fault : Fault} (h : Stops text fault) :
    (interpreted text).verdict = .error fault := by
  cases h with
  | atEnd => rw [interpreted]
  | atNewline text => rw [interpreted]
  | backslashAtEnd => rw [interpreted]; rfl
  | backslashAtNewline text => rw [interpreted]; rfl
  | escape hnewline hnone =>
      have hscan := Escape.scan_error_iff.2 ⟨rfl, hnone⟩
      rw [interpreted, hscan]
      simp only
      rw [spoilt_cons _ _ hnewline]

/-- A string that cannot go on behind pieces is refused for what stands there. -/
theorem interpreted_stopped (pieces : List Piece) {rest : List Char} {fault : Fault}
    (h : Stops rest fault) :
    (interpreted (spelling pieces ++ rest)).verdict = .error fault := by
  rw [interpreted_spelling, Scan.behind_verdict, Scan.map_verdict_eq_error]
  exact interpreted_of_stops h

/-- The text is pieces in front of a closing quote, or pieces in front of a place
where the string stops. -/
def IsDecided (text : List Char) : Prop :=
  (∃ pieces rest, text = spelling pieces ++ '"' :: rest) ∨
    ∃ pieces rest fault, text = spelling pieces ++ rest ∧ Stops rest fault

theorem IsDecided.behind {text : List Char} (h : IsDecided text) (piece : Piece) :
    IsDecided (piece.text ++ text) := by
  rcases h with ⟨pieces, rest, rfl⟩ | ⟨pieces, rest, fault, rfl, hstops⟩
  · exact .inl ⟨piece :: pieces, rest, by rw [spelling_cons, List.append_assoc]⟩
  · exact .inr ⟨piece :: pieces, rest, fault, by rw [spelling_cons, List.append_assoc], hstops⟩

/-- A backslash whose escape is refused stops the string. -/
theorem exists_stops_of_escape {text : List Char} {fault : Fault}
    (h : (Escape.scan text).verdict = .error fault) : ∃ fault, Stops ('\\' :: text) fault := by
  cases text with
  | nil => exact ⟨_, .backslashAtEnd⟩
  | cons c text =>
      by_cases hnewline : c = '\n'
      · rw [hnewline]
        exact ⟨_, .backslashAtNewline text⟩
      · exact ⟨_, .escape hnewline (Escape.scan_error_iff.1 h).2⟩

/-- There is no third way for a text to go on behind an opening quote. -/
theorem isDecided (text : List Char) : IsDecided text := by
  fun_induction interpreted text with
  | case1 => exact .inr ⟨[], [], _, rfl, .atEnd⟩
  | case2 text => exact .inr ⟨[], _, _, rfl, .atNewline text⟩
  | case3 text => exact .inl ⟨[], text, rfl⟩
  | case4 text escape c hverdict ih =>
      have hsplits : escape.read ++ escape.rest = text := Escape.scan_splits text
      have hspells : Spells ('\\' :: escape.read) c := .escape (Escape.denotes_of_scan hverdict)
      rw [← hsplits]
      exact ih.behind ⟨_, c, hspells⟩
  | case5 text escape fault hverdict =>
      obtain ⟨fault, hstops⟩ := exists_stops_of_escape hverdict
      exact .inr ⟨[], _, fault, rfl, hstops⟩
  | case6 c text hnewline hquote hbackslash ih =>
      exact ih.behind ⟨[c], c, .plain hquote hbackslash hnewline⟩

/-! ## Strings between backticks -/

/-- The first backtick ends the string, and everything before it stands for itself. -/
theorem raw_closed {value : List Char} (h : '`' ∉ value) (rest : List Char) :
    raw (value ++ '`' :: rest) = ⟨value ++ ['`'], rest, .ok value⟩ := by
  induction value with
  | nil => rfl
  | cons c value ih =>
      rw [List.mem_cons, not_or] at h
      rw [List.cons_append, raw, if_neg (Ne.symm h.1), ih h.2]
      rfl

/-- A string without a second backtick takes the whole text. -/
theorem raw_unclosed {text : List Char} (h : '`' ∉ text) :
    raw text = ⟨text, [], .error .unterminatedRawString⟩ := by
  induction text with
  | nil => rfl
  | cons c text ih =>
      rw [List.mem_cons, not_or] at h
      rw [raw, if_neg (Ne.symm h.1), ih h.2]
      rfl

end Quotation

end Lexis
