import Lexis.Lexeme.Numeral
import Lexis.Lexeme.Quotation
import Lexis.Trivia

/-!
# Readings

One step through a text: the trivia at its head is skipped, and one lexeme or one faulty stretch
behind it is taken.  Every step but the one at the end of the text takes at least one character.
-/

namespace Lexis

namespace Lexeme

/-- Reads the word whose first character is `c`: the run of identifier characters from there. -/
def scanWord (c : Char) (text : List Char) : Scan Lexeme :=
  let spelling := (c :: text).takeWhile isIdentifierPart
  ⟨spelling, (c :: text).dropWhile isIdentifierPart, .ok (word spelling)⟩

/-- Reads the first symbol of the table that stands at the head of `c :: text`, over as many
characters as its text has bytes; where there is none, `c` is out of place. -/
def scanSymbol (c : Char) (text : List Char) : Scan Lexeme :=
  match Symbol.first? (c :: text) with
  | some (spelling, found) =>
      let size := spelling.utf8ByteSize
      ⟨(c :: text).take size, (c :: text).drop size, .ok (symbol found)⟩
  | none => ⟨[c], text, .error (.illegalCharacter c)⟩

/-- Reads the lexeme whose first character is `c`, which decides what it can be. -/
def scan (c : Char) (text : List Char) : Scan Lexeme :=
  if c = '"' then ((Quotation.interpreted text).map interpreted).behind [c]
  else if c = '`' then ((Quotation.raw text).map raw).behind [c]
  else if c = '\'' then ((Quotation.character text).map character).behind [c]
  else if isDigit c then Numeral.scan (c :: text)
  else if isIdentifierStart c then scanWord c text
  else scanSymbol c text

/-- A word takes its first character, since what opens an identifier also continues one. -/
theorem scanWord_eq {c : Char} (h : isIdentifierStart c = true) (text : List Char) :
    scanWord c text =
      ⟨c :: text.takeWhile isIdentifierPart, text.dropWhile isIdentifierPart,
        .ok (word (c :: text.takeWhile isIdentifierPart))⟩ := by
  have hpart := isIdentifierPart_of_isIdentifierStart h
  rw [scanWord, List.takeWhile_cons_of_pos hpart, List.dropWhile_cons_of_pos hpart]

/-- A lexeme takes characters from the head of the text. -/
theorem scan_splits (c : Char) (text : List Char) : (scan c text).Splits (c :: text) := by
  unfold scan
  repeat' split
  · exact ((Quotation.interpreted_splits text).map interpreted).behind [c]
  · exact ((Quotation.raw_splits text).map raw).behind [c]
  · exact ((Quotation.character_splits text).map character).behind [c]
  · exact Numeral.scan_splits (c :: text)
  · simp [Scan.Splits, scanWord]
  · unfold scanSymbol
    split
    · simp [Scan.Splits]
    · rfl

/-- A lexeme, faulty or not, takes at least its first character. -/
theorem scan_read_ne_nil (c : Char) (text : List Char) : (scan c text).read ≠ [] := by
  unfold scan
  repeat' split
  · simp [Scan.behind]
  · simp [Scan.behind]
  · simp [Scan.behind]
  · next hdigit => exact Numeral.scan_read_ne_nil hdigit text
  · next hstart => simp [scanWord_eq hstart]
  · unfold scanSymbol
    split
    · next spelling found hfound =>
        have hpos : 0 < spelling.utf8ByteSize :=
          Symbol.utf8ByteSize_pos_of_mem_table (List.mem_of_find?_eq_some hfound)
        refine List.ne_nil_of_length_pos ?_
        simp only [List.length_take, List.length_cons]
        omega
    · simp

end Lexeme

/-- One step through a text. -/
structure Reading where
  /-- The trivia skipped. -/
  trivia : List Char
  /-- The characters taken behind it. -/
  read : List Char
  /-- The characters left. -/
  rest : List Char
  /-- What the characters taken are; nothing at the end of the text. -/
  outcome : Option (Except Fault Lexeme)

namespace Reading

/-- The step at the head of `text`.  What looks like a block comment behind all trivia is one that
is never closed, and it takes the whole text. -/
def ofText (text : List Char) : Reading :=
  let (trivia, unread) := Trivia.skip text
  match unread with
  | [] => ⟨trivia, [], [], none⟩
  | '/' :: '*' :: _ => ⟨trivia, unread, [], some (.error .unterminatedComment)⟩
  | c :: text =>
      let lexeme := Lexeme.scan c text
      ⟨trivia, lexeme.read, lexeme.rest, some lexeme.verdict⟩

/-- A step loses nothing. -/
theorem ofText_append (text : List Char) :
    (ofText text).trivia ++ ((ofText text).read ++ (ofText text).rest) = text := by
  have hskip := Trivia.skip_append text
  unfold ofText
  generalize Trivia.skip text = skipped at hskip ⊢
  obtain ⟨trivia, unread⟩ := skipped
  simp only at hskip ⊢
  split
  · simpa using hskip
  · simpa using hskip
  · next c text _ =>
      have := Lexeme.scan_splits c text
      unfold Scan.Splits at this
      simpa [this] using hskip

/-- A step that is not at the end of the text takes something. -/
theorem ofText_read_ne_nil {text : List Char} (h : (ofText text).outcome ≠ none) :
    (ofText text).read ≠ [] := by
  unfold ofText at h ⊢
  generalize Trivia.skip text = skipped at h ⊢
  obtain ⟨trivia, unread⟩ := skipped
  simp only at h ⊢
  split at h
  · exact absurd rfl h
  · simp
  · exact Lexeme.scan_read_ne_nil _ _

/-- A step that is not at the end of the text leaves less than it found. -/
theorem length_rest_ofText_lt {text : List Char} (h : (ofText text).outcome ≠ none) :
    (ofText text).rest.length < text.length := by
  have hpos := List.length_pos_iff.2 (ofText_read_ne_nil h)
  have hlength := congrArg List.length (ofText_append text)
  simp at hlength
  omega

end Reading

end Lexis
