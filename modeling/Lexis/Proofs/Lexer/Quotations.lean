import Lexis.Proofs.Lexeme.Quotation.Character
import Lexis.Proofs.Lexer.Restart
import Lexis.Proofs.Lexer.Trivia

/-!
# Quoted literals in a source

What a lexer does where it stands before a literal that ends with the line.  Where it goes on does
not depend on what it hands out: it takes the extent of the literal, and later it hands out what is
behind.

* `Cursor.step_lineQuote` places the extent of a literal in a source, and `Lexer.literal_extent`
  says what that comes to for all calls behind it.
* `Cursor.step_character_iff` and `Cursor.step_character_error_iff` say when a character is handed
  out, and when and why none is.
* `Cursor.exists_of_unknownEscape` finds the backslash that an unknown escape is about.
* `Lexer.character_literals` puts these together.
-/

namespace Lexis

open Quotation

/-- A literal that ends with the line takes its quote and its extent. -/
theorem Lexeme.scan_covers {quote : Char} (hquote : IsLineQuote quote) (text : List Char) :
    (scan quote text).Covers ((skipTail quote text).behind [quote]) := by
  rcases hquote with rfl | rfl
  · rw [scan_doubleQuote]
    exact ((interpreted_covers text).map interpreted).behind ['"']
  · rw [scan_singleQuote]
    exact ((character_covers text).map character).behind ['\'']

namespace Cursor

/-! ## Any literal on one line -/

/-- The step over a literal that ends with the line, whatever is handed out for it. -/
theorem step_lineQuote {cursor : Cursor} {quote : Char} {text : List Char}
    (hquote : IsLineQuote quote) (hrest : cursor.rest = quote :: text) :
    cursor.step.1.span = cursor.spanOver (quote :: (skipTail quote text).read) ∧
      cursor.step.2 =
        cursor.past (quote :: (skipTail quote text).read) (skipTail quote text).rest := by
  have hcovers := Lexeme.scan_covers hquote text
  have hstep : cursor.step =
      (Lexeme.outcome (Lexeme.scan quote text).verdict
          (cursor.spanOver (Lexeme.scan quote text).read),
        cursor.past (Lexeme.scan quote text).read (Lexeme.scan quote text).rest) := by
    rcases hquote with rfl | rfl
    · exact step_of_scan hrest rfl (by simp)
    · exact step_of_scan hrest rfl (by simp)
  rw [hstep, hcovers.read, hcovers.rest]
  refine ⟨?_, rfl⟩
  cases (Lexeme.scan quote text).verdict <;> rfl

/-! ## Characters -/

section Character

variable {cursor : Cursor} {text : List Char}

theorem step_of_singleQuote (hrest : cursor.rest = '\'' :: text) :
    cursor.step =
      (Lexeme.outcome (Lexeme.scan '\'' text).verdict
          (cursor.spanOver (Lexeme.scan '\'' text).read),
        cursor.past (Lexeme.scan '\'' text).read (Lexeme.scan '\'' text).rest) :=
  step_of_scan hrest rfl (by simp)

/-- A character is handed out just for one character up to the closing quote. -/
theorem step_character_iff (hrest : cursor.rest = '\'' :: text) (token : Token) (last : Cursor) :
    cursor.step = (.ok token, last) ↔
      ∃ body c rest, Single body c ∧ text = body ++ '\'' :: rest ∧
        token = ⟨.char, String.ofList [c], .none,
          cursor.spanOver ('\'' :: (body ++ ['\'']))⟩ ∧
        last = cursor.past ('\'' :: (body ++ ['\''])) rest := by
  rw [step_of_singleQuote hrest, Lexeme.scan_singleQuote]
  constructor
  · intro h
    cases hverdict : (character text).verdict with
    | ok c =>
        obtain ⟨body, rest, hsingle, rfl⟩ := single_of_character hverdict
        rw [character_closed hsingle] at h
        obtain ⟨htoken, hlast⟩ := Prod.mk.inj h
        exact ⟨body, c, rest, hsingle, rfl, (Except.ok.inj htoken).symm, hlast.symm⟩
    | error fault =>
        rw [Scan.behind_verdict, (Scan.map_verdict_eq_error _).2 hverdict] at h
        cases (Prod.mk.inj h).1
  · rintro ⟨body, c, rest, hsingle, rfl, rfl, rfl⟩
    rw [character_closed hsingle]
    rfl

/-- The fault of a character literal is the one that the text behind its quote is judged as. -/
theorem step_character_error_iff (hrest : cursor.rest = '\'' :: text) (fault : Fault) :
    (∃ span, cursor.step.1 = .error ⟨fault, span⟩) ↔ JudgedAs text (.error fault) := by
  rw [step_of_singleQuote hrest, Lexeme.scan_singleQuote, Scan.behind_verdict,
    ← verdict_character_iff, ← Scan.map_verdict_eq_error]
  cases ((character text).map Lexeme.character).verdict with
  | ok lexeme => simp [Lexeme.outcome]
  | error actual => simp [Lexeme.outcome]

/-- An unknown escape is about a backslash that stands in a literal, behind no other that is out of
order. -/
theorem exists_of_unknownEscape {c : Char} {span : Span}
    (h : cursor.step.1 = .error ⟨.unknownEscape c, span⟩) :
    ∃ trivia quote before rest,
      cursor.rest = trivia ++ quote :: (before ++ '\\' :: c :: rest) ∧
      Trivia.IsTrivia trivia (quote :: (before ++ '\\' :: c :: rest)) ∧
      span.start = cursor.position.after trivia ∧ Lexeme.UpToEscape quote before ∧
      Escape.NoneAt (c :: rest) ∧ c ≠ '\n' ∧ c ∉ Escape.triggers := by
  have hstep := isStep_step cursor
  rw [h] at hstep
  rcases hstep.of_error with ⟨_, _, _, _, _, herror, _⟩ |
    ⟨trivia, quote, text, hrest, htrivia, _, hverdict, hspan, _⟩
  · cases herror
  · obtain ⟨before, rest, rfl, hescape⟩ := Lexeme.unknownEscape_of_scan hverdict
    exact ⟨trivia, quote, before, rest, hrest, htrivia, congrArg Span.start hspan, hescape⟩

end Character

end Cursor

namespace Lexer

/-- A literal that ends with the line is taken up to one place of that line, which does not depend
on what is handed out for it, and what is handed out later does not depend on the literal: it is
what a fresh lexer hands out for the text behind, further on. -/
theorem literal_extent (lexer : Lexer) (quote : Char) (text : List Char)
    (hquote : IsLineQuote quote) (hrest : lexer.cursor.rest = quote :: text) :
    ∃ tail : Tail, (∀ other, Extent quote text other ↔ other = tail) ∧ '\n' ∉ tail.read ∧
      lexer.nextToken.1.span = lexer.cursor.spanOver (quote :: tail.read) ∧
      lexer.nextToken.2.cursor = lexer.cursor.past (quote :: tail.read) tail.rest ∧
      (lexer.position.IsPlace → ∀ index,
        lexer.nextToken.2.stream index =
          ((ofSource (String.ofList tail.rest) lexer.cursor.fileId).stream index).relocate
            (Position.placedAt lexer.nextToken.2.position)) := by
  obtain ⟨hspan, hcursor⟩ := Cursor.step_lineQuote hquote hrest
  have hextent := extent_skipTail quote text
  refine ⟨skipTail quote text, ?_, hextent.newline_not_mem hquote, hspan, hcursor, ?_⟩
  · intro other
    rw [← skipTail_eq_iff hquote, eq_comm]
  · intro hplace index
    have hbehind : lexer.nextToken.2.position =
        lexer.position.after (quote :: (skipTail quote text).read) :=
      congrArg Cursor.position hcursor
    -- Behind the literal, the lexer is a fresh one moved.
    have hmoved : Moved (Position.placedAt lexer.nextToken.2.position)
        (ofSource (String.ofList (skipTail quote text).rest) lexer.cursor.fileId)
        lexer.nextToken.2 := by
      refine ⟨?_, ?_, Position.moves_placedAt ?_⟩
      · exact String.toList_ofList.trans (congrArg Cursor.rest hcursor).symm
      · exact lexer.fileId_nextToken.symm
      · rw [hbehind]
        exact hplace.after _
    exact (hmoved.afterCalls index).relocate_nextToken.symm

/-- The quote behind the second backslash does not close the literal, though the escape of the first
is unknown. -/
theorem literal_extent_spoilt :
    let lexer := ofSource "'\\q\\'\"' + 1" 2
    IsLineQuote '\'' ∧ lexer.cursor.rest = '\'' :: "\\q\\'\"' + 1".toList ∧
      lexer.position.IsPlace ∧
      lexer.nextToken.1 =
        .error ⟨.unknownEscape 'q', lexer.cursor.spanOver "'\\q\\'\"'".toList⟩ ∧
      ∃ tail : Tail, tail = ⟨"\\q\\'\"'".toList, " + 1".toList, true⟩ ∧ '\n' ∉ tail.read ∧
        lexer.nextToken.1.span = lexer.cursor.spanOver ('\'' :: tail.read) ∧
        lexer.nextToken.2.cursor = lexer.cursor.past ('\'' :: tail.read) tail.rest ∧
        ∀ index,
          lexer.nextToken.2.stream index =
            ((ofSource (String.ofList tail.rest) 2).stream index).relocate
              (Position.placedAt lexer.nextToken.2.position) := by
  intro lexer
  have hquote : IsLineQuote '\'' := .inr rfl
  have hrest : lexer.cursor.rest = '\'' :: "\\q\\'\"' + 1".toList := rfl
  have hplace : lexer.position.IsPlace := Position.isPlace_start
  have herror : lexer.nextToken.1 =
      .error ⟨.unknownEscape 'q', lexer.cursor.spanOver "'\\q\\'\"'".toList⟩ := by
    rw [nextToken_eq, Cursor.step_of_singleQuote hrest]
    rfl
  have htail : Extent '\'' "\\q\\'\"' + 1".toList ⟨"\\q\\'\"'".toList, " + 1".toList, true⟩ :=
    (skipTail_eq_iff hquote).1 rfl
  obtain ⟨tail, hextent, hnewline, hspan, hcursor, hlater⟩ :=
    literal_extent lexer '\'' _ hquote hrest
  exact ⟨hquote, hrest, hplace, herror, tail, ((hextent _).1 htail).symm, hnewline, hspan, hcursor,
    hlater hplace⟩

/-- The language of character literals, at every place of every source: which texts are handed out
as a character, with which value and how far, and for which fault others are refused.  And in every
literal of every source, an unknown escape is about the first backslash that begins no escape, and
names the character right behind it. -/
theorem character_literals :
    (∀ (cursor : Cursor) (text : List Char), cursor.rest = '\'' :: text →
      (∀ token last, cursor.step = (.ok token, last) ↔
        ∃ body c rest, Single body c ∧ text = body ++ '\'' :: rest ∧
          token = ⟨.char, String.ofList [c], .none,
            cursor.spanOver ('\'' :: (body ++ ['\'']))⟩ ∧
          last = cursor.past ('\'' :: (body ++ ['\''])) rest) ∧
      ∀ fault, (∃ span, cursor.step.1 = .error ⟨fault, span⟩) ↔ JudgedAs text (.error fault)) ∧
    ∀ (cursor : Cursor) (c : Char) (span : Span),
      cursor.step.1 = .error ⟨.unknownEscape c, span⟩ →
      ∃ trivia quote before rest,
        cursor.rest = trivia ++ quote :: (before ++ '\\' :: c :: rest) ∧
        Trivia.IsTrivia trivia (quote :: (before ++ '\\' :: c :: rest)) ∧
        span.start = cursor.position.after trivia ∧ Lexeme.UpToEscape quote before ∧
        Escape.NoneAt (c :: rest) ∧ c ≠ '\n' ∧ c ∉ Escape.triggers := by
  refine ⟨?_, ?_⟩
  · intro cursor text hrest
    exact ⟨Cursor.step_character_iff hrest, Cursor.step_character_error_iff hrest⟩
  · intro cursor c span h
    exact Cursor.exists_of_unknownEscape h

/-- A code point in four digits, one in eight and the last byte in octal are the characters that
they number, and the next number in octal is none. -/
theorem character_literals_escapes :
    (Cursor.ofSource "'\\u4e2d'" 0).step.1 = .ok ⟨.char, "中", .none, ⟨⟨1, 1, 0⟩, ⟨1, 9, 8⟩, 0⟩⟩ ∧
      (Cursor.ofSource "'\\U0001F600'" 0).step.1 =
        .ok ⟨.char, "😀", .none, ⟨⟨1, 1, 0⟩, ⟨1, 13, 12⟩, 0⟩⟩ ∧
      (Cursor.ofSource "'\\377'" 0).step.1 =
        .ok ⟨.char, "ÿ", .none, ⟨⟨1, 1, 0⟩, ⟨1, 7, 6⟩, 0⟩⟩ ∧
      ∃ span, (Cursor.ofSource "'\\400'" 0).step.1 = .error ⟨.octalEscape, span⟩ := by
  obtain ⟨hcharacter, -⟩ := character_literals
  have hshort : Escape.Writes 16 4 "4e2d".toList '中' := ⟨rfl, [4, 14, 2, 13], by decide, rfl⟩
  have hlong : Escape.Writes 16 8 "0001F600".toList '😀' :=
    ⟨rfl, [0, 0, 0, 1, 15, 6, 0, 0], by decide, rfl⟩
  have hoctal : Escape.Writes 8 3 "377".toList 'ÿ' := ⟨rfl, [3, 7, 7], by decide, rfl⟩
  have hrefused : (Escape.scan ('4' :: "00'".toList)).verdict = .error .octalEscape := rfl
  have hjudges : Judges ('\\' :: '4' :: "00'".toList) (.error .octalEscape) :=
    .escape (by decide) (Escape.scan_error_iff.1 hrefused).2
  refine ⟨?_, ?_, ?_, ?_⟩
  · exact congrArg Prod.fst (((hcharacter (.ofSource "'\\u4e2d'" 0) _ rfl).1 _ _).2
      ⟨_, _, [], .escape (.short hshort), rfl, rfl, rfl⟩)
  · exact congrArg Prod.fst (((hcharacter (.ofSource "'\\U0001F600'" 0) _ rfl).1 _ _).2
      ⟨_, _, [], .escape (.long hlong), rfl, rfl, rfl⟩)
  · exact congrArg Prod.fst (((hcharacter (.ofSource "'\\377'" 0) _ rfl).1 _ _).2
      ⟨_, _, [], .escape (.octal hoctal (by decide)), rfl, rfl, rfl⟩)
  · exact ((hcharacter (.ofSource "'\\400'" 0) _ rfl).2 _).2 (.inl hjudges)

end Lexer

end Lexis
