import Lexis.Proofs.Lexer.Occurrence
import Lexis.Proofs.Lexer.Trivia

/-!
# Operators and delimiters in a source

What a lexer does where neither a literal nor a word begins.  It looks through the table of symbols
for the first one that stands at the head of the unread text.  The table has the longer symbols in
front, so that this is the longest one.  Where there is none, one character is out of place.

* `Cursor.takeSymbol` is the search in the table, as a move of the cursor.
* `Cursor.takeSymbol_eq_some_iff` and `Cursor.takeSymbol_eq_none_iff` say what it finds, and
  `Cursor.step_of_takeSymbol` that the step of a lexer goes by it.
* `Cursor.step_symbol_iff`: when a symbol is handed out.
* `Cursor.step_illegalCharacter_iff`: which characters are out of place.  The first character of a
  symbol never is, as it is a symbol by itself.
* `Lexer.symbol_matching` puts these together.
-/

namespace Lexis

open Trivia

namespace Lexeme

/-- What is known of a token beyond its class tells which symbol it is. -/
theorem eq_symbol_of_detail {lexeme : Lexeme} {symbol : Symbol}
    (h : lexeme.detail = (Lexeme.symbol symbol).detail) : lexeme = .symbol symbol := by
  cases lexeme with
  | symbol other => cases symbol <;> cases other <;> simp_all [detail]
  | word text =>
      simp only [detail] at h
      generalize Word.ofSpelling (String.ofList text) = word at h
      cases symbol <;> cases word <;> cases h
  | _ => cases symbol <;> cases h

/-- A symbol is written in one way. -/
theorem Denotes.spelling_symbol {written : List Char} {symbol : Symbol}
    (h : Denotes written (.symbol symbol)) : written = symbol.spelling.toList := by
  cases h with
  | numeral hnumeral => cases hnumeral
  | symbol => rfl

end Lexeme

namespace Cursor

variable {cursor last : Cursor}

/-! ## The search in the table -/

/-- Moves over the first symbol of the table that stands at the cursor.  Where there is none, the
cursor stays. -/
def takeSymbol (cursor : Cursor) : Option Symbol × Cursor :=
  match Symbol.table.find? fun row => cursor.startsWith row.1 with
  | some (text, symbol) => (some symbol, cursor.advanceBy text.utf8ByteSize)
  | none => (none, cursor)

theorem takeSymbol_eq (cursor : Cursor) :
    cursor.takeSymbol = match Symbol.longest? cursor.rest with
      | some symbol => (some symbol, cursor.advanceBy symbol.spelling.length)
      | none => (none, cursor) := by
  have hfirst : (Symbol.table.find? fun row => cursor.startsWith row.1) =
      (Symbol.longest? cursor.rest).map fun symbol => (symbol.spelling, symbol) :=
    Symbol.first?_eq cursor.rest
  rw [takeSymbol, hfirst]
  cases Symbol.longest? cursor.rest with
  | none => rfl
  | some symbol => simp only [Option.map_some, Symbol.utf8ByteSize_spelling]

/-- The symbol that is taken is the longest one at the cursor, and it is taken as a whole. -/
theorem takeSymbol_eq_some_iff {symbol : Symbol} :
    cursor.takeSymbol = (some symbol, last) ↔
      symbol.IsLongest cursor.rest ∧
        ∃ rest, cursor.rest = symbol.spelling.toList ++ rest ∧
          last = cursor.past symbol.spelling.toList rest := by
  have htaken : ∀ rest, cursor.rest = symbol.spelling.toList ++ rest →
      cursor.advanceBy symbol.spelling.length = cursor.past symbol.spelling.toList rest := by
    intro rest hrest
    rw [← String.length_toList]
    exact advanceBy_of_rest hrest
  rw [takeSymbol_eq, ← Symbol.longest?_eq_some_iff]
  constructor
  · intro h
    split at h
    · next found hfound =>
        obtain ⟨hsymbol, rfl⟩ := Prod.mk.inj h
        obtain rfl := Option.some.inj hsymbol
        obtain ⟨rest, hrest⟩ := (Symbol.longest?_eq_some_iff.1 hfound).isPrefix
        exact ⟨hfound, rest, hrest.symm, htaken rest hrest.symm⟩
    · cases h
  · rintro ⟨hfound, rest, hrest, rfl⟩
    rw [hfound, ← htaken rest hrest]

/-- Nothing is taken where no symbol stands. -/
theorem takeSymbol_eq_none_iff :
    cursor.takeSymbol = (none, last) ↔
      (∀ symbol : Symbol, ¬ symbol.spelling.toList <+: cursor.rest) ∧ last = cursor := by
  rw [takeSymbol_eq]
  constructor
  · intro h
    split at h
    · cases h
    · next hnone =>
        obtain ⟨-, rfl⟩ := Prod.mk.inj h
        exact ⟨fun symbol hsymbol => Symbol.longest?_ne_none hsymbol hnone, rfl⟩
  · rintro ⟨hno, rfl⟩
    cases hfound : Symbol.longest? last.rest with
    | none => rfl
    | some symbol => exact absurd (Symbol.longest?_eq_some_iff.1 hfound).isPrefix (hno symbol)

/-- Where no trivia, no literal and no word begins, a step goes by the search in the table. -/
theorem step_of_takeSymbol {c : Char} {text : List Char} (hrest : cursor.rest = c :: text)
    (hbare : Bare (c :: text)) (hother : Lexeme.opensLiteralOrWord c = false) :
    cursor.step = match cursor.takeSymbol with
      | (some symbol, last) =>
          (.ok ((Lexeme.symbol symbol).toToken (last.spanSince cursor.position)), last)
      | (none, first) =>
          (.error ⟨.illegalCharacter c, (first.advanceBy 1).spanSince cursor.position⟩,
            first.advanceBy 1) := by
  rw [step_of_scan hrest hbare.piece?_eq_none hbare.block,
    Lexeme.scan_of_not_opensLiteralOrWord hother, Symbol.scanSymbol_eq, takeSymbol_eq, hrest]
  cases Symbol.longest? (c :: text) with
  | none => simp [Lexeme.outcome, past, advanceBy, spanSince, spanOver, hrest]
  | some symbol => simp [Lexeme.outcome, past, advanceBy, spanSince, spanOver, hrest]

/-! ## Symbols and characters out of place -/

/-- A symbol is handed out just where it stands behind the trivia, is the longest one there and
begins no comment. -/
theorem step_symbol_iff {symbol : Symbol} {span : Span} :
    cursor.step = (.ok ((Lexeme.symbol symbol).toToken span), last) ↔
      ∃ trivia rest, skip cursor.rest = (trivia, symbol.spelling.toList ++ rest) ∧
        ¬ ['/', '*'] <+: symbol.spelling.toList ++ rest ∧
        symbol.IsLongest (symbol.spelling.toList ++ rest) ∧
        span = (cursor.past trivia rest).spanOver symbol.spelling.toList ∧
        last = cursor.past (trivia ++ symbol.spelling.toList) rest := by
  constructor
  · rw [step_eq_iff]
    intro h
    generalize houtcome : (Except.ok ((Lexeme.symbol symbol).toToken span) : Outcome) = outcome at h
    cases h with
    | atEnd htrivia =>
        have hend := congrArg Outcome.isEndOfInput houtcome
        rw [Outcome.isEndOfInput, Lexeme.isEndOfInput_toToken] at hend
        cases hend
    | comment hrest htrivia hbody => cases houtcome
    | @lexeme trivia text c hrest htrivia hbare =>
        obtain ⟨lexeme, hverdict, htoken⟩ := Lexeme.outcome_eq_ok houtcome.symm
        obtain rfl := Lexeme.eq_symbol_of_detail (congrArg Token.detail htoken).symm
        have haccepts := Lexeme.accepts_scan hverdict
        have hread := haccepts.denotes.spelling_symbol
        have hsplits : (Lexeme.scan c text).read ++ (Lexeme.scan c text).rest = c :: text :=
          Lexeme.scan_splits c text
        have hspan := congrArg Token.span htoken
        rw [hread] at hsplits hspan ⊢
        refine ⟨trivia, (Lexeme.scan c text).rest, ?_, ?_, haccepts.ends, hspan, rfl⟩
        · rw [hsplits]
          exact skip_eq_iff.2 ⟨hrest, htrivia, .inl hbare⟩
        · rw [hsplits]
          exact hbare.block
  · rintro ⟨trivia, rest, hskip, hblock, hlongest, rfl, rfl⟩
    obtain ⟨hrest, htrivia, -⟩ := skip_eq_iff.1 hskip
    have hbare := bare_skip (congrArg Prod.snd hskip) hblock
    obtain ⟨c, text, htext⟩ := List.exists_cons_of_ne_nil
      (List.append_ne_nil_of_left_ne_nil symbol.spelling_ne_nil rest)
    have hscan := Lexeme.scan_append (.symbol symbol) hlongest htext.symm
    rw [htext] at hrest htrivia hbare
    have hstep := (IsStep.lexeme hrest htrivia hbare).step_eq
    rwa [hscan] at hstep

/-- A character is out of place just where it stands behind the trivia and begins nothing.  It is
taken by itself. -/
theorem step_illegalCharacter_iff {c : Char} {span : Span} :
    cursor.step = (.error ⟨.illegalCharacter c, span⟩, last) ↔
      ∃ trivia rest, skip cursor.rest = (trivia, c :: rest) ∧
        Lexeme.opensLiteralOrWord c = false ∧
        (∀ symbol : Symbol, symbol.spelling.toList.head? ≠ some c) ∧
        span = (cursor.past trivia rest).spanOver [c] ∧
        last = cursor.past (trivia ++ [c]) rest := by
  constructor
  · rw [step_eq_iff]
    intro h
    rcases h.of_error with ⟨_, _, _, _, _, herror, _⟩ |
      ⟨trivia, d, text, hrest, htrivia, hbare, hverdict, hspan, hlast⟩
    · cases herror
    · cases Lexeme.refused_of_scan hverdict with
      | interpreted hd hclass => cases hclass
      | character hd hclass => cases hclass
      | numeral hd hclass => cases hclass
      | symbol hother hnone =>
          rw [Lexeme.scan_of_not_opensLiteralOrWord hother, Symbol.scanSymbol_eq,
            hnone] at hspan hlast
          exact ⟨trivia, text, skip_eq_iff.2 ⟨hrest, htrivia, .inl hbare⟩, hother,
            Symbol.longest?_cons_eq_none_iff.1 hnone, hspan, hlast⟩
  · rintro ⟨trivia, rest, hskip, hother, hheads, rfl, rfl⟩
    obtain ⟨hrest, htrivia, -⟩ := skip_eq_iff.1 hskip
    have hbare : Bare (c :: rest) := by
      refine bare_skip (congrArg Prod.snd hskip) fun hblock => ?_
      -- The slash of a comment is a symbol.
      obtain rfl : '/' = c := (List.cons_prefix_cons.1 hblock).1
      exact absurd rfl (hheads (.operator .slash))
    have hscan : Lexeme.scan c rest = ⟨[c], rest, .error (.illegalCharacter c)⟩ := by
      rw [Lexeme.scan_of_not_opensLiteralOrWord hother, Symbol.scanSymbol_eq,
        Symbol.longest?_cons_eq_none_iff.2 hheads]
    have hstep := (IsStep.lexeme hrest htrivia hbare).step_eq
    rwa [hscan] at hstep

end Cursor

/-- Every symbol is handed out for its own spelling. -/
theorem Symbol.outcomes_spelling (symbol : Symbol) (fileId : Nat) :
    (Lexer.ofSource symbol.spelling fileId).outcomes =
      [.ok ((Lexeme.symbol symbol).toToken
          ⟨.start, Position.start.after symbol.spelling.toList, fileId⟩),
        .ok (.endOfInput (.point (Position.start.after symbol.spelling.toList) fileId))] := by
  have hwriting := (⟨_, _, .symbol symbol⟩ : Writing).outcomes fileId
  rwa [String.ofList_toList] at hwriting

/-- A lexer takes the longest of all symbols at the cursor, as a whole, or nothing if there is none.
The first match in the table is this symbol, as the table has all 36 operators and 11 delimiters
with their spellings, the longer ones first.  So a step hands out a symbol just where the longest
one stands behind the trivia, and each symbol is handed out for its own spelling.  A character is
out of place just where it stands behind the trivia and begins no numeral, word, quoted literal or
symbol, and then it is taken by itself. -/
theorem Lexer.symbol_matching (cursor : Cursor) :
    (cursor.takeSymbol.1.isSome = true ↔
      ∃ symbol : Symbol, symbol.spelling.toList <+: cursor.rest) ∧
    (∀ symbol last, cursor.takeSymbol = (some symbol, last) ↔
      symbol.IsLongest cursor.rest ∧
        ∃ rest, cursor.rest = symbol.spelling.toList ++ rest ∧
          last = cursor.past symbol.spelling.toList rest) ∧
    (∀ last, cursor.takeSymbol = (none, last) ↔
      (∀ symbol : Symbol, ¬ symbol.spelling.toList <+: cursor.rest) ∧ last = cursor) ∧
    (∀ c text, cursor.rest = c :: text → Bare (c :: text) →
      Lexeme.opensLiteralOrWord c = false →
      cursor.step = match cursor.takeSymbol with
        | (some symbol, last) =>
            (.ok ((Lexeme.symbol symbol).toToken (last.spanSince cursor.position)), last)
        | (none, first) =>
            (.error ⟨.illegalCharacter c, (first.advanceBy 1).spanSince cursor.position⟩,
              first.advanceBy 1)) ∧
    (∀ symbol span last, cursor.step = (.ok ((Lexeme.symbol symbol).toToken span), last) ↔
      ∃ trivia rest, skip cursor.rest = (trivia, symbol.spelling.toList ++ rest) ∧
        ¬ ['/', '*'] <+: symbol.spelling.toList ++ rest ∧
        symbol.IsLongest (symbol.spelling.toList ++ rest) ∧
        span = (cursor.past trivia rest).spanOver symbol.spelling.toList ∧
        last = cursor.past (trivia ++ symbol.spelling.toList) rest) ∧
    (∀ (symbol : Symbol) fileId, (Lexer.ofSource symbol.spelling fileId).outcomes =
      [.ok ((Lexeme.symbol symbol).toToken
          ⟨.start, Position.start.after symbol.spelling.toList, fileId⟩),
        .ok (.endOfInput (.point (Position.start.after symbol.spelling.toList) fileId))]) ∧
    (Operator.all.length = 36 ∧ Delimiter.all.length = 11 ∧ Symbol.table.length = 47 ∧
      (Symbol.table.map Prod.snd).Nodup ∧
      ∀ text symbol, (text, symbol) ∈ Symbol.table ↔ text = symbol.spelling) ∧
    ∀ c span last, cursor.step = (.error ⟨.illegalCharacter c, span⟩, last) ↔
      ∃ trivia rest, skip cursor.rest = (trivia, c :: rest) ∧
        (c ≠ '"' ∧ c ≠ '`' ∧ c ≠ '\'' ∧ isDigit c = false ∧ isIdentifierStart c = false) ∧
        (∀ symbol : Symbol, symbol.spelling.toList.head? ≠ some c) ∧
        span = (cursor.past trivia rest).spanOver [c] ∧
        last = cursor.past (trivia ++ [c]) rest := by
  refine ⟨?_, fun _ _ => Cursor.takeSymbol_eq_some_iff, fun _ => Cursor.takeSymbol_eq_none_iff,
    fun _ _ => Cursor.step_of_takeSymbol, fun _ _ _ => Cursor.step_symbol_iff,
    Symbol.outcomes_spelling,
    ⟨by decide, by decide, by decide, by decide +kernel, fun _ _ => Symbol.mem_table_iff⟩, ?_⟩
  · constructor
    · intro hsome
      obtain ⟨symbol, hsymbol⟩ := Option.isSome_iff_exists.1 hsome
      exact ⟨symbol, (Cursor.takeSymbol_eq_some_iff.1 (Prod.ext hsymbol rfl)).1.isPrefix⟩
    · rintro ⟨symbol, hsymbol⟩
      rw [Option.isSome_iff_ne_none]
      intro hnone
      exact (Cursor.takeSymbol_eq_none_iff.1 (Prod.ext hnone rfl)).1 symbol hsymbol
  · intro c span last
    rw [Cursor.step_illegalCharacter_iff]
    simp only [Lexeme.opensLiteralOrWord_eq_false_iff]

end Lexis
