import Lexis.Proofs.Decimal.Notation
import Lexis.Proofs.Lexer.Occurrence
import Lexis.Proofs.Word

/-!
# Well-formed tokens

The kind, the value and the detail of a token agree with the text that its span cuts out of the
source, and with what follows there.  `Token.IsShaped` says so kind by kind, and
`Token.WellFormed` adds which words are keywords, builtin types and identifiers.

* `Lexeme.Denotes.isShaped` goes through the grammar of lexemes.
* `Lexeme.Denotes.unique` says that a text denotes one lexeme at most, so that the words that the
  tables know are no other token.
* `Lexer.token_wellFormed` is the statement about every token that a lexer of a source hands out.
-/

namespace Lexis

open Quotation

/-! ## How the tokens of each kind are written -/

/-- A run of identifier characters whose first may open an identifier, as long as `rest` lets it
be. -/
structure IsWord (written rest : List Char) : Prop where
  start : beginsWith isIdentifierStart written = true
  parts : ∀ c ∈ written, isIdentifierPart c = true
  ends : beginsWith isIdentifierPart rest = false

/-- A text of one line between two quotes. -/
structure IsQuoted (quote : Char) (written : List Char) : Prop where
  quotes : ∃ body, written = quote :: (body ++ [quote])
  newline_not_mem : '\n' ∉ written

/-- Whether a text begins with the mark of base sixteen. -/
def HasHexMark (written : List Char) : Prop :=
  ['0', 'x'] <+: written ∨ ['0', 'X'] <+: written

instance (written : List Char) : Decidable (HasHexMark written) :=
  inferInstanceAs (Decidable (_ ∨ _))

namespace Token

/-- What the kind of a token says of its value and its detail, where the token is written as
`written` in front of `rest`. -/
def IsShaped (token : Token) (written rest : List Char) : Prop :=
  match token.kind with
  | .endOfInput => written = [] ∧ rest = [] ∧ token.value = "" ∧ token.detail = .none
  | .integer =>
      token.value.toList = written ∧
        token.detail = if HasHexMark written then .hex else .decimal
  | .float => token.detail = .none ∧ IsFloatText token.value.toList
  | .string =>
      token.detail = .raw ∧ written = '`' :: (token.value.toList ++ ['`']) ∨
        token.detail = .interpreted ∧ IsQuoted '"' written
  | .char => token.detail = .none ∧ token.value.toList.length = 1 ∧ IsQuoted '\'' written
  | .operator =>
      ∃ operator : Operator, token.detail = .operator operator ∧
        token.value = operator.spelling ∧ token.value.toList = written
  | .delimiter =>
      ∃ delimiter : Delimiter, token.detail = .delimiter delimiter ∧
        token.value = delimiter.spelling ∧ token.value.toList = written
  | .reserved | .type | .identifier => token.value.toList = written ∧ IsWord written rest
  | .none => False

/-- What is known of a token that is written as `written` in front of `rest`. -/
structure WellFormed (token : Token) (written rest : List Char) : Prop where
  kind_ne_none : token.kind ≠ .none
  isShaped : token.IsShaped written rest
  /-- The spelling of a keyword is that keyword, and nothing else is. -/
  keyword_iff (keyword : Keyword) :
    token.kind = .reserved ∧ token.detail = .keyword keyword ↔
      written = keyword.spelling.toList
  /-- The name of a builtin type is that type, and nothing else is. -/
  builtin_iff (type : BuiltinType) :
    token.kind = .type ∧ token.detail = .builtin type ↔ written = type.spelling.toList
  /-- Every other word is an identifier. -/
  identifier_iff :
    token.kind = .identifier ∧ token.detail = .none ↔
      IsWord written rest ∧ (∀ keyword : Keyword, written ≠ keyword.spelling.toList) ∧
        ∀ type : BuiltinType, written ≠ type.spelling.toList

end Token

/-! ## Quoted literals are written on one line -/

namespace Quotation

theorem Single.newline_not_mem {body : List Char} {c : Char} (h : Single body c) :
    '\n' ∉ body := by
  cases h with
  | plain hquote hbackslash hnewline => simpa using hnewline.symm
  | escape hdenotes => simpa using hdenotes.newline_not_mem

theorem isQuoted_quoted (pieces : List Piece) : IsQuoted '"' (quoted pieces) where
  quotes := ⟨_, rfl⟩
  newline_not_mem := by simpa [quoted] using newline_not_mem_spelling pieces

theorem isQuoted_single {body : List Char} {c : Char} (h : Single body c) :
    IsQuoted '\'' ('\'' :: (body ++ ['\''])) where
  quotes := ⟨_, rfl⟩
  newline_not_mem := by simpa using h.newline_not_mem

end Quotation

namespace Lexeme

/-! ## Shapes -/

/-- The digits of a decimal integer are no mark. -/
theorem not_hasHexMark {digits : List Char} (h : ∀ c ∈ digits, isDigit c = true) :
    ¬ HasHexMark digits := by
  rintro (⟨tail, rfl⟩ | ⟨tail, rfl⟩)
  · exact absurd (h 'x' (by simp)) (by decide)
  · exact absurd (h 'X' (by simp)) (by decide)

theorem hasHexMark_of_mark {mark : Char} (h : mark = 'x' ∨ mark = 'X') (digits : List Char) :
    HasHexMark ('0' :: mark :: digits) := by
  rcases h with rfl | rfl
  · exact .inl ⟨digits, rfl⟩
  · exact .inr ⟨digits, rfl⟩

theorem isShaped_of_numeral {written : List Char} {lexeme : Lexeme}
    (h : Numeral.Denotes written lexeme) (rest : List Char) (span : Span) :
    (lexeme.toToken span).IsShaped written rest := by
  cases h with
  | decimal hne hdigits hzero =>
      refine ⟨String.toList_ofList, ?_⟩
      rw [if_neg (not_hasHexMark hdigits)]
      rfl
  | hex hmark hne hdigits =>
      refine ⟨String.toList_ofList, ?_⟩
      rw [if_pos (hasHexMark_of_mark hmark _)]
      rfl
  | float hwhole hdigits hfraction htext =>
      refine ⟨rfl, ?_⟩
      show IsFloatText (String.ofList _).toList
      rw [String.toList_ofList]
      exact isFloatText_of_canonicalFloat? htext

/-- A word stands for itself, whichever of the three it is. -/
theorem isShaped_word {written rest : List Char} (h : IsWord written rest) (span : Span) :
    ((word written).toToken span).IsShaped written rest := by
  have hshape : (String.ofList written).toList = written ∧ IsWord written rest :=
    ⟨String.toList_ofList, h⟩
  simp only [Token.IsShaped, toToken, kind, value]
  cases Word.ofSpelling (String.ofList written) with
  | keyword keyword => exact hshape
  | builtin type => exact hshape
  | name => exact hshape

/-- A lexeme makes a token of the shape that its kind asks for. -/
theorem Denotes.isShaped {written rest : List Char} {lexeme : Lexeme}
    (h : Denotes written lexeme) (hends : lexeme.Ends rest) (span : Span) :
    (lexeme.toToken span).IsShaped written rest := by
  cases h with
  | numeral hnumeral => exact isShaped_of_numeral hnumeral rest span
  | interpreted pieces => exact .inr ⟨rfl, isQuoted_quoted pieces⟩
  | @raw value hvalue =>
      refine .inl ⟨rfl, ?_⟩
      show backticked value = '`' :: ((String.ofList value).toList ++ ['`'])
      rw [String.toList_ofList]
      rfl
  | @character body c hsingle =>
      refine ⟨rfl, ?_, isQuoted_single hsingle⟩
      show (String.ofList [c]).toList.length = 1
      rw [String.toList_ofList]
      rfl
  | symbol symbol =>
      have hvalue : ((Lexeme.symbol symbol).toToken span).value = symbol.spelling :=
        symbol.text_eq_spelling
      cases symbol with
      | operator operator => exact ⟨operator, rfl, hvalue, congrArg String.toList hvalue⟩
      | delimiter delimiter => exact ⟨delimiter, rfl, hvalue, congrArg String.toList hvalue⟩
  | @word c text hstart hpart =>
      have hword : IsWord (c :: text) rest :=
        ⟨hstart, List.forall_mem_cons.2 ⟨isIdentifierPart_of_isIdentifierStart hstart, hpart⟩,
          hends⟩
      exact isShaped_word hword span

/-! ## Words -/

/-- A text denotes one lexeme at most: the scanner reads it as no other. -/
theorem Denotes.unique {written : List Char} {lexeme other : Lexeme} (h : Denotes written lexeme)
    (hother : Denotes written other) : lexeme = other := by
  obtain ⟨c, text, rfl⟩ := List.exists_cons_of_ne_nil h.ne_nil
  have htext : c :: text = (c :: text) ++ [] := by simp
  have hscan := scan_append h (lexeme.ends_of_blank (by simp)) htext
  rw [scan_append hother (other.ends_of_blank (by simp)) htext] at hscan
  simpa using hscan.symm

/-- A run of identifier characters denotes the word that is spelt so. -/
theorem denotes_word {written : List Char} (hstart : beginsWith isIdentifierStart written = true)
    (hparts : ∀ c ∈ written, isIdentifierPart c = true) :
    Denotes written (.word written) := by
  cases written with
  | nil => cases hstart
  | cons c text => exact .word hstart fun d hd => hparts d (List.mem_cons_of_mem c hd)

theorem denotes_keyword (keyword : Keyword) :
    Denotes keyword.spelling.toList (.word keyword.spelling.toList) := by
  have hall : ∀ keyword ∈ Keyword.all,
      beginsWith isIdentifierStart keyword.spelling.toList = true ∧
        keyword.spelling.toList.all isIdentifierPart = true := by
    decide +kernel
  obtain ⟨hstart, hparts⟩ := hall keyword keyword.mem_all
  exact denotes_word hstart (List.all_eq_true.1 hparts)

theorem denotes_builtin (type : BuiltinType) :
    Denotes type.spelling.toList (.word type.spelling.toList) := by
  have hall : ∀ type ∈ BuiltinType.all,
      beginsWith isIdentifierStart type.spelling.toList = true ∧
        type.spelling.toList.all isIdentifierPart = true := by
    decide +kernel
  obtain ⟨hstart, hparts⟩ := hall type type.mem_all
  exact denotes_word hstart (List.all_eq_true.1 hparts)

theorem Denotes.eq_of_word {written text : List Char} (h : Denotes written (.word text)) :
    text = written := by
  cases h with
  | numeral hnumeral => cases hnumeral
  | word hstart hpart => rfl

/-- Which word a token is can be told from its kind and its detail. -/
theorem isWord_toToken_iff (lexeme : Lexeme) (span : Span) (word : Word) :
    (lexeme.toToken span).kind = word.kind ∧ (lexeme.toToken span).detail = word.detail ↔
      ∃ text, lexeme = .word text ∧ Word.ofSpelling (String.ofList text) = word := by
  constructor
  · simp only [toToken]
    rintro ⟨hkind, hdetail⟩
    fun_cases kind lexeme with
    | case9 text => exact ⟨text, rfl, Word.eq_of_kind_of_detail hkind hdetail⟩
    | _ => cases word <;> cases hkind
  · rintro ⟨text, rfl, rfl⟩
    exact ⟨rfl, rfl⟩

/-- The token of a text is a word just if the text is one, and then it is what the text is. -/
theorem Denotes.isWord_toToken_iff {written : List Char} {lexeme : Lexeme}
    (h : Denotes written lexeme) (span : Span) (word : Word) :
    (lexeme.toToken span).kind = word.kind ∧ (lexeme.toToken span).detail = word.detail ↔
      lexeme = .word written ∧ Word.ofSpelling (String.ofList written) = word := by
  rw [Lexeme.isWord_toToken_iff]
  constructor
  · rintro ⟨text, rfl, hword⟩
    obtain rfl := h.eq_of_word
    exact ⟨rfl, hword⟩
  · rintro ⟨hlexeme, hword⟩
    exact ⟨written, hlexeme, hword⟩

theorem Denotes.isKeyword_iff {written : List Char} {lexeme : Lexeme}
    (h : Denotes written lexeme) (span : Span) (keyword : Keyword) :
    (lexeme.toToken span).kind = .reserved ∧ (lexeme.toToken span).detail = .keyword keyword ↔
      written = keyword.spelling.toList := by
  refine (h.isWord_toToken_iff span (.keyword keyword)).trans ?_
  rw [Word.ofSpelling_eq_keyword_iff]
  constructor
  · rintro ⟨-, hspelling⟩
    rw [hspelling, String.toList_ofList]
  · rintro rfl
    exact ⟨h.unique (denotes_keyword keyword), String.ofList_toList.symm⟩

theorem Denotes.isBuiltin_iff {written : List Char} {lexeme : Lexeme}
    (h : Denotes written lexeme) (span : Span) (type : BuiltinType) :
    (lexeme.toToken span).kind = .type ∧ (lexeme.toToken span).detail = .builtin type ↔
      written = type.spelling.toList := by
  refine (h.isWord_toToken_iff span (.builtin type)).trans ?_
  rw [Word.ofSpelling_eq_builtin_iff]
  constructor
  · rintro ⟨-, hspelling⟩
    rw [hspelling, String.toList_ofList]
  · rintro rfl
    exact ⟨h.unique (denotes_builtin type), String.ofList_toList.symm⟩

/-- The names are the words that the listings do not have. -/
theorem Denotes.isName_iff {written rest : List Char} {lexeme : Lexeme}
    (h : Denotes written lexeme) (hends : lexeme.Ends rest) (span : Span) :
    (lexeme.toToken span).kind = .identifier ∧ (lexeme.toToken span).detail = .none ↔
      IsWord written rest ∧ (∀ keyword : Keyword, written ≠ keyword.spelling.toList) ∧
        ∀ type : BuiltinType, written ≠ type.spelling.toList := by
  have hspelling : ∀ spelling : String,
      spelling ≠ String.ofList written ↔ written ≠ spelling.toList := by
    intro spelling
    rw [Ne, Ne, ← String.toList_inj, String.toList_ofList, eq_comm]
  refine (h.isWord_toToken_iff span .name).trans ?_
  simp only [Word.ofSpelling_eq_name_iff, hspelling]
  constructor
  · rintro ⟨rfl, hkeyword, hbuiltin⟩
    have hname : Word.ofSpelling (String.ofList written) = .name :=
      Word.ofSpelling_eq_name_iff.2 ⟨fun keyword => (hspelling _).2 (hkeyword keyword),
        fun type => (hspelling _).2 (hbuiltin type)⟩
    have hshape := h.isShaped hends {}
    simp only [Token.IsShaped, toToken, kind, hname, Word.kind] at hshape
    exact ⟨hshape.2, hkeyword, hbuiltin⟩
  · rintro ⟨hword, hnone⟩
    exact ⟨h.unique (denotes_word hword.start hword.parts), hnone⟩

theorem Denotes.wellFormed {written rest : List Char} {lexeme : Lexeme}
    (h : Denotes written lexeme) (hends : lexeme.Ends rest) (span : Span) :
    (lexeme.toToken span).WellFormed written rest where
  kind_ne_none := by
    simp only [toToken]
    fun_cases kind lexeme with
    | case9 text => cases Word.ofSpelling (String.ofList text) <;> simp [Word.kind]
    | _ => simp
  isShaped := h.isShaped hends span
  keyword_iff := h.isKeyword_iff span
  builtin_iff := h.isBuiltin_iff span
  identifier_iff := h.isName_iff hends span

end Lexeme

/-- The token of the end of the source is written as nothing. -/
theorem Token.wellFormed_endOfInput (span : Span) : (endOfInput span).WellFormed [] [] where
  kind_ne_none := by simp [endOfInput]
  isShaped := ⟨rfl, rfl, rfl, rfl⟩
  keyword_iff keyword := by
    have hne := (Lexeme.denotes_keyword keyword).ne_nil
    simp [endOfInput, hne.symm]
  builtin_iff type := by
    have hne := (Lexeme.denotes_builtin type).ne_nil
    simp [endOfInput, hne.symm]
  identifier_iff := by
    have hword : ¬ IsWord [] [] := fun h => by cases h.start
    simp [endOfInput, hword]

namespace Lexer

/-- Every token that a lexer of a source hands out, whatever the lexer has been asked before,
stands where its span says and is well-formed there. -/
theorem token_wellFormed (source : String) (fileId : Nat) (lexer : Lexer) (token : Token)
    (hreaches : Reaches (ofSource source fileId) lexer) (htoken : lexer.nextToken.1 = .ok token) :
    ∃ before written rest, source.toList = before ++ (written ++ rest) ∧
      token.span =
        ⟨Position.start.after before, Position.start.after (before ++ written), fileId⟩ ∧
      token.span.slice? source = some (String.ofList written) ∧
      token.WellFormed written rest := by
  obtain ⟨taken, hsource, hposition, hfile⟩ := hreaches.exists_taken
  cases houtcome : (Reading.ofText lexer.cursor.rest).outcome with
  | none =>
      obtain ⟨hend, _⟩ := nextToken_of_isEndOfInput ((isEndOfInput_nextToken_iff lexer).2 houtcome)
      rw [hreaches.after_rest, hfile, htoken] at hend
      obtain rfl := Except.ok.inj hend
      have htext : source.toList = source.toList ++ ([] ++ []) := by simp
      have hspan : (Token.endOfInput (.point (.after .start source.toList) fileId)).span =
          ⟨Position.start.after source.toList,
            Position.start.after (source.toList ++ []), fileId⟩ := by
        rw [List.append_nil]
        rfl
      refine ⟨source.toList, [], [], htext, hspan, ?_, Token.wellFormed_endOfInput _⟩
      rw [hspan]
      exact Span.slice?_source htext fileId
  | some outcome =>
      rw [nextToken_fst, hposition, hfile] at htoken
      cases outcome with
      | error fault =>
          simp only [Reading.toOutcome, houtcome] at htoken
          cases htoken
      | ok lexeme =>
          obtain ⟨occurrence, htext, hplaced⟩ := Reading.exists_occurrence houtcome
          rw [hplaced, ← Occurrence.token_behind] at htoken
          obtain rfl := Except.ok.inj htoken
          have hwhole : source.toList = (occurrence.behind taken).text := by
            rw [Occurrence.text_behind, htext]
            exact hsource
          exact ⟨_, _, _, hwhole, rfl, Span.slice?_source hwhole fileId,
            occurrence.denotes.wellFormed occurrence.ends _⟩

/-- A keyword behind a name that begins like it. -/
theorem token_wellFormed_keyword :
    Reaches (ofSource "ifx if" 3) (ofSource "ifx if" 3).nextToken.2 ∧
      (ofSource "ifx if" 3).nextToken.2.nextToken.1 =
        .ok ⟨.reserved, "if", .keyword .ifWord, ⟨⟨1, 5, 4⟩, ⟨1, 7, 6⟩, 3⟩⟩ ∧
      ∃ before written rest, "ifx if".toList = before ++ (written ++ rest) ∧
        (⟨⟨1, 5, 4⟩, ⟨1, 7, 6⟩, 3⟩ : Span) =
          ⟨Position.start.after before, Position.start.after (before ++ written), 3⟩ ∧
        (⟨⟨1, 5, 4⟩, ⟨1, 7, 6⟩, 3⟩ : Span).slice? "ifx if" = some (String.ofList written) ∧
        Token.WellFormed ⟨.reserved, "if", .keyword .ifWord, ⟨⟨1, 5, 4⟩, ⟨1, 7, 6⟩, 3⟩⟩
          written rest :=
  have hsecond := Outcome.token?_eq_some_iff.1 (by decide +kernel)
  ⟨.call .refl .nextToken, hsecond,
    token_wellFormed "ifx if" 3 _ _ (.call .refl .nextToken) hsecond⟩

end Lexer

end Lexis
