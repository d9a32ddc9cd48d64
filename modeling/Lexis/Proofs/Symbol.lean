import Lexis.Proofs.Character.Classes
import Lexis.Reading

/-!
# The longest symbol

`Symbol.longest?` tries the spellings of three, of two and of one character.  As no two
symbols are spelt the same and no symbol is longer, what it finds is the longest of all
symbols that stand at the head of the text: `Symbol.longest?_eq_some_iff`.

`Symbol.table` is another listing of the symbols and their texts.  `Symbol.mem_table_iff` says that
the texts are the spellings, and `Symbol.first?_eq` that the first match is the longest symbol.
Whether there is one depends on one character only: `Symbol.longest?_cons_eq_none_iff`.
-/

namespace Lexis

namespace Symbol

/-- The symbol that is spelt `text`. -/
def ofSpelling? (text : List Char) : Option Symbol :=
  all.find? fun symbol => symbol.spelling.toList == text

/-- The symbol with the longest spelling at the head of `text`.  No symbol has more than three
characters. -/
def longest? (text : List Char) : Option Symbol :=
  (ofSpelling? (text.take 3)).or ((ofSpelling? (text.take 2)).or (ofSpelling? (text.take 1)))

/-! ## Spellings -/

theorem length_spelling_le (symbol : Symbol) : symbol.spelling.toList.length ≤ 3 := by
  have hall : ∀ symbol ∈ all, symbol.spelling.toList.length ≤ 3 := by decide
  exact hall symbol symbol.mem_all

theorem spelling_ne_nil (symbol : Symbol) : symbol.spelling.toList ≠ [] := by
  have hall : ∀ symbol ∈ all, symbol.spelling.toList ≠ [] := by decide
  exact hall symbol symbol.mem_all

/-- No character of a symbol belongs to another kind of lexeme or to white space. -/
theorem of_mem_spelling {symbol : Symbol} {c : Char} (h : c ∈ symbol.spelling.toList) :
    isWhiteSpace c = false ∧ isIdentifierPart c = false ∧ c ≠ '"' ∧ c ≠ '`' ∧ c ≠ '\'' := by
  have hall : ∀ symbol ∈ all, (symbol.spelling.toList.all fun c =>
      !isWhiteSpace c && !isIdentifierPart c && c != '"' && c != '`' && c != '\'') = true := by
    decide +kernel
  simpa [and_assoc] using List.all_eq_true.1 (hall symbol symbol.mem_all) c h

/-- A symbol is found by its spelling, and by no other text. -/
theorem ofSpelling?_eq_some_iff {text : List Char} {symbol : Symbol} :
    ofSpelling? text = some symbol ↔ symbol.spelling.toList = text := by
  constructor
  · intro h
    have hfound := List.find?_some h
    simpa using hfound
  · rintro rfl
    have hall : ∀ symbol ∈ all, ofSpelling? symbol.spelling.toList = some symbol := by
      decide +kernel
    exact hall symbol symbol.mem_all

/-- No two symbols are spelt the same. -/
theorem eq_of_spelling {symbol other : Symbol}
    (h : symbol.spelling.toList = other.spelling.toList) : symbol = other :=
  Option.some.inj ((ofSpelling?_eq_some_iff.2 rfl).symm.trans (ofSpelling?_eq_some_iff.2 h.symm))

/-! ## The longest one at the head of a text -/

/-- The symbol stands at the head of the text, and no longer one does. -/
structure IsLongest (symbol : Symbol) (text : List Char) : Prop where
  isPrefix : symbol.spelling.toList <+: text
  longest : ∀ other : Symbol, other.spelling.toList <+: text →
    other.spelling.toList.length ≤ symbol.spelling.toList.length

/-- There is one longest symbol at most. -/
theorem IsLongest.eq {symbol other : Symbol} {text : List Char} (h : IsLongest symbol text)
    (hother : IsLongest other text) : symbol = other := by
  have hle := h.longest other hother.isPrefix
  have hge := hother.longest symbol h.isPrefix
  apply eq_of_spelling
  rw [List.prefix_iff_eq_take.1 h.isPrefix, List.prefix_iff_eq_take.1 hother.isPrefix]
  congr 1
  omega

/-- What is spelt by the first characters of a text is the longest symbol there, if none is
spelt by more. -/
theorem isLongest_of_take {symbol : Symbol} {text : List Char} {count : Nat}
    (h : ofSpelling? (text.take count) = some symbol)
    (hlonger : ∀ more, count < more → more ≤ 3 → ofSpelling? (text.take more) = none) :
    IsLongest symbol text := by
  have hspelling := ofSpelling?_eq_some_iff.1 h
  refine ⟨hspelling ▸ List.take_prefix _ _, ?_⟩
  intro other hother
  by_cases hle : other.spelling.toList.length ≤ count
  · have hprefix : other.spelling.toList <+: text.take count :=
      List.prefix_take_iff.2 ⟨hother, hle⟩
    rw [hspelling]
    exact hprefix.length_le
  · have hnone := hlonger _ (by omega) other.length_spelling_le
    rw [← List.prefix_iff_eq_take.1 hother, ofSpelling?_eq_some_iff.2 rfl] at hnone
    cases hnone

theorem isLongest_of_longest? {text : List Char} {symbol : Symbol}
    (h : longest? text = some symbol) : IsLongest symbol text := by
  rw [longest?, Option.or_eq_some_iff, Option.or_eq_some_iff] at h
  rcases h with hthree | ⟨hthree, htwo | ⟨htwo, hone⟩⟩
  · refine isLongest_of_take hthree fun more hmore hle => ?_
    omega
  · refine isLongest_of_take htwo fun more hmore hle => ?_
    obtain rfl : more = 3 := by omega
    exact hthree
  · refine isLongest_of_take hone fun more hmore hle => ?_
    obtain rfl | rfl : more = 2 ∨ more = 3 := by omega
    · exact htwo
    · exact hthree

/-- A text with a symbol at its head has a longest one. -/
theorem longest?_ne_none {text : List Char} {symbol : Symbol}
    (h : symbol.spelling.toList <+: text) : longest? text ≠ none := by
  intro hnone
  rw [longest?, Option.or_eq_none_iff, Option.or_eq_none_iff] at hnone
  obtain ⟨hthree, htwo, hone⟩ := hnone
  have hfound : ofSpelling? (text.take symbol.spelling.toList.length) = some symbol := by
    rw [← List.prefix_iff_eq_take.1 h]
    exact ofSpelling?_eq_some_iff.2 rfl
  have hpos := List.length_pos_iff.2 symbol.spelling_ne_nil
  have hle := symbol.length_spelling_le
  obtain hlength | hlength | hlength : symbol.spelling.toList.length = 1 ∨
      symbol.spelling.toList.length = 2 ∨ symbol.spelling.toList.length = 3 := by omega
  · simp [hlength, hone] at hfound
  · simp [hlength, htwo] at hfound
  · simp [hlength, hthree] at hfound

/-- The symbol that is found is the longest one at the head of the text. -/
theorem longest?_eq_some_iff {text : List Char} {symbol : Symbol} :
    longest? text = some symbol ↔ IsLongest symbol text := by
  constructor
  · exact isLongest_of_longest?
  · intro h
    cases hfound : longest? text with
    | none => exact absurd hfound (longest?_ne_none h.isPrefix)
    | some other => rw [(isLongest_of_longest? hfound).eq h]

/-- What is found depends on three characters. -/
theorem longest?_congr {text other : List Char} (h : text.take 3 = other.take 3) :
    longest? text = longest? other := by
  have htake : ∀ count ≤ 3, text.take count = other.take count := by
    intro count hcount
    have hcut := congrArg (List.take count) h
    rwa [List.take_take, List.take_take, Nat.min_eq_left hcount] at hcut
  rw [longest?, longest?, h, htake 2 (by omega), htake 1 (by omega)]

/-! ## The first match in the table -/

/-- The texts of the table are the spellings. -/
theorem mem_table_iff {text : String} {symbol : Symbol} :
    (text, symbol) ∈ table ↔ text = symbol.spelling := by
  constructor
  · intro h
    have hall : ∀ row ∈ table, row.1 = row.2.spelling := by decide
    exact hall _ h
  · rintro rfl
    have hall : ∀ symbol ∈ all, (symbol.spelling, symbol) ∈ table := by decide
    exact hall symbol symbol.mem_all

/-- A symbol has its own spelling for a text. -/
theorem text_eq_spelling (symbol : Symbol) : symbol.text = symbol.spelling := by
  have hall : ∀ symbol ∈ all, symbol.text = symbol.spelling := by decide +kernel
  exact hall symbol symbol.mem_all

/-- A symbol has as many bytes as characters. -/
theorem utf8ByteSize_spelling (symbol : Symbol) :
    symbol.spelling.utf8ByteSize = symbol.spelling.length := by
  have hall : ∀ symbol ∈ all, symbol.spelling.utf8ByteSize = symbol.spelling.length := by decide
  exact hall symbol symbol.mem_all

theorem pairwise_table :
    table.Pairwise fun row other => other.1.toList.length ≤ row.1.toList.length := by
  decide +kernel

/-- The first row that matches is that of the longest symbol, as the longer texts come first. -/
theorem first?_eq (text : List Char) :
    first? text = (longest? text).map fun symbol => (symbol.spelling, symbol) := by
  cases hfound : first? text with
  | none =>
      cases hlongest : longest? text with
      | none => rfl
      | some symbol =>
          have hmem : (symbol.spelling, symbol) ∈ table := mem_table_iff.2 rfl
          have hno := List.find?_eq_none.1 hfound _ hmem
          rw [List.isPrefixOf_iff_prefix] at hno
          exact absurd (isLongest_of_longest? hlongest).isPrefix hno
  | some row =>
      obtain ⟨found, symbol⟩ := row
      obtain ⟨hfirst, before, behind, htable, hbefore⟩ := List.find?_eq_some_iff_append.1 hfound
      obtain rfl := mem_table_iff.1 (List.mem_of_find?_eq_some hfound)
      have hlongest : IsLongest symbol text := by
        refine ⟨List.isPrefixOf_iff_prefix.1 hfirst, ?_⟩
        intro other hother
        have hmem : (other.spelling, other) ∈ table := mem_table_iff.2 rfl
        have hsorted := pairwise_table
        rw [htable] at hmem hsorted
        rcases List.mem_append.1 hmem with hmem | hmem
        · -- It would have been found first.
          have hno := hbefore _ hmem
          rw [List.isPrefixOf_iff_prefix.2 hother] at hno
          cases hno
        · rcases List.mem_cons.1 hmem with hrow | hmem
          · obtain rfl : other = symbol := (Prod.mk.inj hrow).2
            exact Nat.le_refl _
          · exact List.rel_of_pairwise_cons (List.pairwise_append.1 hsorted).2.1 hmem
      rw [longest?_eq_some_iff.2 hlongest]
      rfl

/-- What a scanner takes is the longest symbol. -/
theorem scanSymbol_eq (c : Char) (text : List Char) :
    Lexeme.scanSymbol c text =
      match longest? (c :: text) with
      | some symbol =>
          ⟨(c :: text).take symbol.spelling.length, (c :: text).drop symbol.spelling.length,
            .ok (.symbol symbol)⟩
      | none => ⟨[c], text, .error (.illegalCharacter c)⟩ := by
  rw [Lexeme.scanSymbol, first?_eq]
  cases longest? (c :: text) with
  | none => rfl
  | some symbol => simp only [Option.map_some, utf8ByteSize_spelling]

/-! ## The first character -/

/-- The first character of a symbol is a symbol by itself. -/
theorem exists_spelling_of_head? {symbol : Symbol} {c : Char}
    (h : symbol.spelling.toList.head? = some c) :
    ∃ other : Symbol, other.spelling.toList = [c] := by
  have hall : ∀ symbol ∈ all, ∃ other ∈ all,
      other.spelling.toList = symbol.spelling.toList.take 1 := by
    decide +kernel
  obtain ⟨other, -, hother⟩ := hall symbol symbol.mem_all
  obtain ⟨tail, htail⟩ := List.head?_eq_some_iff.1 h
  rw [htail] at hother
  exact ⟨other, hother⟩

/-- Which characters no symbol begins with. -/
theorem longest?_cons_eq_none_iff {c : Char} {text : List Char} :
    longest? (c :: text) = none ↔ ∀ symbol : Symbol, symbol.spelling.toList.head? ≠ some c := by
  constructor
  · intro hnone symbol hhead
    obtain ⟨other, hother⟩ := exists_spelling_of_head? hhead
    have hprefix : other.spelling.toList <+: c :: text := by
      rw [hother]
      exact List.prefix_append [c] text
    exact longest?_ne_none hprefix hnone
  · intro hheads
    cases hfound : longest? (c :: text) with
    | none => rfl
    | some symbol =>
        obtain ⟨tail, htail⟩ := (isLongest_of_longest? hfound).isPrefix
        obtain ⟨d, more, hspelling⟩ := List.exists_cons_of_ne_nil symbol.spelling_ne_nil
        rw [hspelling, List.cons_append, List.cons.injEq] at htail
        exact absurd (by rw [hspelling, htail.1]; rfl) (hheads symbol)

end Symbol

end Lexis
