import Lexis.Lexeme.Basic

/-!
# Words and their spellings

Keywords, the names of builtin types and all other words are told apart by how they are
spelt.  What a word is and how it is spelt are listed apart from each other.
`Keyword.ofSpelling?_eq_some_iff` and `BuiltinType.ofSpelling?_eq_some_iff` say that the listings
agree, and `Word.spelling_keyword_ne_builtin` that no keyword is the name of a type.
-/

namespace Lexis

/-- A keyword is found by its spelling, and by no other word. -/
theorem Keyword.ofSpelling?_eq_some_iff {text : String} {keyword : Keyword} :
    ofSpelling? text = some keyword ↔ keyword.spelling = text := by
  constructor
  · intro h
    unfold ofSpelling? at h
    split at h <;> cases h <;> rfl
  · rintro rfl
    cases keyword <;> rfl

/-- A builtin type is found by its name, and by no other word. -/
theorem BuiltinType.ofSpelling?_eq_some_iff {text : String} {type : BuiltinType} :
    ofSpelling? text = some type ↔ type.spelling = text := by
  constructor
  · intro h
    unfold ofSpelling? at h
    split at h <;> cases h <;> rfl
  · rintro rfl
    cases type <;> rfl

namespace Word

/-- No builtin type has the name of a keyword. -/
theorem spelling_keyword_ne_builtin (keyword : Keyword) (type : BuiltinType) :
    keyword.spelling ≠ type.spelling := by
  have hall : ∀ keyword ∈ Keyword.all, ∀ type ∈ BuiltinType.all,
      keyword.spelling ≠ type.spelling := by
    decide +kernel
  exact hall keyword keyword.mem_all type type.mem_all

theorem ofSpelling_eq_keyword_iff {text : String} {keyword : Keyword} :
    ofSpelling text = .keyword keyword ↔ keyword.spelling = text := by
  rw [← Keyword.ofSpelling?_eq_some_iff, ofSpelling]
  split
  · next found hfound => simp [hfound]
  · next hnone => split <;> simp [hnone]

theorem ofSpelling_eq_builtin_iff {text : String} {type : BuiltinType} :
    ofSpelling text = .builtin type ↔ type.spelling = text := by
  rw [← BuiltinType.ofSpelling?_eq_some_iff, ofSpelling]
  split
  · next keyword hkeyword =>
      -- A keyword would have the name of the type.
      have hne : BuiltinType.ofSpelling? text ≠ some type := by
        intro htype
        refine spelling_keyword_ne_builtin keyword type ?_
        rw [Keyword.ofSpelling?_eq_some_iff.1 hkeyword, BuiltinType.ofSpelling?_eq_some_iff.1 htype]
      simp [hne]
  · split <;> simp_all

/-- A word is a name just if it is spelt neither as a keyword nor as a builtin type. -/
theorem ofSpelling_eq_name_iff {text : String} :
    ofSpelling text = .name ↔ (∀ keyword : Keyword, keyword.spelling ≠ text) ∧
      ∀ type : BuiltinType, type.spelling ≠ text := by
  constructor
  · intro h
    constructor
    · intro keyword hspelling
      rw [ofSpelling_eq_keyword_iff.2 hspelling] at h
      cases h
    · intro type hspelling
      rw [ofSpelling_eq_builtin_iff.2 hspelling] at h
      cases h
  · rintro ⟨hkeyword, hbuiltin⟩
    cases h : ofSpelling text with
    | keyword keyword => exact absurd (ofSpelling_eq_keyword_iff.1 h) (hkeyword keyword)
    | builtin type => exact absurd (ofSpelling_eq_builtin_iff.1 h) (hbuiltin type)
    | name => rfl

/-- The kind and the detail of a word tell which one it is. -/
theorem eq_of_kind_of_detail {word other : Word} (hkind : word.kind = other.kind)
    (hdetail : word.detail = other.detail) : word = other := by
  cases word <;> cases other <;> simp_all [kind, detail]

end Word

end Lexis
