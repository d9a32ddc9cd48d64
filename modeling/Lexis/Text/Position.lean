/-!
# Positions in a text

A position counts lines and columns from one, columns in characters, and it counts the UTF-8 bytes
before it.  `Position.next` steps over one character, `Position.after` over a stretch of text.
-/

namespace Lexis

/-- A place between two characters of a text.  The default, zero throughout, is no place of any
text, for lines and columns begin at one. -/
structure Position where
  /-- The line, counted from one. -/
  line : Nat := 0
  /-- The column in characters, counted from one. -/
  column : Nat := 0
  /-- The number of UTF-8 bytes before the place. -/
  offset : Nat := 0
deriving DecidableEq, Repr, Inhabited

namespace Position

/-- The place before the first character of a text. -/
def start : Position := ⟨1, 1, 0⟩

/-- The place after the character `c`.  Only a line feed begins a new line. -/
def next (p : Position) (c : Char) : Position :=
  if c = '\n' then ⟨p.line + 1, 1, p.offset + c.utf8Size⟩
  else ⟨p.line, p.column + 1, p.offset + c.utf8Size⟩

/-- The place after the characters `text`. -/
def after (p : Position) (text : List Char) : Position :=
  text.foldl next p

@[simp] theorem after_nil (p : Position) : p.after [] = p := rfl

@[simp] theorem after_cons (p : Position) (c : Char) (text : List Char) :
    p.after (c :: text) = (p.next c).after text := rfl

@[simp] theorem after_append (p : Position) (text more : List Char) :
    p.after (text ++ more) = (p.after text).after more :=
  List.foldl_append

instance : ToString Position where
  toString p := toString p.line ++ ":" ++ toString p.column

end Position

end Lexis
