import Lexis.Diagnostic.Rendering

/-!
# Collections of diagnostics

The reports of one pass over a source, in the order in which they were made.
-/

namespace Lexis

/-- Reports in the order in which they were made. -/
structure Diagnostics where
  items : Array Diagnostic := #[]
deriving DecidableEq, Repr

namespace Diagnostics

instance : EmptyCollection Diagnostics := ⟨{}⟩

/-- The reports as a list. -/
def toList (diagnostics : Diagnostics) : List Diagnostic :=
  diagnostics.items.toList

/-- Adds one report at the end. -/
def push (diagnostics : Diagnostics) (diagnostic : Diagnostic) : Diagnostics :=
  ⟨diagnostics.items.push diagnostic⟩

/-- Adds the reports of another collection at the end. -/
instance : Append Diagnostics where
  append diagnostics more := ⟨diagnostics.items ++ more.items⟩

/-- The number of reports. -/
def size (diagnostics : Diagnostics) : Nat :=
  diagnostics.items.size

/-- Whether there is no report. -/
def isEmpty (diagnostics : Diagnostics) : Bool :=
  diagnostics.items.isEmpty

/-- Whether a later pass must be left out: every report is an error. -/
def hasErrors (diagnostics : Diagnostics) : Bool :=
  !diagnostics.isEmpty

/-- The texts of all reports about `file`, parted by empty lines. -/
def render (diagnostics : Diagnostics) (file : SourceFile) : String :=
  "\n".intercalate (diagnostics.toList.map (·.render file))

@[simp] theorem toList_empty : (∅ : Diagnostics).toList = [] := rfl

@[simp] theorem toList_push (diagnostics : Diagnostics) (diagnostic : Diagnostic) :
    (diagnostics.push diagnostic).toList = diagnostics.toList ++ [diagnostic] := by
  simp [toList, push]

@[simp] theorem toList_append (diagnostics more : Diagnostics) :
    (diagnostics ++ more).toList = diagnostics.toList ++ more.toList := by
  change (diagnostics.items ++ more.items).toList = _
  simp [toList]

@[simp] theorem length_toList (diagnostics : Diagnostics) :
    diagnostics.toList.length = diagnostics.size := by
  simp [toList, size]

end Diagnostics

end Lexis
