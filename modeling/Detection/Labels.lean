/-
# Names of classes

A list of labels has a name to a line, in the order of the classes.  Blank lines and lines
that begin with a number sign are skipped.
-/
import Detection.Text.Lines

namespace Detection

/-- The names of the classes, from class 0 on. -/
structure Labels where
  /-- The names in order. -/
  names : List String
deriving DecidableEq, Repr

namespace Labels

/-- The labels that a text holds. -/
def ofText (text : String) : Labels :=
  let lines := (Text.lines text.toList).map Text.trim
  ⟨(lines.filter fun line => !line.isEmpty && line.head? != some '#').map String.ofList⟩

/-- The name of a class, if it has one. -/
def name? (l : Labels) (classId : Nat) : Option String :=
  l.names[classId]?

/-- The number of names. -/
def size (l : Labels) : Nat :=
  l.names.length

end Labels

end Detection
