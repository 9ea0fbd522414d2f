/-
# Settings written as lines

A line `KEY = VALUE` assigns a value to a key; blanks around either do not count.  Blank lines
and lines that begin with a number sign are skipped.
-/
import Detection.Settings.Basic

namespace Detection
namespace Settings

/-- What a line of settings says. -/
inductive Line where
  /-- Nothing. -/
  | remark
  /-- A key has a value. -/
  | assignment (key value : List Char)
  /-- It is no line of settings. -/
  | malformed
deriving DecidableEq, Repr

/-- What a line without blanks at its ends says. -/
def Line.ofTrimmed (line : List Char) : Line :=
  if line = [] ∨ line.head? = some '#' then
    .remark
  else
    match Text.cut '=' line with
    | none => .malformed
    | some (before, behind) =>
      if Text.trim before = [] then .malformed
      else .assignment (Text.trim before) (Text.trim behind)

/-- The assignments of numbered lines, or the first line that is none. -/
def assignments (number : Nat) :
    List (List Char) → Except SettingsFault (List (String × String))
  | [] => .ok []
  | line :: rest =>
    match Line.ofTrimmed (Text.trim line) with
    | .remark => assignments (number + 1) rest
    | .malformed => .error (.line number (String.ofList (Text.trim line)))
    | .assignment key value =>
      (assignments (number + 1) rest).map ((String.ofList key, String.ofList value) :: ·)

/-- The settings that a text of lines holds; a later line wins over an earlier one. -/
def ofText (text : String) : Except SettingsFault Settings :=
  (assignments 1 (Text.lines text.toList)).map Table.ofList

end Settings
end Detection
