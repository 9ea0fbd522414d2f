/-
# Writing JSON

A value is written either on one line without blanks, or with each item and member on a line
of its own, two blanks further in than what encloses it.
-/
import Detection.Json.Basic
import Detection.Text.Hex

namespace Detection
namespace Json

/-- How the items and members of a value are set. -/
inductive Layout where
  /-- All on one line, without blanks. -/
  | compact
  /-- Each on a line of its own. -/
  | indented
deriving DecidableEq, Repr

/-- What stands before an item or an end at a depth: a new line with its blanks. -/
def Layout.break (depth : Nat) : Layout → String
  | .compact => ""
  | .indented => "\n" ++ String.ofList (List.replicate (2 * depth) ' ')

/-- What stands between a key and its value. -/
def Layout.colon : Layout → String
  | .compact => ":"
  | .indented => ": "

/-- A character inside a quoted text. -/
def quotedCharacter (c : Char) : List Char :=
  match c with
  | '"' => ['\\', '"']
  | '\\' => ['\\', '\\']
  | '\x08' => ['\\', 'b']
  | '\x0c' => ['\\', 'f']
  | '\n' => ['\\', 'n']
  | '\r' => ['\\', 'r']
  | '\t' => ['\\', 't']
  | c =>
    if c.toNat < 0x20 then
      '\\' :: 'u' :: (Text.hexDigits 4 c.toNat).map Char.toLower
    else
      [c]

/-- A quoted text. -/
def quote (text : String) : String :=
  String.ofList ('"' :: text.toList.flatMap quotedCharacter ++ ['"'])

mutual

/-- A value at a depth of nesting. -/
def writeAt (layout : Layout) (depth : Nat) : Json → String
  | .null => "null"
  | .bool value => if value then "true" else "false"
  | .number value => value.write
  | .string value => quote value
  | .array [] => "[]"
  | .array (item :: items) =>
    "[" ++ layout.break (depth + 1) ++ writeAt layout (depth + 1) item ++
      writeItems layout (depth + 1) items ++ layout.break depth ++ "]"
  | .object [] => "\x7b\x7d"
  | .object (member :: members) =>
    "\x7b" ++ layout.break (depth + 1) ++ writeMember layout (depth + 1) member ++
      writeMembers layout (depth + 1) members ++ layout.break depth ++ "\x7d"

/-- The items of an array behind the first. -/
def writeItems (layout : Layout) (depth : Nat) : List Json → String
  | [] => ""
  | item :: items =>
    "," ++ layout.break depth ++ writeAt layout depth item ++ writeItems layout depth items

/-- A member of an object. -/
def writeMember (layout : Layout) (depth : Nat) : String × Json → String
  | (key, value) => quote key ++ layout.colon ++ writeAt layout depth value

/-- The members of an object behind the first. -/
def writeMembers (layout : Layout) (depth : Nat) : List (String × Json) → String
  | [] => ""
  | member :: members =>
    "," ++ layout.break depth ++ writeMember layout depth member ++
      writeMembers layout depth members

end

/-- A value as text. -/
def write (layout : Layout) (value : Json) : String :=
  writeAt layout 0 value

end Json
end Detection
