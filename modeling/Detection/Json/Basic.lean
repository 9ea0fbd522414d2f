/-
# JSON values

The values that a JSON text can hold.  An object keeps its members in the order in which they
were written, those with the same key included.
-/
import Detection.Json.Number

namespace Detection

/-- A JSON value. -/
inductive Json where
  /-- Nothing. -/
  | null
  /-- A truth value. -/
  | bool (value : Bool)
  /-- A number. -/
  | number (value : Json.Number)
  /-- A text. -/
  | string (value : String)
  /-- A list of values. -/
  | array (items : List Json)
  /-- Values under keys. -/
  | object (members : List (String × Json))

end Detection
