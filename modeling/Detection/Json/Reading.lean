/-
# Reading JSON

The tokens of a text are taken one by one.  Between two tokens it is known which arrays and
objects are open around the place reached, and what may come there.

## Main definitions

* `Reading.step`: the place behind a token.
* `Json.ofText?`: the value of a text.
-/
import Detection.Json.Token

namespace Detection
namespace Json

/-- An array or object that is open around a value. -/
inductive Enclosure where
  /-- An array, with the items before the value, last first. -/
  | array (items : List Json)
  /-- An object, with the members before the value, last first, and the value's key. -/
  | object (members : List (String × Json)) (key : String)

/-- A place between two tokens, and what is open around it, innermost first. -/
inductive Reading where
  /-- A value must follow. -/
  | valueDue (around : List Enclosure)
  /-- The first item of an array must follow, or its end. -/
  | firstItemDue (around : List Enclosure)
  /-- The first member of an object must follow, or its end. -/
  | firstMemberDue (around : List Enclosure)
  /-- A key must follow, after the members before it, last first. -/
  | keyDue (members : List (String × Json)) (around : List Enclosure)
  /-- The colon behind a key must follow. -/
  | colonDue (members : List (String × Json)) (key : String) (around : List Enclosure)
  /-- A value came before. -/
  | behind (value : Json) (around : List Enclosure)

namespace Reading

/-- Arrays and objects can be nested this deep. -/
def maxDepth : Nat := 127

/-- The place behind the first token of a value. -/
def begin? (around : List Enclosure) : Token → Option Reading
  | .openArray => if around.length < maxDepth then some (.firstItemDue around) else none
  | .openObject => if around.length < maxDepth then some (.firstMemberDue around) else none
  | .null => some (.behind .null around)
  | .bool value => some (.behind (.bool value) around)
  | .number value => some (.behind (.number value) around)
  | .string value => some (.behind (.string value) around)
  | _ => none

/-- The place behind a token, if the token may come. -/
def step : Reading → Token → Option Reading
  | .valueDue around, token => begin? around token
  | .firstItemDue around, .closeArray => some (.behind (.array []) around)
  | .firstItemDue around, token => begin? (.array [] :: around) token
  | .firstMemberDue around, .closeObject => some (.behind (.object []) around)
  | .firstMemberDue around, .string key => some (.colonDue [] key around)
  | .keyDue members around, .string key => some (.colonDue members key around)
  | .colonDue members key around, .colon => some (.valueDue (.object members key :: around))
  | .behind value (.array items :: around), .comma =>
    some (.valueDue (.array (value :: items) :: around))
  | .behind value (.array items :: around), .closeArray =>
    some (.behind (.array (value :: items).reverse) around)
  | .behind value (.object members key :: around), .comma =>
    some (.keyDue ((key, value) :: members) around)
  | .behind value (.object members key :: around), .closeObject =>
    some (.behind (.object ((key, value) :: members).reverse) around)
  | _, _ => none

/-- The value read, if nothing is open any more. -/
def result? : Reading → Option Json
  | .behind value [] => some value
  | _ => none

end Reading

/-- The value that tokens stand for, if they stand for one. -/
def ofTokens? (tokens : List Token) : Option Json :=
  (tokens.foldlM Reading.step (.valueDue [])).bind Reading.result?

/-- The value of a text, if the text is JSON. -/
def ofText? (text : String) : Option Json :=
  (Token.ofText? text.toList).bind ofTokens?

end Json
end Detection
