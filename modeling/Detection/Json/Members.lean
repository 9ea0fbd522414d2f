/-
# JSON values as records

A record is written as an object whose members are its fields, or as an array of its fields in
their order.  Members that are no field do not count; a field must not be given twice.
-/
import Detection.Json.Basic

namespace Detection
namespace Json

/-- What a value gives for each of a list of fields, if it can be a record of them. -/
def fields? (names : List String) : Json → Option (List (Option Json))
  | .object members =>
    names.mapM fun name =>
      match members.filter fun member => member.1 == name with
      | [] => some none
      | [member] => some (some member.2)
      | _ => none
  | .array items =>
    if items.length ≤ names.length then
      some (items.map some ++ List.replicate (names.length - items.length) none)
    else
      none
  | _ => none

/-- The word that a value gives for one of several names: a text, or an object with the name
as its only key and nothing under it. -/
def word? : Json → Option String
  | .string text => some text
  | .object [(key, .null)] => some key
  | _ => none

/-- A value as a count below a bound. -/
def countBelow? (bound : Nat) : Json → Option Nat
  | .number (.integer value) =>
    if 0 ≤ value ∧ value < bound then some value.toNat else none
  | _ => none

/-- A value as a 64-bit number, integers rounded to nearest. -/
def double? : Json → Option Float
  | .number (.integer value) => some (Float.ofInt value)
  | .number (.double value) => some value
  | _ => none

/-- A value as a 32-bit number, rounded to nearest. -/
def single? : Json → Option Float32
  | .number (.integer value) =>
    some (if value < 0 then -Float32.ofNat value.natAbs else Float32.ofNat value.natAbs)
  | .number (.double value) => some (narrow value)
  | _ => none

/-- The items of an array. -/
def items? : Json → Option (List Json)
  | .array items => some items
  | _ => none

end Json
end Detection
