/-
# Settings written as JSON

The members of a JSON object are settings when their values are texts, numbers, truth values
or lists of texts and numbers.  A list becomes its items with commas between them.
-/
import Detection.Json.Reading
import Detection.Settings.Basic

namespace Detection
namespace Settings

/-- The text of an item of a list. -/
def itemText? : Json → Option String
  | .number value => some value.write
  | .string text => some text
  | _ => none

/-- The text of a value under a key. -/
def valueText (key : String) : Json → Except SettingsFault String
  | .string text => .ok text
  | .number value => .ok value.write
  | .bool value => .ok (if value then "true" else "false")
  | .array items =>
    match items.mapM itemText? with
    | some texts => .ok (String.intercalate "," texts)
    | none => .error (.unsupported (key ++ " 中的数组元素"))
  | _ => .error (.unsupported key)

/-- The settings of an object; a later member wins over an earlier one of the same key. -/
def ofJson : Json → Except SettingsFault Settings
  | .object members => do
    let entries ← (Table.ofList members).entries.mapM fun (key, value) => do
      return (key, ← valueText key value)
    return ⟨entries⟩
  | _ => .error (.unsupported "JSON 配置必须是对象")

/-- The settings that a JSON text holds. -/
def ofJsonText (text : String) : Except SettingsFault Settings :=
  match Json.ofText? text with
  | some value => ofJson value
  | none => .error .json

end Settings
end Detection
