/-
# Settings: values under keys, and how they are read

Settings are text under keys.  A reader asks for a value of a certain kind: it may be absent,
it may fail to be of that kind, and it may lie outside the range that the reader allows.

## Main definitions

* `SettingValue`: the kinds of number that a setting can be read as.
* `Settings.read?`, `Settings.readWithin?`: reading, and reading within a range.
* `Settings.readOr`: reading with a value to fall back on.
-/
import Detection.Host
import Detection.Number.Reading
import Detection.Number.Writing
import Detection.Text.Table

namespace Detection

/-! ## What can go wrong -/

/-- Why settings could not be read. -/
inductive SettingsFault where
  /-- The address is not that of a file. -/
  | scheme (found : String)
  /-- The file could not be read. -/
  | file (fault : FileFault)
  /-- The text is not JSON. -/
  | json
  /-- A line is no assignment; lines count from one. -/
  | line (number : Nat) (text : String)
  /-- A value is not of the kind asked for. -/
  | kind (key value : String)
  /-- A value lies outside the range allowed. -/
  | range (key value low high : String)
  /-- A value of a sort that settings do not have. -/
  | unsupported (what : String)
deriving DecidableEq, Repr

/-- The wording of a fault. -/
def SettingsFault.message : SettingsFault → String
  | .scheme found => "URI 方案不匹配: " ++ found
  | .file fault => "I/O 错误: " ++ fault.message
  | .json => "JSON 解析错误"
  | .line number text => "配置格式错误, 第 " ++ toString number ++ " 行: " ++ text
  | .kind key value => "配置项 " ++ key ++ " 无法解析: " ++ value
  | .range key value low high =>
    "配置项 " ++ key ++ " 的值 " ++ value ++ " 超出范围 [" ++ low ++ ", " ++ high ++ "]"
  | .unsupported what => "不支持的配置值: " ++ what

/-! ## Kinds of value -/

/-- A kind of number that a setting can be read as. -/
class SettingValue (α : Type) extends LT α where
  /-- The comparison of two values can be decided. -/
  decideLT : ∀ a b : α, Decidable (a < b)
  /-- The value that a text stands for, if it is of this kind. -/
  read? : List Char → Option α
  /-- A value as text. -/
  write : α → String

instance (priority := low) SettingValue.decidableLT {α : Type} [SettingValue α] (a b : α) :
    Decidable (a < b) :=
  SettingValue.decideLT a b

/-- A number that must lie below a bound. -/
def below? (bound : Nat) (n : Nat) : Option Nat :=
  if n < bound then some n else none

/-- A number that must lie between two bounds. -/
def between? (low high : Int) (n : Int) : Option Int :=
  if low ≤ n ∧ n ≤ high then some n else none

instance : SettingValue UInt64 where
  decideLT a b := inferInstanceAs (Decidable (a < b))
  read? text := ((Text.unsigned? text).bind (below? UInt64.size)).map UInt64.ofNat
  write n := toString n.toNat

instance : SettingValue UInt32 where
  decideLT a b := inferInstanceAs (Decidable (a < b))
  read? text := ((Text.unsigned? text).bind (below? UInt32.size)).map UInt32.ofNat
  write n := toString n.toNat

instance : SettingValue Int64 where
  decideLT a b := inferInstanceAs (Decidable (a < b))
  read? text := ((Text.signed? text).bind (between? minInt64 maxInt64)).map Int64.ofInt
  write n := toString n.toInt

instance : SettingValue Int32 where
  decideLT a b := inferInstanceAs (Decidable (a < b))
  read? text := ((Text.signed? text).bind (between? minInt32 maxInt32)).map Int32.ofInt
  write n := toString n.toInt

/-- Numbers in messages about settings never have an exponent, and whole ones no point; of two
equally near shortest numerals the one farther from zero is written. -/
def SettingsFault.numberStyle : NumberStyle := ⟨.awayFromZero, none, false⟩

instance : SettingValue Float32 where
  decideLT a b := Float32.decLt a b
  read? text := (Text.numeral? text).map Numeral.toFloat32
  write x :=
    let style := SettingsFault.numberStyle
    (Numeral.ofFloat32 style.tie x).write style "NaN" "inf"

instance : SettingValue Float where
  decideLT a b := Float.decLt a b
  read? text := (Text.numeral? text).map Numeral.toFloat
  write x :=
    let style := SettingsFault.numberStyle
    (Numeral.ofFloat style.tie x).write style "NaN" "inf"

/-! ## Settings -/

/-- Settings: text under keys. -/
abbrev Settings := Table String

namespace Settings

variable {α : Type} [SettingValue α]

/-- The value of a key, if there is one. -/
def read? (α : Type) [SettingValue α] (s : Settings) (key : String) :
    Except SettingsFault (Option α) :=
  match s.get? key with
  | none => .ok none
  | some text =>
    match SettingValue.read? text.toList with
    | none => .error (.kind key text)
    | some value => .ok (some value)

/-- The value of a key, if there is one, unless it lies outside a range. -/
def readWithin? (s : Settings) (key : String) (low high : α) :
    Except SettingsFault (Option α) :=
  match s.read? α key with
  | .error fault => .error fault
  | .ok none => .ok none
  | .ok (some value) =>
    if value < low ∨ high < value then
      .error (.range key (SettingValue.write value) (SettingValue.write low)
        (SettingValue.write high))
    else
      .ok (some value)

/-- The value of a key within a range, or a default where there is no such value. -/
def readOr (s : Settings) (key : String) (default low high : α) : α :=
  match s.readWithin? key low high with
  | .ok (some value) => value
  | _ => default

/-- The truth value of a key, if there is one; blanks around the word and capital letters do
not matter. -/
def readBool? (s : Settings) (key : String) : Except SettingsFault (Option Bool) :=
  match s.get? key with
  | none => .ok none
  | some text =>
    let word := String.ofList (Text.lower (Text.trim text.toList))
    if word = "true" ∨ word = "1" then .ok (some true)
    else if word = "false" ∨ word = "0" then .ok (some false)
    else .error (.kind key word)

/-- The truth value of a key, or a default where there is none. -/
def readBoolOr (s : Settings) (key : String) (default : Bool) : Bool :=
  match s.readBool? key with
  | .ok (some value) => value
  | _ => default

end Settings

/-- The numbers of a list separated by commas; blanks around a number do not matter. -/
def readNumbers (key text : String) : Except SettingsFault (List Float32) :=
  (Text.splitOn ',' text.toList).mapM fun token =>
    match Text.numeral? (Text.trim token) with
    | none => .error (.kind key (String.ofList token))
    | some numeral => .ok numeral.toFloat32

end Detection
