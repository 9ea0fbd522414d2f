/-
# Settings and labels in files

An address of a file with settings may say in which format they are; otherwise the ending of
the file's name decides.
-/
import Detection.Address
import Detection.Labels
import Detection.Settings.Json
import Detection.Settings.Lines

namespace Detection

/-- The last name of a path, slashes at its end not counted. -/
def fileName (path : List Char) : List Char :=
  ((path.reverse.dropWhile fun c => c = '/').takeWhile fun c => c ≠ '/').reverse

/-- The ending of a file's name: what stands behind its last point, unless the point comes
first. -/
def fileEnding? (path : List Char) : Option (List Char) :=
  match Text.cut '.' (fileName path).reverse with
  | none => none
  | some (_, []) => none
  | some (ending, _) => some ending.reverse

namespace Settings

/-- Whether the name of a file says that it holds JSON. -/
def isJsonPath (path : String) : Bool :=
  match fileEnding? path.toList with
  | some ending => Text.lower ending = ['j', 's', 'o', 'n']
  | none => false

/-- How the settings at an address are to be read. -/
def reader (address : Address) : Except SettingsFault (String → Except SettingsFault Settings) :=
  match address.answer? "format" with
  | some "json" => .ok ofJsonText
  | some "cfg" => .ok ofText
  | some "text" => .ok ofText
  | some other => .error (.unsupported ("format=" ++ other))
  | none => .ok (if isJsonPath address.path then ofJsonText else ofText)

/-- The settings at an address. -/
def load {m : Type → Type} [Monad m] [Host m] (address : Address) :
    m (Except SettingsFault Settings) := do
  if address.scheme ≠ Address.fileScheme then
    return .error (.scheme address.scheme)
  match reader address with
  | .error fault => return .error fault
  | .ok read =>
    match ← Host.readText address.path with
    | .error fault => return .error (.file fault)
    | .ok text => return read text

end Settings

/-- The labels at an address. -/
def Labels.load {m : Type → Type} [Monad m] [Host m] (address : Address) :
    m (Except SettingsFault Labels) := do
  if address.scheme ≠ Address.fileScheme then
    return .error (.scheme address.scheme)
  match ← Host.readText address.path with
  | .error fault => return .error (.file fault)
  | .ok text => return .ok (ofText text)

end Detection
