/-
# The command line of a job

Options are given as `--name value` or `--name=value`, each at most once.
-/
import Detection.Run.Job

namespace Detection

/-- Why a command line describes no job. -/
inductive OptionFault where
  /-- There is no such option. -/
  | unknown (word : String)
  /-- An option has no value. -/
  | noValue (name : String)
  /-- An option is given more than once. -/
  | twice (name : String)
  /-- An option that must be given is not. -/
  | missing (name : String)
  /-- A number of rounds is no number. -/
  | rounds (text : String)
deriving DecidableEq, Repr

/-- The wording of a fault. -/
def OptionFault.message : OptionFault → String
  | .unknown word => "unexpected argument '" ++ word ++ "'"
  | .noValue name => "a value is required for '--" ++ name ++ "'"
  | .twice name => "the argument '--" ++ name ++ "' cannot be used multiple times"
  | .missing name => "the argument '--" ++ name ++ "' was not provided"
  | .rounds text => "invalid value '" ++ text ++ "' for '--repeat'"

namespace Job

/-- The names of the options. -/
def optionNames : List String :=
  ["model", "config", "input", "output", "repeat"]

/-- The name of an option, and its value if that is part of the same word. -/
def optionOf? (word : String) : Option (String × Option String) :=
  match word.toList with
  | '-' :: '-' :: text =>
    let (name, value) := Address.splitAt '=' text
    let name := String.ofList name
    if optionNames.contains name then some (name, value.map String.ofList) else none
  | _ => none

/-- The values of options, behind those found so far. -/
def gatherOptions (found : Table String) : List String → Except OptionFault (Table String)
  | [] => .ok found
  | word :: rest =>
    match optionOf? word with
    | none => .error (.unknown word)
    | some (name, inner) =>
      if (found.get? name).isSome then
        .error (.twice name)
      else
        match inner, rest with
        | some value, rest => gatherOptions (found.insert name value) rest
        | none, value :: rest => gatherOptions (found.insert name value) rest
        | none, [] => .error (.noValue name)

/-- The value of an option that must be given. -/
def requiredOption (options : Table String) (name : String) : Except OptionFault String :=
  match options.get? name with
  | some value => .ok value
  | none => .error (.missing name)

/-- The schedule that the options ask for. -/
def scheduleOf (options : Table String) : Except OptionFault Schedule :=
  match options.get? "repeat" with
  | none => .ok .once
  | some text =>
    match (SettingValue.read? text.toList : Option UInt64) with
    | some rounds => .ok (.repeated rounds.toNat)
    | none => .error (.rounds text)

/-- The job that a command line describes.  Records are printed where nothing else is said. -/
def ofArguments (arguments : List String) : Except OptionFault Job := do
  let options ← gatherOptions .empty arguments
  return {
    family := ← requiredOption options "model"
    settings := ← requiredOption options "config"
    input := ← requiredOption options "input"
    output := (options.get? "output").getD "stdout:"
    schedule := ← scheduleOf options }

end Job

end Detection
