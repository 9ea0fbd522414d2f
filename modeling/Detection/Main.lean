/-
# The program

It does the job that its command line describes on the machine it runs on.
-/
import Std.Time.DateTime.Timestamp
import Detection.Calendar
import Detection.Number.Native
import Detection.Run.Options

namespace Detection

/-- The fault of a failed operation on a file.  A name that should be that of a directory and
already stands for something else is no directory. -/
def FileFault.ofError (error : IO.Error) : FileFault :=
  match error with
  | .noFileOrDirectory .. => .notFound
  | .alreadyExists .. => .notDirectory
  | .inappropriateType _ code _ => if code = 21 then .isDirectory else .notDirectory
  | failure => .other (toString failure)

/-- An operation on files, with its fault as an outcome. -/
def guardFile {α : Type} (act : IO α) : IO (Except FileFault α) := do
  try
    return .ok (← act)
  catch error =>
    return .error (.ofError error)

/-- The text of the octets of a file. -/
def textOfFile (octets : ByteArray) : Except FileFault String :=
  match String.fromUTF8? octets with
  | some text => .ok text
  | none => .error .notText

instance : Host IO where
  readText path := do
    return (← guardFile (IO.FS.readBinFile path)).bind textOfFile
  makeDirectory path := guardFile (IO.FS.createDirAll path)
  writeText path text := guardFile (IO.FS.writeFile path text)
  printLine line := do (← IO.getStdout).putStrLn line
  now := do
    let stamp ← Std.Time.Timestamp.now
    return Calendar.momentOf stamp.toSecondsSinceUnixEpoch.val.toNat

instance : Clock IO where
  nanoseconds := IO.monoNanosNow

end Detection

open Detection

/-- The exit code is 0 when the job was done, 1 when it failed, and 2 when the command line
describes none. -/
def main (arguments : List String) : IO UInt32 := do
  match Job.ofArguments arguments with
  | .error fault =>
    IO.eprintln ("error: " ++ fault.message)
    return 2
  | .ok job =>
    match ← (job.run : ExceptT JobFault IO Unit).run with
    | .ok () => return 0
    | .error fault =>
      IO.eprintln ("Error: " ++ fault.message)
      return 1
