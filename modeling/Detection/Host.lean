/-
# The machine that a run uses

A run reads files, writes files, prints lines and asks for the time.  It does so through the
operations below, whatever provides them: a real machine, or a table of files held in memory.
-/
namespace Detection

/-- Why a file could not be used. -/
inductive FileFault where
  /-- Nothing has that name. -/
  | notFound
  /-- A name on the way is not that of a directory. -/
  | notDirectory
  /-- The name is that of a directory. -/
  | isDirectory
  /-- The file does not hold text. -/
  | notText
  /-- Anything else, in the words of the machine. -/
  | other (reason : String)
deriving DecidableEq, Repr

/-- The wording of a fault. -/
def FileFault.message : FileFault → String
  | .notFound => "No such file or directory (os error 2)"
  | .notDirectory => "Not a directory (os error 20)"
  | .isDirectory => "Is a directory (os error 21)"
  | .notText => "stream did not contain valid UTF-8"
  | .other reason => reason

/-- A moment of the calendar, to the second. -/
structure Moment where
  /-- The year. -/
  year : Nat
  /-- The month, from 1. -/
  month : Nat
  /-- The day of the month, from 1. -/
  day : Nat
  /-- The hour, from 0. -/
  hour : Nat
  /-- The minute. -/
  minute : Nat
  /-- The second. -/
  second : Nat
deriving DecidableEq, Repr

/-- What a run asks of the machine it runs on. -/
class Host (m : Type → Type) where
  /-- The text of the file at a path. -/
  readText : String → m (Except FileFault String)
  /-- A directory made at a path, with those on the way to it. -/
  makeDirectory : String → m (Except FileFault Unit)
  /-- A file of the given text put at a path, in place of any that was there. -/
  writeText : String → String → m (Except FileFault Unit)
  /-- A line of text printed. -/
  printLine : String → m Unit
  /-- The present moment. -/
  now : m Moment

/-- A machine that measures time. -/
class Clock (m : Type → Type) where
  /-- The nanoseconds since some moment in the past. -/
  nanoseconds : m Nat

end Detection
