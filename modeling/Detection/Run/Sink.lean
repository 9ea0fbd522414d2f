/-
# Where records go

A sink takes the record of each frame.  It prints it, or it puts it into a file of its own in a
folder for the day.

## Main definitions

* `FolderSink.path`: the file of the record that is next.
* `FolderSink.put`, `LineSink.put`: taking what was found in a frame.
* `Sink.load`: the sink at an address.
-/
import Detection.Address
import Detection.Run.Record

namespace Detection

/-! ## What can go wrong -/

/-- Why a sink cannot be used. -/
inductive SinkFault where
  /-- The address is not that of such a sink. -/
  | scheme
  /-- A file could not be used. -/
  | file (fault : FileFault)
deriving DecidableEq, Repr

/-- The wording of a fault. -/
def SinkFault.message : SinkFault → String
  | .scheme => "URI 方案不匹配"
  | .file fault => "I/O 错误: " ++ fault.message

/-- Why records cannot be put out. -/
inductive OutputFault where
  /-- The address is not that of a sink. -/
  | scheme
  /-- Printing failed. -/
  | lines (fault : SinkFault)
  /-- Putting a file into a folder failed. -/
  | folder (fault : SinkFault)
deriving DecidableEq, Repr

/-- The wording of a fault. -/
def OutputFault.message : OutputFault → String
  | .scheme => "URI 方案不匹配"
  | .lines fault => "标准输出错误: " ++ fault.message
  | .folder fault => "目录记录输出错误: " ++ fault.message

variable {m : Type → Type} [Monad m] [Host m]

/-- The labels in the file that an address names in its question for them, if it asks. -/
def Address.labels (address : Address) : m (Except SinkFault (Option Labels)) := do
  match address.answer? "labels" with
  | none => return .ok none
  | some path =>
    match ← Host.readText path with
    | .error fault => return .error (.file fault)
    | .ok text => return .ok (some (.ofText text))

/-! ## Printing -/

/-- A sink that prints records. -/
structure LineSink where
  /-- The names of the classes. -/
  labels : Option Labels
  /-- How records are set. -/
  layout : Json.Layout
deriving DecidableEq

namespace LineSink

/-- The scheme of the addresses of such sinks. -/
def scheme : String := "stdout"

/-- The sink at an address. -/
def load (address : Address) : m (Except SinkFault LineSink) := do
  if address.scheme ≠ scheme then
    return .error .scheme
  match ← address.labels with
  | .error fault => return .error fault
  | .ok labels => return .ok ⟨labels, if address.asks "pretty" then .indented else .compact⟩

/-- The record of a frame is printed. -/
def put (s : LineSink) (frame : Frame) (found : Findings) : m (Except SinkFault LineSink) := do
  Host.printLine ((found.record s.labels frame.picture).write s.layout)
  return .ok s

end LineSink

/-! ## Files in a folder -/

/-- A sink that puts records into files. -/
structure FolderSink where
  /-- The folder of the folders for the days. -/
  directory : String
  /-- The names of the classes. -/
  labels : Option Labels
  /-- Whether a frame in which nothing was found has a record. -/
  keepsEmpty : Bool
  /-- The number of the last record; after the greatest comes zero. -/
  lastId : UInt16
deriving DecidableEq

/-- A name behind a directory. -/
def joinPath (directory name : String) : String :=
  if directory = "" then name
  else if directory.toList.getLast? = some '/' then directory ++ name
  else directory ++ "/" ++ name

/-- A number with at least two digits. -/
def twoDigits (n : Nat) : String :=
  if n < 10 then "0" ++ toString n else toString n

namespace FolderSink

/-- The scheme of the addresses of such sinks. -/
def scheme : String := "folder"

/-- The sink at an address. -/
def load (address : Address) : m (Except SinkFault FolderSink) := do
  if address.scheme ≠ scheme then
    return .error .scheme
  match ← address.labels with
  | .error fault => return .error fault
  | .ok labels => return .ok ⟨address.path, labels, address.asks "always", 0⟩

/-- The folder of a day. -/
def dayDirectory (s : FolderSink) (moment : Moment) : String :=
  joinPath (joinPath (joinPath s.directory (toString moment.year)) (twoDigits moment.month))
    (twoDigits moment.day)

/-- The name of the file of the last record. -/
def fileName (s : FolderSink) (moment : Moment) : String :=
  twoDigits moment.hour ++ "-" ++ twoDigits moment.minute ++ "-" ++ twoDigits moment.second ++
    "-" ++ String.ofList (Text.hexDigits 4 s.lastId.toNat) ++ ".json"

/-- The file of the last record. -/
def path (s : FolderSink) (moment : Moment) : String :=
  joinPath (s.dayDirectory moment) (s.fileName moment)

/-- The sink with one record more. -/
def advance (s : FolderSink) : FolderSink :=
  { s with lastId := s.lastId + 1 }

/-- Whether a frame has a record. -/
def takes (s : FolderSink) (found : Findings) : Bool :=
  s.keepsEmpty || found.count != 0

/-- The record of a frame is put into a file of its own. -/
def put (s : FolderSink) (frame : Frame) (found : Findings) :
    m (Except SinkFault FolderSink) := do
  if !s.takes found then
    return .ok s
  let moment ← Host.now
  match ← Host.makeDirectory (s.dayDirectory moment) with
  | .error fault => return .error (.file fault)
  | .ok () =>
    let s := s.advance
    match ← Host.writeText (s.path moment)
      ((found.record s.labels frame.picture).write .indented) with
    | .error fault => return .error (.file fault)
    | .ok () => return .ok s

end FolderSink

/-! ## Any sink -/

/-- A sink of either sort. -/
inductive Sink where
  /-- Records are printed. -/
  | lines (sink : LineSink)
  /-- Records are put into files. -/
  | folder (sink : FolderSink)
deriving DecidableEq

namespace Sink

/-- The sink at an address. -/
def load (address : Address) : m (Except OutputFault Sink) := do
  if address.scheme = LineSink.scheme then
    return (← LineSink.load address).map lines |>.mapError .lines
  else if address.scheme = FolderSink.scheme then
    return (← FolderSink.load address).map folder |>.mapError .folder
  else
    return .error .scheme

/-- The record of a frame is taken. -/
def put (s : Sink) (frame : Frame) (found : Findings) : m (Except OutputFault Sink) := do
  match s with
  | .lines sink => return (← sink.put frame found).map lines |>.mapError .lines
  | .folder sink => return (← sink.put frame found).map folder |>.mapError .folder

end Sink

end Detection
