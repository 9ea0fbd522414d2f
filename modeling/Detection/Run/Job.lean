/-
# A run from beginning to end

A job says which family of detectors is wanted, where the settings and the recording are and
where the records go.  It is done step by step; the first step that fails ends it.
-/
import Detection.Recording.Text
import Detection.Run.Schedule
import Detection.Run.Sink
import Detection.Settings.File

namespace Detection

/-- Why there is nothing to work on. -/
inductive InputFault where
  /-- The address is not that of an input. -/
  | scheme
  /-- There is no recording. -/
  | recording (fault : RecordingFault)
deriving DecidableEq, Repr

/-- The wording of a fault. -/
def InputFault.message : InputFault → String
  | .scheme => "URI 方案不匹配"
  | .recording fault => "张量文件输入错误: " ++ fault.message

/-- The recording that is the input at an address. -/
def loadInput {m : Type → Type} [Monad m] [Host m] (address : Address) :
    m (Except InputFault Recording) := do
  if address.scheme = Recording.scheme then
    return (← Recording.load address).mapError .recording
  else
    return .error .scheme

/-- Why a job was not done. -/
inductive JobFault where
  /-- No family of detectors has that name. -/
  | family (name : String)
  /-- A text is not an address. -/
  | address
  /-- The settings could not be read. -/
  | settings (fault : SettingsFault)
  /-- The input could not be read. -/
  | input (fault : InputFault)
  /-- The input has no frame. -/
  | emptyInput
  /-- The frames could not be worked through as they should be. -/
  | schedule (fault : ScheduleFault)
  /-- The detector could not be built, or a detection failed. -/
  | detection (fault : Fault)
  /-- The records could not be put out. -/
  | output (fault : OutputFault)
deriving DecidableEq

/-- The wording of a fault. -/
def JobFault.message : JobFault → String
  | .family name => Family.unknownMessage name
  | .address => Address.missingSchemeMessage
  | .settings fault => fault.message
  | .input fault => fault.message
  | .emptyInput => "输入中没有任何帧"
  | .schedule fault => fault.message
  | .detection fault => fault.message
  | .output fault => fault.message

/-- What is to be done. -/
structure Job where
  /-- The name of the family of detectors. -/
  family : String
  /-- The address of the settings. -/
  settings : String
  /-- The address of the input. -/
  input : String
  /-- The address of the sink. -/
  output : String
  /-- How the frames are worked through. -/
  schedule : Schedule
deriving DecidableEq, Repr

namespace Job

/-- The address that a text holds. -/
def addressOf (text : String) : Except JobFault Address :=
  match Address.ofText? text with
  | some address => .ok address
  | none => .error .address

/-- The family of a name. -/
def familyOf (name : String) : Except JobFault Family :=
  match Family.ofName? name with
  | some family => .ok family
  | none => .error (.family name)

variable {m : Type → Type} [Monad m] [Host m]

/-- What was found in a frame is put into the sink at hand. -/
def putOut (frame : Frame) (found : Findings) : StateT Sink (ExceptT JobFault m) Unit := do
  let sink ← get
  let outcome ← (Sink.put sink frame found : m (Except OutputFault Sink))
  set (← orThrow JobFault.output outcome)

/-- A job is done. -/
def run [Elementary] [Clock m] (job : Job) : ExceptT JobFault m Unit := do
  let family ← orThrow id (familyOf job.family)
  let settingsAddress ← orThrow id (addressOf job.settings)
  let inputAddress ← orThrow id (addressOf job.input)
  let outputAddress ← orThrow id (addressOf job.output)
  let settings ← orThrow JobFault.settings (← (Settings.load settingsAddress : m _))
  let recording ← orThrow JobFault.input (← (loadInput inputAddress : m _))
  match recording.next? with
  | none => throw .emptyInput
  | some (first, rest) =>
    let detector ← orThrow JobFault.detection (Detector.build family settings first.shapes)
    let sink ← orThrow JobFault.output (← (Sink.load outputAddress : m _))
    let detect : Frame → StateT Sink (ExceptT JobFault m) Findings := fun frame =>
      orThrow JobFault.detection (detector.findings frame)
    let clock : StateT Sink (ExceptT JobFault m) Nat := (Clock.nanoseconds : m Nat)
    let input : List (StateT Sink (ExceptT JobFault m) Frame) := (first :: rest.frames).map pure
    discard ((job.schedule.run JobFault.schedule clock detect putOut input).run sink)

end Job

end Detection
