/-
# Recordings of what a network put out

A recording is a queue of frames.  In a file each tensor gives its elements as one list of
numbers, whatever their kind, and its shape beside it; the two have to agree.

## Main definitions

* `TensorRecord.toTensor`: a tensor whose shape and elements agree.
* `Recording.ofRecords`: all frames of a file or none.
* `Recording.next?`, `Recording.shapes`: taking frames, and the shapes of the one next taken.
-/
import Detection.Host
import Detection.Tensor

namespace Detection

/-- The kinds of elements. -/
inductive ElementKind where
  /-- Numbers of 32 bits. -/
  | float
  /-- Integers of 64 bits. -/
  | integer
deriving DecidableEq, Repr

/-- The kind of elements that has a name. -/
def ElementKind.ofName? : String → Option ElementKind
  | "float32" => some .float
  | "int64" => some .integer
  | _ => none

/-- A tensor as a file gives it. -/
structure TensorRecord where
  /-- The kind of the elements. -/
  kind : ElementKind
  /-- The extents of the dimensions. -/
  shape : List Nat
  /-- The elements, as 64-bit numbers. -/
  values : List Float

/-- A frame as a file gives it. -/
structure FrameRecord where
  /-- The picture. -/
  picture : Picture
  /-- The tensors. -/
  tensors : List TensorRecord

/-- Why there is no recording. -/
inductive RecordingFault where
  /-- The address is not that of a recording. -/
  | scheme
  /-- The file could not be read. -/
  | file (fault : FileFault)
  /-- The text does not describe frames. -/
  | json
  /-- A tensor's shape and the number of its elements disagree. -/
  | shape (frame tensor : Nat) (shape : List Nat) (count : Nat)
  /-- There is no frame. -/
  | empty
deriving DecidableEq, Repr

/-- The wording of a fault. -/
def RecordingFault.message : RecordingFault → String
  | .scheme => "URI 方案不匹配"
  | .file fault => "I/O 错误: " ++ fault.message
  | .json => "JSON 解析错误"
  | .shape frame tensor extents count =>
    "第 " ++ toString frame ++ " 帧第 " ++ toString tensor ++ " 个张量形状 " ++
      shapeText extents ++ " 与数据长度 " ++ toString count ++ " 不符"
  | .empty => "文件中没有任何帧"

namespace TensorRecord

/-- The elements in the kind that a tensor has: numbers rounded to 32 bits, or integer parts
kept within 64 bits. -/
def data (r : TensorRecord) : TensorData :=
  match r.kind with
  | .float => .float (r.values.map narrow).toArray
  | .integer => .integer (r.values.map fun x => Int64.ofInt (wholePart64 x)).toArray

/-- The tensor that a frame has at an index, if its shape and its elements agree. -/
def toTensor (frame tensor : Nat) (r : TensorRecord) : Except RecordingFault Tensor :=
  if extentProduct r.shape = r.values.length then
    .ok ⟨r.shape, r.data⟩
  else
    .error (.shape frame tensor r.shape r.values.length)

/-- The tensors of a frame from an index on. -/
def toTensors (frame tensor : Nat) : List TensorRecord → Except RecordingFault (List Tensor)
  | [] => .ok []
  | r :: rest => do
    let first ← r.toTensor frame tensor
    return first :: (← toTensors frame (tensor + 1) rest)

end TensorRecord

namespace FrameRecord

/-- The frame of an index, if its tensors are in order. -/
def toFrame (frame : Nat) (r : FrameRecord) : Except RecordingFault Frame := do
  return ⟨← TensorRecord.toTensors frame 0 r.tensors, r.picture⟩

/-- The frames of a file from an index on. -/
def toFrames (frame : Nat) : List FrameRecord → Except RecordingFault (List Frame)
  | [] => .ok []
  | r :: rest => do
    let first ← r.toFrame frame
    return first :: (← toFrames (frame + 1) rest)

end FrameRecord

/-- The frames that are still to be taken. -/
structure Recording where
  /-- The frames in order. -/
  frames : List Frame
deriving DecidableEq

namespace Recording

/-- The recording of a file's frames, of which there has to be one. -/
def ofRecords (records : List FrameRecord) : Except RecordingFault Recording :=
  if records.isEmpty then
    .error .empty
  else
    (FrameRecord.toFrames 0 records).map Recording.mk

/-- The number of frames left. -/
def size (r : Recording) : Nat :=
  r.frames.length

/-- The shapes of the next frame's tensors; none when no frame is left. -/
def shapes (r : Recording) : List (List Nat) :=
  match r.frames with
  | [] => []
  | frame :: _ => frame.shapes

/-- The next frame, and the recording without it. -/
def next? (r : Recording) : Option (Frame × Recording) :=
  match r.frames with
  | [] => none
  | frame :: rest => some (frame, ⟨rest⟩)

end Recording

end Detection
