/-
# Recordings written as JSON

A file holds one frame or a list of frames.  What can be read as one frame is one.
-/
import Detection.Address
import Detection.Json.Members
import Detection.Json.Reading
import Detection.Recording.Basic

namespace Detection

/-! ## Records -/

/-- The way of resizing that a value names. -/
def Resizing.ofJson? (value : Json) : Option Resizing :=
  value.word?.bind ofName?

/-- The cropped area that a value describes. -/
def CropArea.ofJson? (value : Json) : Option CropArea := do
  match ← value.fields? ["x0", "y0", "x1", "y1"] with
  | [some left, some top, some right, some bottom] =>
    return {
      left := ← left.countBelow? UInt32.size
      top := ← top.countBelow? UInt32.size
      right := ← right.countBelow? UInt32.size
      bottom := ← bottom.countBelow? UInt32.size }
  | _ => none

/-- The cropped area of a field: none where the field is missing or holds nothing. -/
def CropArea.ofField? : Option Json → Option (Option CropArea)
  | none => some none
  | some .null => some none
  | some value => (ofJson? value).map some

/-- The names of a picture's fields in their order. -/
def Picture.fieldNames : List String :=
  ["width_resize", "height_resize", "width_original", "height_original", "resize_type",
    "keep_aspect_ratio_scaling", "crop"]

/-- The picture that a value describes.  Where nothing else is said it was stretched, by the
factor one, and not cropped. -/
def Picture.ofJson? (value : Json) : Option Picture := do
  match ← value.fields? fieldNames with
  | [some resizedWidth, some resizedHeight, some width, some height, resizing, scaling,
      crop] =>
    return {
      resizedWidth := ← resizedWidth.countBelow? UInt32.size
      resizedHeight := ← resizedHeight.countBelow? UInt32.size
      width := ← width.countBelow? UInt32.size
      height := ← height.countBelow? UInt32.size
      resizing := ← resizing.elim (some .stretch) Resizing.ofJson?
      scaling := ← scaling.elim (some 1.0) Json.single?
      crop := ← CropArea.ofField? crop }
  | _ => none

/-- The tensor that a value describes. -/
def TensorRecord.ofJson? (value : Json) : Option TensorRecord := do
  match ← value.fields? ["dtype", "shape", "data"] with
  | [some kind, some shape, some values] =>
    return {
      kind := ← kind.word?.bind ElementKind.ofName?
      shape := ← (← shape.items?).mapM (Json.countBelow? UInt64.size)
      values := ← (← values.items?).mapM Json.double? }
  | _ => none

/-- The frame that a value describes. -/
def FrameRecord.ofJson? (value : Json) : Option FrameRecord := do
  match ← value.fields? ["image", "tensors"] with
  | [some picture, some tensors] =>
    return {
      picture := ← Picture.ofJson? picture
      tensors := ← (← tensors.items?).mapM TensorRecord.ofJson? }
  | _ => none

/-- The frames that a value describes: one, or a list of them. -/
def FrameRecord.listOfJson? (value : Json) : Option (List FrameRecord) :=
  match FrameRecord.ofJson? value with
  | some frame => some [frame]
  | none => value.items?.bind fun items => items.mapM FrameRecord.ofJson?

/-! ## Recordings -/

namespace Recording

/-- The recording that a text holds. -/
def ofText (text : String) : Except RecordingFault Recording :=
  match (Json.ofText? text).bind FrameRecord.listOfJson? with
  | some records => ofRecords records
  | none => .error .json

/-- The scheme of the addresses of recordings. -/
def scheme : String := "tensor"

/-- The recording at an address. -/
def load {m : Type → Type} [Monad m] [Host m] (address : Address) :
    m (Except RecordingFault Recording) := do
  if address.scheme ≠ scheme then
    return .error .scheme
  match ← Host.readText address.path with
  | .error fault => return .error (.file fault)
  | .ok text => return ofText text

end Recording

end Detection
