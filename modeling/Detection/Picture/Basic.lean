/-
# Pictures and how they were fitted to the model's input

A picture, or a cropped area of it, was resized to the model's input.  Either the axes were
stretched independently, or one factor was applied to both so that the aspect ratio stayed.
-/
import Detection.Fault

namespace Detection

/-- No edge of a picture, and no coordinate on it, is beyond this bound. -/
def maxEdge : Nat := 8192

/-- How a picture was fitted to the model's input. -/
inductive Resizing where
  /-- Each axis was stretched to the model's input. -/
  | stretch
  /-- The aspect ratio was kept, as TensorFlow does it. -/
  | tensorflowAspect
  /-- The aspect ratio was kept, as MindSpore does it. -/
  | mindsporeAspect
  /-- MindSpore's fit for the fourth version of the grid detector. -/
  | mindsporeYolo4
deriving DecidableEq, Repr

/-- Whether one factor was applied to both axes. -/
def Resizing.keepsAspect : Resizing → Bool
  | .tensorflowAspect => true
  | .mindsporeAspect => true
  | .stretch => false
  | .mindsporeYolo4 => false

/-- The name of a way of resizing in files. -/
def Resizing.name : Resizing → String
  | .stretch => "stretch"
  | .tensorflowAspect => "tf_keep_aspect_ratio"
  | .mindsporeAspect => "ms_keep_aspect_ratio"
  | .mindsporeYolo4 => "ms_yolov4"

/-- The way of resizing that has a name. -/
def Resizing.ofName? : String → Option Resizing
  | "stretch" => some .stretch
  | "tf_keep_aspect_ratio" => some .tensorflowAspect
  | "ms_keep_aspect_ratio" => some .mindsporeAspect
  | "ms_yolov4" => some .mindsporeYolo4
  | _ => none

/-- Names are read as they are written. -/
@[simp] theorem Resizing.ofName?_name (r : Resizing) : ofName? r.name = some r := by
  cases r <;> rfl

/-- An area of a picture, in pixels. -/
structure CropArea where
  /-- The first column. -/
  left : Nat
  /-- The first row. -/
  top : Nat
  /-- The column behind the last. -/
  right : Nat
  /-- The row below the last. -/
  bottom : Nat
deriving DecidableEq, Repr

/-- A picture, as far as the mapping of results to it needs to know it. -/
structure Picture where
  /-- The width of the model's input. -/
  resizedWidth : Nat
  /-- The height of the model's input. -/
  resizedHeight : Nat
  /-- The width of the picture. -/
  width : Nat
  /-- The height of the picture. -/
  height : Nat
  /-- How the picture was fitted to the model's input. -/
  resizing : Resizing
  /-- The factor applied where the aspect ratio was kept. -/
  scaling : Float32
  /-- The area of the picture that was used, if not all of it. -/
  crop : Option CropArea
deriving DecidableEq

/-- The sizes that a decoder works with. -/
structure Extent where
  /-- The width of the model's input. -/
  modelWidth : Nat
  /-- The height of the model's input. -/
  modelHeight : Nat
  /-- The width of the picture or of its cropped area. -/
  pictureWidth : Nat
  /-- The height of the picture or of its cropped area. -/
  pictureHeight : Nat
deriving DecidableEq, Repr

namespace CropArea

/-- Whether an area lies within the bound of pictures and ends no earlier than it begins. -/
def check (c : CropArea) : Except PictureFault Unit :=
  if maxEdge < c.left ∨ maxEdge < c.top ∨ maxEdge < c.right ∨ maxEdge < c.bottom then
    .error .cropSize
  else if c.right < c.left ∨ c.bottom < c.top then
    .error .cropOrder
  else
    .ok ()

end CropArea

namespace Picture

/-- The first thing wrong with a picture, if there is any. -/
def check (p : Picture) : Except PictureFault Unit :=
  if maxEdge < p.resizedWidth ∨ maxEdge < p.resizedHeight then
    .error .resizedSize
  else if maxEdge < p.width ∨ maxEdge < p.height then
    .error .pictureSize
  else
    match p.crop with
    | none => .ok ()
    | some crop => crop.check

/-- The width of what was used of a picture. -/
def usedWidth (p : Picture) : Nat :=
  match p.crop with
  | none => p.width
  | some crop => crop.right - crop.left

/-- The height of what was used of a picture. -/
def usedHeight (p : Picture) : Nat :=
  match p.crop with
  | none => p.height
  | some crop => crop.bottom - crop.top

/-- The sizes of a picture, if nothing is wrong with it. -/
def extent (p : Picture) : Except Fault Extent :=
  match p.check with
  | .error fault => .error (.picture fault)
  | .ok () => .ok ⟨p.resizedWidth, p.resizedHeight, p.usedWidth, p.usedHeight⟩

/-- The column at which the used area begins. -/
def offsetX (p : Picture) : Nat :=
  match p.crop with
  | none => 0
  | some crop => crop.left

/-- The row at which the used area begins. -/
def offsetY (p : Picture) : Nat :=
  match p.crop with
  | none => 0
  | some crop => crop.top

end Picture

namespace Extent

/-- Decoding divides by the extents of the model's input, so neither may be zero. -/
def checkModel (e : Extent) : Except Fault Unit :=
  if e.modelWidth = 0 ∨ e.modelHeight = 0 then .error (.picture .zeroModel) else .ok ()

end Extent

end Detection
