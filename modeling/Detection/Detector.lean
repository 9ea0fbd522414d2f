/-
# Detectors of every family

A detector is built from settings, decodes the outputs of a network, and maps what it finds to
the picture that the outputs belong to.
-/
import Detection.Ctpn.Decoder
import Detection.FasterRcnn.Decoder
import Detection.Picture.Mapping
import Detection.Yolo.Decoder

namespace Detection

/-- The families of networks whose outputs can be decoded. -/
inductive Family where
  /-- Anchors on a grid of cells. -/
  | yolo
  /-- Proposed regions. -/
  | fasterRcnn
  /-- Linked proposals of text. -/
  | ctpn
deriving DecidableEq, Repr

namespace Family

/-- The name of a family. -/
def name : Family → String
  | .yolo => "yolo"
  | .fasterRcnn => "faster-rcnn"
  | .ctpn => "ctpn"

/-- The family of a name; capital letters do not matter. -/
def ofName? (text : String) : Option Family :=
  match String.ofList (Text.lower text.toList) with
  | "yolo" => some .yolo
  | "yolov3" => some .yolo
  | "faster-rcnn" => some .fasterRcnn
  | "fasterrcnn" => some .fasterRcnn
  | "faster_rcnn" => some .fasterRcnn
  | "ctpn" => some .ctpn
  | _ => none

/-- What is said about a name that no family has. -/
def unknownMessage (text : String) : String :=
  "未知的模型类型: " ++ String.ofList (Text.lower text.toList)

end Family

/-- What a detection finds. -/
inductive Findings where
  /-- Objects. -/
  | objects (found : List DetectedObject)
  /-- Lines of text. -/
  | texts (found : List TextLine)
deriving DecidableEq

/-- The number of findings. -/
def Findings.count : Findings → Nat
  | .objects found => found.length
  | .texts found => found.length

/-- A detector of any family. -/
inductive Detector where
  | yolo (detector : Yolo.Detector)
  | fasterRcnn (detector : FasterRcnn.Detector)
  | ctpn (detector : Ctpn.Detector)
deriving DecidableEq

namespace Detector

/-- The detector of a family that settings describe, checked against the shapes of a model's
outputs where these are known. -/
def build (family : Family) (s : Settings) (shapes : List (List Nat)) :
    Except Fault Detector :=
  match family with
  | .yolo => do
    return .yolo (← Yolo.Detector.build (← Yolo.Settings.ofSettings s) shapes)
  | .fasterRcnn => do
    return .fasterRcnn (← FasterRcnn.Detector.build (← FasterRcnn.Settings.ofSettings s) shapes)
  | .ctpn => do
    return .ctpn (← Ctpn.Detector.build (Ctpn.Settings.ofSettings s) shapes)

/-- The family of a detector. -/
def family : Detector → Family
  | .yolo _ => .yolo
  | .fasterRcnn _ => .fasterRcnn
  | .ctpn _ => .ctpn

/-- What the outputs of a network show, in the coordinates of the model. -/
def decode [Elementary] (d : Detector) (outputs : List Tensor) (extent : Extent) :
    Except Fault Findings :=
  match d with
  | .yolo detector => (detector.decode outputs extent).map .objects
  | .fasterRcnn detector => (detector.decode outputs extent).map .objects
  | .ctpn detector => (detector.decode outputs extent).map .texts

end Detector

/-- Findings in the coordinates of the model, on a picture. -/
def Findings.toPicture (picture : Picture) : Findings → Except Fault Findings
  | .objects found => (Detection.toPicture picture found).map .objects
  | .texts found => (textToPicture picture found).map .texts

/-- What a frame shows, on its picture. -/
def Detector.findings [Elementary] (d : Detector) (frame : Frame) : Except Fault Findings := do
  let extent ← frame.picture.extent
  let found ← d.decode frame.tensors extent
  found.toPicture frame.picture

end Detection
