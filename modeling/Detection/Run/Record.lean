/-
# Records of what was found

The record of a frame describes the picture and what was found on it, objects with their names
where labels are known.
-/
import Detection.Detector
import Detection.Json.Writing
import Detection.Labels

namespace Detection

/-- A count as a JSON value. -/
def Json.count (n : Nat) : Json :=
  .number (.integer n)

/-- A 32-bit number as a JSON value. -/
def Json.single (x : Float32) : Json :=
  .number (.single x)

/-- The record of a cropped area. -/
def CropArea.record (c : CropArea) : Json :=
  .object [("x0", .count c.left), ("y0", .count c.top), ("x1", .count c.right),
    ("y1", .count c.bottom)]

/-- The record of a picture. -/
def Picture.record (p : Picture) : Json :=
  .object [("width_resize", .count p.resizedWidth), ("height_resize", .count p.resizedHeight),
    ("width_original", .count p.width), ("height_original", .count p.height),
    ("resize_type", .string p.resizing.name), ("keep_aspect_ratio_scaling", .single p.scaling),
    ("crop", (p.crop.map CropArea.record).getD .null)]

/-- The name of a class as a member of a record, if it has one. -/
def labelMember (labels : Option Labels) (classId : Nat) : List (String × Json) :=
  match labels.bind fun l => l.name? classId with
  | some name => [("label", .string name)]
  | none => []

/-- The record of an object. -/
def DetectedObject.record (labels : Option Labels) (o : DetectedObject) : Json :=
  .object ([("x0", .single o.corners.left), ("y0", .single o.corners.top),
    ("x1", .single o.corners.right), ("y1", .single o.corners.bottom),
    ("confidence", .single o.confidence), ("class_id", .count o.classId)] ++
    labelMember labels o.classId)

/-- The record of a line of text. -/
def TextLine.record (t : TextLine) : Json :=
  .object [("x0", .single t.quad.x0), ("y0", .single t.quad.y0), ("x1", .single t.quad.x1),
    ("y1", .single t.quad.y1), ("x2", .single t.quad.x2), ("y2", .single t.quad.y2),
    ("x3", .single t.quad.x3), ("y3", .single t.quad.y3), ("confidence", .single t.confidence)]

/-- Findings as a member of a record. -/
def Findings.member (labels : Option Labels) : Findings → String × Json
  | .objects found => ("objects", .array (found.map (·.record labels)))
  | .texts found => ("texts", .array (found.map TextLine.record))

/-- The record of what was found on a picture. -/
def Findings.record (labels : Option Labels) (picture : Picture) (found : Findings) : Json :=
  .object [("image", picture.record), found.member labels]

end Detection
