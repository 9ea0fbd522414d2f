/-
# From model coordinates to the picture and back

The results of a model are in the coordinates of its input.  A mapping holds the scale of each
axis, the place of the used area on the picture and, where the aspect ratio was kept, the
extent that results are cut to.  It is written over any kind of number, see
`Detection.Number.Scalar`.

## Main definitions

* `Mapping.ofExtent?`: the mapping that belongs to a way of resizing.
* `Mapping.reduce?`, `Mapping.forward?`: to the used area, and to the picture.
* `Mapping.backward`: from the picture to the model, without restoring what was cut.
* `Picture.place`, `Picture.unplace`: lists of results mapped for a picture, over any kind of
  number.
* `toPicture`, `fromPicture`, `textToPicture`: the same in floating point.
-/
import Detection.Object

namespace Detection

/-- How coordinates of the model's input become coordinates of a picture. -/
structure Mapping (α : Type) where
  /-- The pixels for a unit of abscissa. -/
  scaleX : α
  /-- The pixels for a unit of ordinate. -/
  scaleY : α
  /-- The column at which the used area begins. -/
  offsetX : α
  /-- The row at which the used area begins. -/
  offsetY : α
  /-- The width and height that rectangles are cut to, if they are. -/
  cut : Option (α × α)

namespace Mapping

variable {α : Type} [Scalar α]

/-- The mapping for a way of resizing.  Stretched results are fractions of the used area;
where the aspect ratio was kept they are fractions of the model's input, which the scaling
factor relates to the picture. -/
def ofExtent? (extent : Extent) (resizing : Resizing) (scaling offsetX offsetY : α) :
    Except Fault (Mapping α) :=
  let width : α := Scalar.ofNat extent.pictureWidth
  let height : α := Scalar.ofNat extent.pictureHeight
  if resizing.keepsAspect then
    if Scalar.isTiny scaling then
      .error (.picture .zeroScaling)
    else
      .ok
        { scaleX := Scalar.ofNat extent.modelWidth / scaling
          scaleY := Scalar.ofNat extent.modelHeight / scaling
          offsetX := offsetX
          offsetY := offsetY
          cut := some (width, height) }
  else
    .ok { scaleX := width, scaleY := height, offsetX := offsetX, offsetY := offsetY, cut := none }

/-- A rectangle on the used area.  Where rectangles are cut, one that begins beyond the area
is dropped, and no coordinate is left outside. -/
def reduce? (m : Mapping α) (c : Corners α) : Option (Corners α) :=
  let scaled := c.scale m.scaleX m.scaleY
  match m.cut with
  | none => some scaled
  | some (width, height) =>
    let low := scaled.map fun x => Scalar.greatest x 0.0
    if width < low.left ∨ height < low.top then
      none
    else
      some
        { left := low.left
          top := low.top
          right := Scalar.least low.right width
          bottom := Scalar.least low.bottom height }

/-- A rectangle on the picture, or nothing if it is dropped. -/
def forward? (m : Mapping α) (c : Corners α) : Option (Corners α) :=
  (m.reduce? c).map fun reduced => reduced.shift m.offsetX m.offsetY

/-- A rectangle of the picture in the coordinates of the model. -/
def backward (m : Mapping α) (c : Corners α) : Corners α :=
  (c.unshift m.offsetX m.offsetY).unscale m.scaleX m.scaleY

/-- Whether the mapping can be undone. -/
def isInvertible (m : Mapping α) : Bool :=
  !Scalar.isTiny m.scaleX && !Scalar.isTiny m.scaleY

end Mapping

/-! ## Mapping results -/

/-- Results that have a rectangle, over numbers of a kind. -/
class HasCorners (ω : Type) (α : outParam Type) where
  /-- The rectangle of a result. -/
  corners : ω → Corners α
  /-- A result with another rectangle. -/
  withCorners : ω → Corners α → ω

section

variable {ω α : Type}

/-- Results with their rectangles replaced, less those whose rectangle is dropped. -/
def replaceCorners [HasCorners ω α] (f : Corners α → Option (Corners α)) (results : List ω) :
    List ω :=
  results.filterMap fun o => (f (HasCorners.corners o)).map fun c => HasCorners.withCorners o c

namespace Picture

variable [Scalar α]

/-- The mapping that belongs to a picture, for a factor of any kind of number. -/
def mappingBy (p : Picture) (scaling : α) : Except Fault (Mapping α) := do
  let extent ← p.extent
  Mapping.ofExtent? extent p.resizing scaling (Scalar.ofNat p.offsetX) (Scalar.ofNat p.offsetY)

/-- Results in the coordinates of the model, on a picture. -/
def place [HasCorners ω α] (p : Picture) (scaling : α) (results : List ω) :
    Except Fault (List ω) := do
  let mapping ← p.mappingBy scaling
  return replaceCorners mapping.forward? results

/-- Results on a picture, in the coordinates of the model. -/
def unplace [HasCorners ω α] (p : Picture) (scaling : α) (results : List ω) :
    Except Fault (List ω) := do
  let mapping ← p.mappingBy scaling
  if mapping.isInvertible then
    return replaceCorners (fun c => some (mapping.backward c)) results
  else
    throw (.picture .zeroExtent)

end Picture

end

instance : HasCorners DetectedObject Float32 where
  corners o := o.corners
  withCorners o c := { o with corners := c }

/-- Objects with their rectangles replaced, less those whose rectangle is dropped. -/
def DetectedObject.mapCorners (f : Corners Float32 → Option (Corners Float32))
    (objects : List DetectedObject) : List DetectedObject :=
  replaceCorners f objects

/-- The mapping that belongs to a picture. -/
def Picture.mapping (p : Picture) : Except Fault (Mapping Float32) :=
  p.mappingBy p.scaling

/-- Objects on the used area of a picture. -/
def reduceObjects (extent : Extent) (resizing : Resizing) (scaling : Float32)
    (objects : List DetectedObject) : Except Fault (List DetectedObject) := do
  let mapping ← Mapping.ofExtent? extent resizing scaling 0.0 0.0
  return DetectedObject.mapCorners mapping.reduce? objects

/-- Objects in the coordinates of the model, on the picture. -/
def toPicture (p : Picture) (objects : List DetectedObject) :
    Except Fault (List DetectedObject) :=
  p.place p.scaling objects

/-- Objects on the picture, in the coordinates of the model. -/
def fromPicture (p : Picture) (objects : List DetectedObject) :
    Except Fault (List DetectedObject) :=
  p.unplace p.scaling objects

/-- Lines of text in pixels of the model's input, on the picture. -/
def textToPicture (p : Picture) (lines : List TextLine) : Except Fault (List TextLine) := do
  let extent ← p.extent
  extent.checkModel
  let scaleX := Float32.ofNat extent.pictureWidth / Float32.ofNat extent.modelWidth
  let scaleY := Float32.ofNat extent.pictureHeight / Float32.ofNat extent.modelHeight
  let toX (x : Float32) := x * scaleX + Float32.ofNat p.offsetX
  let toY (y : Float32) := y * scaleY + Float32.ofNat p.offsetY
  return lines.map fun line => { line with quad := line.quad.map toX toY }

end Detection
