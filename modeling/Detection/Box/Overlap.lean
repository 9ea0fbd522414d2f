/-
# How much two boxes overlap

The shared area of two boxes is put in relation to their union, to the larger or to the
smaller of them.  A fourth measure takes the relation to the union and subtracts how far the
centres lie apart, in units of the diagonal of the enclosing rectangle.
-/
import Detection.Box.Basic

namespace Detection

/-- What the shared area of two boxes is compared with. -/
inductive OverlapMeasure where
  /-- The area of the union. -/
  | union
  /-- The larger of the two areas. -/
  | larger
  /-- The smaller of the two areas. -/
  | smaller
  /-- The area of the union, less a penalty for the distance of the centres. -/
  | distance
deriving DecidableEq, Repr

namespace Box

/-- The area that two boxes share; boxes that do not even touch share none. -/
def sharedArea? (a b : Box) : Option Float32 :=
  let left := greatest32 a.corners.left b.corners.left
  let right := least32 a.corners.right b.corners.right
  let top := greatest32 a.corners.top b.corners.top
  let bottom := least32 a.corners.bottom b.corners.bottom
  if bottom < top || right < left then none else some ((right - left) * (bottom - top))

/-- The square of a number. -/
def square (x : Float32) : Float32 := x * x

/-- The squared diagonal of the smallest rectangle around two boxes. -/
def enclosingDiagonal (a b : Box) : Float32 :=
  let width := greatest32 a.corners.right b.corners.right - least32 a.corners.left b.corners.left
  let height :=
    greatest32 a.corners.bottom b.corners.bottom - least32 a.corners.top b.corners.top
  square width + square height

/-- The squared distance between the centres of two boxes. -/
def centreDistance (a b : Box) : Float32 :=
  square (a.x - b.x) + square (a.y - b.y)

/-- The overlap of two boxes that share a given area: zero when the area to compare it with
is too close to zero. -/
def overlapOfShared (measure : OverlapMeasure) (a b : Box) (shared : Float32) : Float32 :=
  let union := a.area + b.area - shared
  match measure with
  | .larger =>
    let reference := greatest32 a.area b.area
    if Scalar.isTiny reference then 0.0 else shared / reference
  | .smaller =>
    let reference := least32 a.area b.area
    if Scalar.isTiny reference then 0.0 else shared / reference
  | .union => if Scalar.isTiny union then 0.0 else shared / union
  | .distance =>
    let diagonal := enclosingDiagonal a b
    if Scalar.isTiny union || Scalar.isTiny diagonal then
      0.0
    else
      shared / union - centreDistance a b / diagonal

/-- The overlap of two boxes under a measure; zero for boxes that do not touch. -/
def overlap (measure : OverlapMeasure) (a b : Box) : Float32 :=
  match sharedArea? a b with
  | none => 0.0
  | some shared => overlapOfShared measure a b shared

end Box

end Detection
