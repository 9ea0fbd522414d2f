/-
# What a detection finds

An object is a rectangle with a class; a line of text is a quadrilateral.  Both carry how
certain the finding is.
-/
import Detection.Box.Suppression
import Detection.Picture.Basic

namespace Detection

/-- A detected object. -/
structure DetectedObject where
  /-- Where it is. -/
  corners : Corners Float32
  /-- How certain it is. -/
  confidence : Float32
  /-- What it is. -/
  classId : Nat
deriving DecidableEq

/-- A detected line of text. -/
structure TextLine where
  /-- Where it is. -/
  quad : Quad Float32
  /-- How certain it is. -/
  confidence : Float32
deriving DecidableEq

namespace DetectedObject

/-- The candidate box of an object. -/
def toBox (o : DetectedObject) : Box :=
  .ofCorners o.corners o.classId o.confidence

/-- The object of a candidate box, its upper left corner kept from falling below zero and its
lower right corner from exceeding one. -/
def ofBox (b : Box) : DetectedObject where
  corners :=
    { left := greatest32 b.corners.left 0.0
      top := greatest32 b.corners.top 0.0
      right := least32 b.corners.right 1.0
      bottom := least32 b.corners.bottom 1.0 }
  confidence := b.score
  classId := b.classId

/-- Whether a coordinate can belong to a picture, judged by its integer part. -/
def isOnPicture (coordinate : Float32) : Bool :=
  coordinate.isFinite &&
    0 ≤ wholePart32 coordinate && wholePart32 coordinate ≤ (maxEdge : Int)

/-- The objects that remain when each class is gone through by falling confidence.  No
coordinate may be off every picture. -/
def suppress (measure : OverlapMeasure) (threshold : Float32) (objects : List DetectedObject) :
    Except Fault (List DetectedObject) :=
  if objects.all fun o => o.corners.toList.all isOnPicture then
    .ok ((Box.suppress measure threshold (objects.map toBox)).map ofBox)
  else
    .error .objectPlace

end DetectedObject

end Detection
