/-
# Candidate boxes

A candidate is a rectangle given by its centre and its extents, with the class it was
assigned and the score of that assignment.
-/
import Detection.Corners

namespace Detection

/-- A scored candidate rectangle in centre form. -/
structure Box where
  /-- The abscissa of the centre. -/
  x : Float32
  /-- The ordinate of the centre. -/
  y : Float32
  /-- The extent along the abscissa. -/
  width : Float32
  /-- The extent along the ordinate. -/
  height : Float32
  /-- The class that the candidate was assigned to. -/
  classId : Nat
  /-- How certain the assignment is. -/
  score : Float32
deriving DecidableEq

namespace Box

/-- The box between two opposite corners, whichever way round they are given. -/
def ofCorners (c : Corners Float32) (classId : Nat) (score : Float32) : Box where
  x := (c.left + c.right) / 2.0
  y := (c.top + c.bottom) / 2.0
  width := (c.right - c.left).abs
  height := (c.bottom - c.top).abs
  classId := classId
  score := score

/-- The corners of a box. -/
def corners (b : Box) : Corners Float32 where
  left := b.x - b.width / 2.0
  top := b.y - b.height / 2.0
  right := b.x + b.width / 2.0
  bottom := b.y + b.height / 2.0

/-- The area of a box. -/
def area (b : Box) : Float32 :=
  b.width * b.height

/-- Whether a box has no proper extent or no proper place. -/
def isDegenerate (b : Box) : Bool :=
  !(0.0 < b.width && 0.0 < b.height) || !b.x.isFinite || !b.y.isFinite

end Box

end Detection
