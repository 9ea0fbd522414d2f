/-
# Slanted quadrilaterals

The middles of the rectangles of a line of text are fitted by a straight line.  A strip of the
mean height of the rectangles, and a little more, is laid along it, and its ends are cut off
at right angles.  The formulas are written over any kind of number with square roots.
-/
import Detection.Corners
import Detection.Number.Line

namespace Detection
namespace Ctpn

variable {α : Type} [RootScalar α]

/-- The mean of a list of numbers. -/
def mean (values : List α) : α :=
  Scalar.sum values / Scalar.ofNat values.length

/-- The quadrilateral along a line between two abscissae, for a strip of a given height.  The
edges above and below the line are moved along it until they meet the ends at right angles.
There is none where the strip has no length. -/
def quadAlong (line : Line α) (height left right : α) : Option (Quad α) :=
  let above := line.intercept - height * 0.5
  let below := line.intercept + height * 0.5
  let y1 := line.slope * left + above
  let y2 := line.slope * right + above
  let y3 := line.slope * left + below
  let y4 := line.slope * right + below
  let run := Scalar.abs (right - left)
  let rise := Scalar.abs (y2 - y1)
  let length := RootScalar.sqrt (run * run + rise * rise)
  if Scalar.isMinute length then
    none
  else
    let shift := (y3 - y1) * rise / length
    let x := Scalar.abs (shift * run / length)
    let y := Scalar.abs (shift * rise / length)
    if line.slope < 0.0 then
      some ⟨left - x, y1 + y, right, y2, right + x, y4 - y, left, y3⟩
    else
      some ⟨left, y1, right + x, y2 + y, right, y4, left - x, y3 - y⟩

/-- The quadrilateral along the line of least squares through the middles of rectangles,
between two abscissae.  The strip is two and a half units higher than the rectangles are on
average. -/
def slantedQuad (middleXs middleYs heights : List α) (left right : α) : Option (Quad α) :=
  quadAlong (Line.fit middleXs middleYs) (mean heights + 2.5) left right

/-- The slanted quadrilateral of rectangles, between two abscissae.  Middles and heights are taken
in the numbers of the rectangles, and everything else in those that they are converted to. -/
def quadAround {β : Type} [Scalar β] (convert : β → α) (corners : List (Corners β))
    (left right : β) : Option (Quad α) :=
  slantedQuad (corners.map fun c => convert ((c.left + c.right) * 0.5))
    (corners.map fun c => convert ((c.top + c.bottom) * 0.5))
    (corners.map fun c => convert (c.bottom - c.top)) (convert left) (convert right)

end Ctpn
end Detection
