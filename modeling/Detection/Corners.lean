/-
# Rectangles by their corners

Abscissae grow to the right and ordinates downwards, as in pictures.
-/
import Detection.Number.Scalar

namespace Detection

/-- A rectangle with sides along the axes, given by its upper left and lower right corner.
Nothing forces the corners into that order. -/
structure Corners (α : Type) where
  /-- The abscissa of the upper left corner. -/
  left : α
  /-- The ordinate of the upper left corner. -/
  top : α
  /-- The abscissa of the lower right corner. -/
  right : α
  /-- The ordinate of the lower right corner. -/
  bottom : α
deriving DecidableEq

/-- A quadrilateral by its corners: upper left, upper right, lower right, lower left. -/
structure Quad (α : Type) where
  /-- The abscissa of the upper left corner. -/
  x0 : α
  /-- The ordinate of the upper left corner. -/
  y0 : α
  /-- The abscissa of the upper right corner. -/
  x1 : α
  /-- The ordinate of the upper right corner. -/
  y1 : α
  /-- The abscissa of the lower right corner. -/
  x2 : α
  /-- The ordinate of the lower right corner. -/
  y2 : α
  /-- The abscissa of the lower left corner. -/
  x3 : α
  /-- The ordinate of the lower left corner. -/
  y3 : α
deriving DecidableEq

namespace Corners

/-- The four coordinates, from the left one clockwise. -/
def toList {α : Type} (c : Corners α) : List α :=
  [c.left, c.top, c.right, c.bottom]

/-- A rectangle with every coordinate replaced. -/
def map {α β : Type} (f : α → β) (c : Corners α) : Corners β :=
  ⟨f c.left, f c.top, f c.right, f c.bottom⟩

variable {α : Type} [Scalar α]

/-- A rectangle enlarged by a factor along each axis. -/
def scale (c : Corners α) (x y : α) : Corners α :=
  ⟨c.left * x, c.top * y, c.right * x, c.bottom * y⟩

/-- A rectangle reduced by a factor along each axis. -/
def unscale (c : Corners α) (x y : α) : Corners α :=
  ⟨c.left / x, c.top / y, c.right / x, c.bottom / y⟩

/-- A rectangle moved by a distance along each axis. -/
def shift (c : Corners α) (x y : α) : Corners α :=
  ⟨c.left + x, c.top + y, c.right + x, c.bottom + y⟩

/-- A rectangle moved back by a distance along each axis. -/
def unshift (c : Corners α) (x y : α) : Corners α :=
  ⟨c.left - x, c.top - y, c.right - x, c.bottom - y⟩

/-- The quadrilateral with the corners of a rectangle. -/
def toQuad (c : Corners α) : Quad α :=
  ⟨c.left, c.top, c.right, c.top, c.right, c.bottom, c.left, c.bottom⟩

end Corners

namespace Quad

/-- A quadrilateral with every abscissa and every ordinate replaced. -/
def map {α β : Type} (f g : α → β) (q : Quad α) : Quad β :=
  ⟨f q.x0, g q.y0, f q.x1, g q.y1, f q.x2, g q.y2, f q.x3, g q.y3⟩

end Quad

end Detection
