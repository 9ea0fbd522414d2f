/-
# Numbers that a formula can be evaluated in

The line fit, the slanted text quadrilateral and the map between model and image coordinates
are written once, over any kind of number with the operations below.  The program evaluates
them in floating point; an exact reading evaluates the same formulas in the rationals or the
reals.
-/
import Detection.Number.Binary

namespace Detection

/-- The operations that the geometric formulas use. -/
class Scalar (α : Type) extends Add α, Sub α, Mul α, Div α, OfScientific α, LT α where
  /-- The comparison of two numbers can be decided. -/
  decideLT : ∀ a b : α, Decidable (a < b)
  /-- A natural number as a number of this kind. -/
  ofNat : Nat → α
  /-- The magnitude of a number. -/
  abs : α → α
  /-- The smaller of two numbers. -/
  least : α → α → α
  /-- The larger of two numbers. -/
  greatest : α → α → α

/-- Numbers that also have square roots. -/
class RootScalar (α : Type) extends Scalar α where
  /-- The square root of a number. -/
  sqrt : α → α

instance (priority := low) Scalar.decidableLT {α : Type} [Scalar α] (a b : α) :
    Decidable (a < b) :=
  Scalar.decideLT a b

instance : Scalar Float32 where
  decideLT a b := Float32.decLt a b
  ofNat := Float32.ofNat
  abs := Float32.abs
  least := least32
  greatest := greatest32

instance : RootScalar Float where
  decideLT a b := Float.decLt a b
  ofNat := Float.ofNat
  abs := Float.abs
  least := least64
  greatest := greatest64
  sqrt := Float.sqrt

namespace Scalar

variable {α : Type} [Scalar α]

/-- The sum of a list, added from the left. -/
def sum (values : List α) : α :=
  values.foldl (· + ·) 0.0

/-- A number kept between zero and a bound. -/
def clampBelow (value bound : α) : α :=
  greatest (least value bound) 0.0

/-- Whether a number is too close to zero to divide by in 32 bits. -/
def isTiny (value : α) : Bool :=
  abs value < 1e-6

/-- Whether a number is too close to zero to divide by in 64 bits. -/
def isMinute (value : α) : Bool :=
  abs value < 1e-15

end Scalar

end Detection
