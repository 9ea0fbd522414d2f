/-
# The straight line of least squares

A line is fitted to points given as two lists, abscissae and ordinates.  The sums are taken in
the order of the lists, which matters in floating point.
-/
import Detection.Number.Scalar

namespace Detection

/-- A straight line, not vertical. -/
structure Line (α : Type) where
  /-- The rise per unit of abscissa. -/
  slope : α
  /-- The ordinate at abscissa zero. -/
  intercept : α

namespace Line

variable {α : Type} [Scalar α]

/-- The ordinate of a line at an abscissa. -/
def eval (line : Line α) (x : α) : α :=
  line.slope * x + line.intercept

/-- `n` times the sum of squared abscissae less the square of their sum: the common
denominator of the two normal equations, zero when all abscissae agree. -/
def spread (xs : List α) : α :=
  let total := Scalar.sum xs
  Scalar.ofNat xs.length * Scalar.sum (xs.map fun x => x * x) - total * total

/-- The line of least squares through the points `(xs i, ys i)`.

Without points, or with lists of different lengths, it is the level line at zero; where the
abscissae do not spread, it is the level line at the mean ordinate. -/
def fit (xs ys : List α) : Line α :=
  if xs.isEmpty || xs.length != ys.length then
    ⟨0.0, 0.0⟩
  else
    let n := Scalar.ofNat xs.length
    let sumX := Scalar.sum xs
    let sumY := Scalar.sum ys
    let sumXY := Scalar.sum (List.zipWith (· * ·) xs ys)
    let denominator := spread xs
    if Scalar.isMinute denominator then
      ⟨0.0, sumY / n⟩
    else
      let slope := (n * sumXY - sumX * sumY) / denominator
      ⟨slope, (sumY - slope * sumX) / n⟩

/-- The line of least squares through 32-bit points, computed in 64 bits. -/
def fit32 (xs ys : List Float32) : Line Float :=
  fit (xs.map widen) (ys.map widen)

/-- The ordinate at a 32-bit abscissa, computed in 64 bits and then rounded. -/
def eval32 (line : Line Float) (x : Float32) : Float32 :=
  narrow (line.eval (widen x))

end Line

end Detection
