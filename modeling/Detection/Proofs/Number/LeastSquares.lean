/-
# The line of least squares

Read without rounding, the line that is fitted to points solves both normal equations as soon as
the abscissae spread: its residuals add up to zero, and so do their products with the abscissae.
So no other line comes as close to the points.  The squared error of any line is that of the
fitted line and the squared distance of the two lines over the abscissae, and only the same line
is at no distance.

## Main definitions

* `Line.residual`, `Line.squaredError`: what a line misses one point by, and all of them.
* `Line.SolvesNormalEquations`: the residuals of points are in balance.
* `Line.IsLeastSquares`: every other line misses the points by more.
* `Line.squaredDistance`: how far two lines are apart over some abscissae.

The main result is `Line.isLeastSquares_fit`.
-/
import Detection.Proofs.Number.Exact
import Mathlib.Algebra.BigOperators.Ring.List
import Mathlib.Algebra.Order.BigOperators.Group.List
import Mathlib.Tactic.LinearCombination

namespace Detection

namespace Line

variable {line other : Line ℚ} {points : List (ℚ × ℚ)} {xs ys : List ℚ}

/-! ## Residuals -/

/-- How far a point is above a line. -/
def residual (line : Line ℚ) (point : ℚ × ℚ) : ℚ :=
  point.2 - line.eval point.1

/-- The sum of the squared residuals of points. -/
def squaredError (line : Line ℚ) (points : List (ℚ × ℚ)) : ℚ :=
  (points.map fun point => line.residual point ^ 2).sum

/-- The residuals of points are in balance, by themselves and about the ordinate axis. -/
structure SolvesNormalEquations (line : Line ℚ) (points : List (ℚ × ℚ)) : Prop where
  /-- The residuals add up to zero. -/
  sum_residual_eq_zero : (points.map line.residual).sum = 0
  /-- So do their products with the abscissae. -/
  sum_mul_residual_eq_zero : (points.map fun point => point.1 * line.residual point).sum = 0

/-- No line has a smaller squared error, and no other line has the same. -/
structure IsLeastSquares (line : Line ℚ) (points : List (ℚ × ℚ)) : Prop where
  squaredError_le (other : Line ℚ) : line.squaredError points ≤ other.squaredError points
  eq_of_squaredError_eq (other : Line ℚ) :
    other.squaredError points = line.squaredError points → other = line

lemma eval_eq (line : Line ℚ) (x : ℚ) : line.eval x = line.slope * x + line.intercept :=
  rfl

/-- Residuals with weights, in terms of weighted sums of the points. -/
lemma sum_mul_residual (line : Line ℚ) (weight : ℚ × ℚ → ℚ) (points : List (ℚ × ℚ)) :
    (points.map fun point => weight point * line.residual point).sum =
      (points.map fun point => weight point * point.2).sum -
        (line.slope * (points.map fun point => weight point * point.1).sum +
          line.intercept * (points.map weight).sum) := by
  have hexpand (point : ℚ × ℚ) : weight point * line.residual point =
      weight point * point.2 +
        (-line.slope * (weight point * point.1) + -line.intercept * weight point) := by
    rw [residual, eval_eq]
    ring
  simp only [hexpand, List.sum_map_add, List.sum_map_mul_left]
  ring

/-- The normal equations in terms of sums of the points alone. -/
lemma solvesNormalEquations_iff :
    line.SolvesNormalEquations points ↔
      (points.map Prod.snd).sum =
          line.slope * (points.map Prod.fst).sum + line.intercept * points.length ∧
        (points.map fun point => point.1 * point.2).sum =
          line.slope * (points.map fun point => point.1 * point.1).sum +
            line.intercept * (points.map Prod.fst).sum := by
  have hsum : (points.map line.residual).sum = (points.map Prod.snd).sum -
      (line.slope * (points.map Prod.fst).sum + line.intercept * points.length) := by
    simpa using sum_mul_residual line (fun _ => 1) points
  have hmul := sum_mul_residual line Prod.fst points
  constructor
  · rintro ⟨hzero, hzero'⟩
    exact ⟨sub_eq_zero.1 (hsum.symm.trans hzero), sub_eq_zero.1 (hmul.symm.trans hzero')⟩
  · rintro ⟨heq, heq'⟩
    exact ⟨hsum.trans (sub_eq_zero.2 heq), hmul.trans (sub_eq_zero.2 heq')⟩

/-! ## Abscissae that spread -/

lemma spread_eq (xs : List ℚ) :
    spread xs = xs.length * (xs.map fun x => x * x).sum - xs.sum * xs.sum :=
  spread_ofField xs

lemma spread_pos (hspread : 1e-15 ≤ spread xs) : 0 < spread xs :=
  lt_of_lt_of_le (by norm_num) hspread

lemma ne_nil_of_spread_pos (hspread : 0 < spread xs) : xs ≠ [] := by
  rintro rfl
  rw [spread_eq] at hspread
  simp at hspread

lemma length_ne_zero_of_spread_pos (hspread : 0 < spread xs) : (xs.length : ℚ) ≠ 0 := by
  rw [Nat.cast_ne_zero, Ne, List.length_eq_zero_iff]
  exact ne_nil_of_spread_pos hspread

/-! ## The distance of two lines -/

/-- The sum of the squared distances of two lines at some abscissae. -/
def squaredDistance (line other : Line ℚ) (xs : List ℚ) : ℚ :=
  (xs.map fun x => (line.eval x - other.eval x) ^ 2).sum

lemma squaredDistance_nonneg (line other : Line ℚ) (xs : List ℚ) :
    0 ≤ line.squaredDistance other xs := by
  refine List.sum_nonneg fun square hsquare => ?_
  obtain ⟨x, -, rfl⟩ := List.mem_map.1 hsquare
  exact sq_nonneg _

/-- With the square completed, the distance is that of the mean ordinates and that of the slopes,
the latter in proportion to the spread. -/
lemma length_mul_squaredDistance (line other : Line ℚ) (xs : List ℚ) :
    xs.length * line.squaredDistance other xs =
      (xs.length * (line.intercept - other.intercept) +
          (line.slope - other.slope) * xs.sum) ^ 2 +
        (line.slope - other.slope) ^ 2 * spread xs := by
  have hexpand (x : ℚ) : (line.eval x - other.eval x) ^ 2 =
      (line.slope - other.slope) ^ 2 * (x * x) +
        (2 * (line.slope - other.slope) * (line.intercept - other.intercept) * x +
          (line.intercept - other.intercept) ^ 2 * 1) := by
    rw [eval_eq, eval_eq]
    ring
  have hlinear (c : ℚ) : (xs.map fun x => c * x).sum = c * xs.sum := by
    rw [List.sum_map_mul_left xs (fun x => x), List.map_id']
  have hcount : (xs.map fun _ => (1 : ℚ)).sum = xs.length := by simp
  rw [squaredDistance, spread_eq]
  simp only [hexpand, List.sum_map_add, List.sum_map_mul_left, hlinear, hcount]
  ring

/-- Over abscissae that spread, only the same line is at no distance. -/
lemma eq_of_squaredDistance_eq_zero (hspread : 0 < spread xs)
    (hzero : line.squaredDistance other xs = 0) : line = other := by
  obtain ⟨slope, intercept⟩ := line
  obtain ⟨slope', intercept'⟩ := other
  have hsquares := length_mul_squaredDistance ⟨slope, intercept⟩ ⟨slope', intercept'⟩ xs
  rw [hzero, mul_zero, eq_comm,
    add_eq_zero_iff_of_nonneg (sq_nonneg _) (mul_nonneg (sq_nonneg _) hspread.le)] at hsquares
  obtain ⟨hmeans, hslopes⟩ := hsquares
  have hslope : slope = slope' := by
    rw [mul_eq_zero, or_iff_left hspread.ne', sq_eq_zero_iff, sub_eq_zero] at hslopes
    exact hslopes
  subst hslope
  -- The mean ordinates of two lines of the same slope differ as the intercepts do.
  have hintercept : intercept = intercept' := by
    rw [sq_eq_zero_iff, sub_self, zero_mul, add_zero, mul_eq_zero,
      or_iff_right (length_ne_zero_of_spread_pos hspread), sub_eq_zero] at hmeans
    exact hmeans
  rw [hintercept]

/-! ## Least squares -/

/-- The residuals of a line that solves the normal equations are perpendicular to what any other
line differs from it by, so that the squares add up. -/
lemma SolvesNormalEquations.squaredError_eq (h : line.SolvesNormalEquations points)
    (other : Line ℚ) :
    other.squaredError points =
      line.squaredError points + line.squaredDistance other (points.map Prod.fst) := by
  have hexpand (point : ℚ × ℚ) : other.residual point ^ 2 =
      line.residual point ^ 2 + ((line.eval point.1 - other.eval point.1) ^ 2 +
        (2 * (line.slope - other.slope) * (point.1 * line.residual point) +
          2 * (line.intercept - other.intercept) * line.residual point)) := by
    rw [residual, residual, eval_eq, eval_eq]
    ring
  have hdistance : (points.map fun point => (line.eval point.1 - other.eval point.1) ^ 2).sum =
      line.squaredDistance other (points.map Prod.fst) := by
    rw [squaredDistance, List.map_map]
    rfl
  rw [squaredError]
  simp only [hexpand, List.sum_map_add, List.sum_map_mul_left, h.sum_residual_eq_zero,
    h.sum_mul_residual_eq_zero, hdistance, mul_zero, add_zero]
  rfl

/-- Over abscissae that spread, a solution of the normal equations is the line of least squares. -/
lemma SolvesNormalEquations.isLeastSquares (h : line.SolvesNormalEquations points)
    (hspread : 0 < spread (points.map Prod.fst)) : line.IsLeastSquares points where
  squaredError_le other := by
    rw [h.squaredError_eq other]
    exact le_add_of_nonneg_right (squaredDistance_nonneg _ _ _)
  eq_of_squaredError_eq other heq := by
    rw [h.squaredError_eq other, add_eq_left] at heq
    exact (eq_of_squaredDistance_eq_zero hspread heq).symm

/-! ## The fitted line -/

/-- The closed formulas without their quotients. -/
lemma fit_mul_eq (hlength : xs.length = ys.length) (hspread : 1e-15 ≤ spread xs) :
    (fit xs ys).slope * spread xs =
        xs.length * (List.zipWith (· * ·) xs ys).sum - xs.sum * ys.sum ∧
      (fit xs ys).intercept * xs.length = ys.sum - (fit xs ys).slope * xs.sum := by
  have hpos : 0 < spread xs := spread_pos hspread
  have hfit : fit xs ys = _ :=
    fit_ofField (ne_nil_of_spread_pos hpos) hlength (hspread.trans (le_abs_self _))
  rw [hfit]
  constructor
  · exact div_mul_cancel₀ _ hpos.ne'
  · exact div_mul_cancel₀ _ (length_ne_zero_of_spread_pos hpos)

lemma solvesNormalEquations_fit (hlength : xs.length = ys.length)
    (hspread : 1e-15 ≤ spread xs) : (fit xs ys).SolvesNormalEquations (xs.zip ys) := by
  have hpos : 0 < spread xs := spread_pos hspread
  have hxs : (xs.zip ys).map Prod.fst = xs := List.map_fst_zip hlength.le
  have hys : (xs.zip ys).map Prod.snd = ys := List.map_snd_zip hlength.ge
  have hcount : (xs.zip ys).length = xs.length := by rw [← List.length_map Prod.fst, hxs]
  have hproducts : ((xs.zip ys).map fun point => point.1 * point.2) =
      List.zipWith (· * ·) xs ys :=
    List.map_zip_eq_zipWith
  have hsquares : ((xs.zip ys).map fun point => point.1 * point.1) = xs.map fun x => x * x := by
    rw [← congrArg (List.map fun x => x * x) hxs, List.map_map]
    rfl
  obtain ⟨hslope, hintercept⟩ := fit_mul_eq hlength hspread
  rw [spread_eq] at hslope
  rw [solvesNormalEquations_iff, hxs, hys, hcount, hproducts, hsquares]
  constructor
  · linear_combination -hintercept
  · refine mul_left_cancel₀ (length_ne_zero_of_spread_pos hpos) ?_
    linear_combination -hslope - xs.sum * hintercept

/-- **The fitted line is the line of least squares.**  Without rounding, the residuals of points
whose abscissae spread are in balance about the line that is fitted to them.  No line has a
smaller squared error, and no other line has the same. -/
theorem isLeastSquares_fit (hlength : xs.length = ys.length)
    (hspread : 1e-15 ≤ xs.length * (xs.map fun x => x ^ 2).sum - xs.sum ^ 2) :
    (fit xs ys).SolvesNormalEquations (xs.zip ys) ∧ (fit xs ys).IsLeastSquares (xs.zip ys) := by
  have hspread' : 1e-15 ≤ spread xs := by
    rw [spread_eq]
    simpa only [sq] using hspread
  have hxs : (xs.zip ys).map Prod.fst = xs := List.map_fst_zip hlength.le
  have hpos : 0 < spread ((xs.zip ys).map Prod.fst) := by
    rw [hxs]
    exact spread_pos hspread'
  have hsolves := solvesNormalEquations_fit hlength hspread'
  exact ⟨hsolves, hsolves.isLeastSquares hpos⟩

/-- The abscissae of three points, two of them above each other. -/
def forkAbscissae : List ℚ := [0, 2, 2]

/-- Their ordinates. -/
def forkOrdinates : List ℚ := [1, 0, 4]

/-- No line goes through all points of the fork, and two of them are missed by two units. -/
theorem isLeastSquares_fit_fork :
    forkAbscissae.length = forkOrdinates.length ∧
      1e-15 ≤ forkAbscissae.length * (forkAbscissae.map fun x => x ^ 2).sum -
        forkAbscissae.sum ^ 2 ∧
      (fit forkAbscissae forkOrdinates).slope = 1 / 2 ∧
      (fit forkAbscissae forkOrdinates).intercept = 1 ∧
      (fit forkAbscissae forkOrdinates).squaredError (forkAbscissae.zip forkOrdinates) = 8 ∧
      (fit forkAbscissae forkOrdinates).SolvesNormalEquations (forkAbscissae.zip forkOrdinates) ∧
      (fit forkAbscissae forkOrdinates).IsLeastSquares (forkAbscissae.zip forkOrdinates) := by
  have hspread : (1e-15 : ℚ) ≤ forkAbscissae.length * (forkAbscissae.map fun x => x ^ 2).sum -
      forkAbscissae.sum ^ 2 := by
    decide +kernel
  exact ⟨rfl, hspread, by decide +kernel, by decide +kernel, by decide +kernel,
    isLeastSquares_fit rfl hspread⟩

end Line

end Detection
