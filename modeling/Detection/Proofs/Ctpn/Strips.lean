/-
# Strips along a line of text

Read without rounding, the slanted quadrilateral of a line of text is a rectangle: its upper and
lower edges go along the fitted line, whether that rises or falls, and its ends meet them at right
angles.

## Main definitions

* `Quad.corner`: the corners of a quadrilateral, as points of the plane.
* `Quad.IsLaidAlong`: the sides of a quadrilateral are those of a strip along a slope.
* `Quad.IsRectangleAlong`: a quadrilateral is a rectangle along a slope.
* `lengthOver`, `strip`: the length of a line, and what a strip along it comes to.
* `middleLine`, `meanHeight`: the fitted line and the mean height of rectangles.

The main results are `isRectangleAlong_slantedQuad` and `isRectangleAlong_quadAround`.
-/
import Mathlib.Analysis.InnerProductSpace.PiL2
import Detection.Ctpn.Slant
import Detection.Proofs.Number.Exact

namespace Detection

/-! ## Rectangles in the plane -/

namespace Quad

/-- The corners of a quadrilateral, as points of the plane. -/
noncomputable def corner (q : Quad ℝ) : Fin 4 → EuclideanSpace ℝ (Fin 2) :=
  ![!₂[q.x0, q.y0], !₂[q.x1, q.y1], !₂[q.x2, q.y2], !₂[q.x3, q.y3]]

/-- A quadrilateral is a rectangle whose upper and lower edges go along a slope. -/
structure IsRectangleAlong (slope : ℝ) (q : Quad ℝ) : Prop where
  /-- The upper and the lower edge are the same vector. -/
  upper_eq_lower : q.corner 1 - q.corner 0 = q.corner 2 - q.corner 3
  /-- It goes along the slope, to the right. -/
  exists_upper_eq : ∃ t : ℝ, 0 < t ∧ q.corner 1 - q.corner 0 = t • !₂[1, slope]
  /-- The left and the right edge are the same vector. -/
  left_eq_right : q.corner 3 - q.corner 0 = q.corner 2 - q.corner 1
  /-- It is perpendicular to the slope. -/
  inner_left_eq_zero : inner ℝ (q.corner 3 - q.corner 0) !₂[1, slope] = 0

/-- The sides of a quadrilateral are multiples of a direction and of its perpendicular. -/
structure IsLaidAlong (slope along across : ℝ) (q : Quad ℝ) : Prop where
  upper_eq : q.corner 1 - q.corner 0 = along • !₂[1, slope]
  lower_eq : q.corner 2 - q.corner 3 = along • !₂[1, slope]
  left_eq : q.corner 3 - q.corner 0 = across • !₂[-slope, 1]
  right_eq : q.corner 2 - q.corner 1 = across • !₂[-slope, 1]

section

variable {slope along across : ℝ} {q : Quad ℝ}

lemma point_sub_point_eq_iff {a b c d t v w : ℝ} :
    (!₂[a, b] - !₂[c, d] : EuclideanSpace ℝ (Fin 2)) = t • !₂[v, w] ↔
      a - c = t * v ∧ b - d = t * w := by
  rw [PiLp.ext_iff, Fin.forall_fin_two]
  rfl

lemma IsLaidAlong.isRectangleAlong (h : q.IsLaidAlong slope along across) (halong : 0 < along) :
    q.IsRectangleAlong slope where
  upper_eq_lower := h.upper_eq.trans h.lower_eq.symm
  exists_upper_eq := ⟨along, halong, h.upper_eq⟩
  left_eq_right := h.left_eq.trans h.right_eq.symm
  inner_left_eq_zero := by
    rw [h.left_eq, inner_smul_left]
    simp [PiLp.inner_apply]

lemma IsLaidAlong.dist_eq (h : q.IsLaidAlong slope along across) (hacross : 0 ≤ across) :
    dist (q.corner 0) (q.corner 3) = across * √(1 + slope ^ 2) := by
  rw [dist_comm, dist_eq_norm, h.left_eq, norm_smul, Real.norm_of_nonneg hacross,
    EuclideanSpace.norm_eq]
  simp [add_comm]

end

end Quad

/-! ## Strips -/

namespace Ctpn

section Shifts

variable {slope run height : ℝ}

/-- The length of a line over some abscissae. -/
noncomputable def lengthOver (slope run : ℝ) : ℝ :=
  √(run ^ 2 + (slope * run) ^ 2)

lemma lengthOver_nonneg : 0 ≤ lengthOver slope run :=
  Real.sqrt_nonneg _

lemma lengthOver_eq (hrun : 0 < run) : lengthOver slope run = √(1 + slope ^ 2) * run := by
  have hsquare : run ^ 2 + (slope * run) ^ 2 = (1 + slope ^ 2) * run ^ 2 := by ring
  rw [lengthOver, hsquare, Real.sqrt_mul (by positivity), Real.sqrt_sq hrun.le]

lemma lengthOver_mul_lengthOver :
    lengthOver slope run * lengthOver slope run = run ^ 2 * (1 + slope ^ 2) := by
  rw [lengthOver, Real.mul_self_sqrt (by positivity)]
  ring

/-- How far the ends are moved along the abscissae. -/
lemma shift_along_run (hrun : 0 < run) (hheight : 0 ≤ height) :
    |height * |slope * run| / lengthOver slope run * run / lengthOver slope run| =
      height / (1 + slope ^ 2) * |slope| := by
  have hlength : 0 ≤ lengthOver slope run := lengthOver_nonneg
  rw [abs_of_nonneg (by positivity), div_mul_eq_mul_div, div_div, lengthOver_mul_lengthOver,
    abs_mul, abs_of_pos hrun]
  field_simp

/-- How far the ends are moved along the ordinates. -/
lemma shift_along_rise (hrun : 0 < run) (hheight : 0 ≤ height) :
    |height * |slope * run| / lengthOver slope run * |slope * run| / lengthOver slope run| =
      height / (1 + slope ^ 2) * slope ^ 2 := by
  have hlength : 0 ≤ lengthOver slope run := lengthOver_nonneg
  rw [abs_of_nonneg (by positivity), div_mul_eq_mul_div, div_div, lengthOver_mul_lengthOver,
    mul_assoc, abs_mul_abs_self]
  field_simp

/-- The distance of the upper and lower edges of a strip, in terms of its length. -/
lemma depth_eq (hrun : 0 < run) :
    height / (1 + slope ^ 2) * √(1 + slope ^ 2) = height * run / lengthOver slope run := by
  rw [lengthOver_eq hrun, mul_div_mul_right height _ hrun.ne', div_mul_eq_mul_div, mul_div_assoc,
    Real.sqrt_div_self, div_eq_mul_inv]

end Shifts

/-- What a strip of a given height comes to along a line. -/
noncomputable def strip (line : Line ℝ) (height left right : ℝ) : Quad ℝ :=
  let top := line.slope * left + (line.intercept - height / 2)
  let rise := line.slope * (right - left)
  let x := height / (1 + line.slope ^ 2) * |line.slope|
  let y := height / (1 + line.slope ^ 2) * line.slope ^ 2
  if line.slope < 0 then
    ⟨left - x, top + y, right, top + rise, right + x, top + height + rise - y, left, top + height⟩
  else
    ⟨left, top, right + x, top + rise + y, right, top + height + rise, left - x, top + height - y⟩

section Strip

variable {line : Line ℝ} {height left right : ℝ} {q : Quad ℝ}

/-- Without rounding, the edges of a strip differ by its height, and its ends by the rise of the
line. -/
lemma quadAlong_eq (hheight : 0 ≤ height) (hlt : left < right) :
    quadAlong line height left right =
      if Scalar.isMinute (lengthOver line.slope (right - left)) then none
      else some (strip line height left right) := by
  have hrun : 0 < right - left := sub_pos.2 hlt
  have hhalf : height * (0.5 : ℝ) = height / 2 := by norm_num [div_eq_mul_inv]
  unfold quadAlong strip
  extract_lets above below y1 y2 y3 y4 run rise length shift x y top rise' x' y'
  have hy1 : y1 = top := by
    change line.slope * left + (line.intercept - height * (0.5 : ℝ)) = _
    rw [hhalf]
  have hy2 : y2 = top + rise' := by
    change line.slope * right + (line.intercept - height * (0.5 : ℝ)) =
      line.slope * left + (line.intercept - height / 2) + line.slope * (right - left)
    rw [hhalf]
    ring
  have hy3 : y3 = top + height := by
    change line.slope * left + (line.intercept + height * (0.5 : ℝ)) =
      line.slope * left + (line.intercept - height / 2) + height
    rw [hhalf]
    ring
  have hy4 : y4 = top + height + rise' := by
    change line.slope * right + (line.intercept + height * (0.5 : ℝ)) =
      line.slope * left + (line.intercept - height / 2) + height + line.slope * (right - left)
    rw [hhalf]
    ring
  have hrise : rise = |line.slope * (right - left)| := by
    change |y2 - y1| = |rise'|
    rw [hy1, hy2, add_sub_cancel_left]
  have hdepth : y3 - y1 = height := by
    rw [hy1, hy3, add_sub_cancel_left]
  have hlength : length = lengthOver line.slope (right - left) := by
    change √(|right - left| * |right - left| + rise * rise) = _
    rw [hrise, abs_mul_abs_self, abs_mul_abs_self, ← sq, ← sq]
    rfl
  -- Both shifts divide by the length twice, so that no root remains.
  have hx : x = x' := by
    change _ = height / (1 + line.slope ^ 2) * |line.slope|
    rw [← shift_along_run hrun hheight, ← hlength, ← hrise, ← abs_of_pos hrun, ← hdepth]
    rfl
  have hy : y = y' := by
    change _ = height / (1 + line.slope ^ 2) * line.slope ^ 2
    rw [← shift_along_rise hrun hheight, ← hlength, ← hrise, ← hdepth]
    rfl
  rw [hy1, hy2, hy3, hy4, hx, hy, hlength, Scalar.zero_ofField]
  split
  · rfl
  · exact (apply_ite some _ _ _).symm

/-- The corners at the ends of a strip are moved along it so far that its sides are multiples of
the direction and of the perpendicular. -/
lemma isLaidAlong_strip :
    (strip line height left right).IsLaidAlong line.slope
      (right - left + height / (1 + line.slope ^ 2) * |line.slope|)
      (height / (1 + line.slope ^ 2)) := by
  have hheight : height = height / (1 + line.slope ^ 2) * (1 + line.slope ^ 2) :=
    (div_mul_cancel₀ height (by positivity)).symm
  rw [strip]
  generalize height / (1 + line.slope ^ 2) = across at hheight ⊢
  subst hheight
  split
  · rename_i hfalls
    rw [abs_of_neg hfalls]
    constructor
    all_goals
      refine Quad.point_sub_point_eq_iff.2 ⟨?_, ?_⟩
      · ring
      · ring
  · rename_i hrises
    rw [abs_of_nonneg (not_lt.1 hrises)]
    constructor
    all_goals
      refine Quad.point_sub_point_eq_iff.2 ⟨?_, ?_⟩
      · ring
      · ring

end Strip

/-! ## The quadrilateral of a line of text -/

section Around

variable {middleXs middleYs heights : List ℝ} {boxes : List (Corners ℝ)} {left right : ℝ}
  {q : Quad ℝ}

lemma mean_eq (values : List ℝ) : mean values = values.sum / values.length := by
  rw [mean, ← Scalar.sum_ofField]
  rfl

/-- A quadrilateral along the line that is fitted to any middles is a rectangle, as long as no
height is below zero.  How middles and heights were come by does not matter: they may have been
rounded. -/
theorem isRectangleAlong_slantedQuad (hheights : ∀ height ∈ heights, 0 ≤ height)
    (hlt : left < right) (hq : slantedQuad middleXs middleYs heights left right = some q) :
    q.IsRectangleAlong (Line.fit middleXs middleYs).slope ∧
      dist (q.corner 0) (q.corner 3) =
        (heights.sum / heights.length + 2.5) * (right - left) /
          lengthOver (Line.fit middleXs middleYs).slope (right - left) := by
  have hmean : 0 ≤ heights.sum / heights.length :=
    div_nonneg (List.sum_nonneg hheights) (Nat.cast_nonneg _)
  have hheight : 0 ≤ heights.sum / heights.length + 2.5 := add_nonneg hmean (by norm_num)
  have hrun : 0 < right - left := sub_pos.2 hlt
  rw [slantedQuad, mean_eq, quadAlong_eq hheight hlt] at hq
  split at hq
  · cases hq
  obtain rfl := Option.some.inj hq
  constructor
  · exact isLaidAlong_strip.isRectangleAlong (by positivity)
  · rw [isLaidAlong_strip.dist_eq (by positivity), depth_eq hrun]

/-- The line that is fitted to the middles of rectangles. -/
noncomputable def middleLine (boxes : List (Corners ℝ)) : Line ℝ :=
  Line.fit (boxes.map fun c => (c.left + c.right) * 0.5)
    (boxes.map fun c => (c.top + c.bottom) * 0.5)

/-- The mean height of rectangles. -/
noncomputable def meanHeight (boxes : List (Corners ℝ)) : ℝ :=
  (boxes.map fun c => c.bottom - c.top).sum / boxes.length

lemma meanHeight_eq (boxes : List (Corners ℝ)) :
    (boxes.map fun c => c.bottom - c.top).sum / (boxes.map fun c => c.bottom - c.top).length =
      meanHeight boxes := by
  rw [meanHeight, List.length_map]

/-- **Lines of text are rectangles.**  Without rounding, the slanted quadrilateral of rectangles
that do not end above where they begin is a rectangle along the line through their middles,
whether that rises or falls.  Its ends are as long as the rectangles are high on average, and two
and a half units more, in the proportion of the extent of the line to its length. -/
theorem isRectangleAlong_quadAround (hboxes : ∀ c ∈ boxes, c.top ≤ c.bottom)
    (hlt : left < right) (hq : quadAround id boxes left right = some q) :
    q.IsRectangleAlong (middleLine boxes).slope ∧
      dist (q.corner 0) (q.corner 3) =
        (meanHeight boxes + 2.5) * (right - left) /
          lengthOver (middleLine boxes).slope (right - left) := by
  have hheights : ∀ height ∈ boxes.map fun c => c.bottom - c.top, 0 ≤ height := by
    intro height hheight
    obtain ⟨c, hc, rfl⟩ := List.mem_map.1 hheight
    exact sub_nonneg.2 (hboxes c hc)
  have hrectangle := isRectangleAlong_slantedQuad hheights hlt hq
  rwa [meanHeight_eq] at hrectangle

/-- Two rectangles, the second one to the right of the first one and above it. -/
noncomputable def climbingBoxes : List (Corners ℝ) :=
  [⟨-2, -0.75, 2, 6.75⟩, ⟨2, -3.75, 6, 3.75⟩]

/-- What is laid around them. -/
noncomputable def climbingQuad : Quad ℝ :=
  ⟨-4.8, 1.6, 4, -5, 8.8, 1.4, 0, 8⟩

lemma middleLine_climbingBoxes : middleLine climbingBoxes = ⟨-3 / 4, 3⟩ := by
  have hxs : (climbingBoxes.map fun c => (c.left + c.right) * 0.5) = [0, 4] := by
    norm_num [climbingBoxes]
  have hys : (climbingBoxes.map fun c => (c.top + c.bottom) * 0.5) = [3, 0] := by
    norm_num [climbingBoxes]
  have hspread : Line.spread [(0 : ℝ), 4] = 16 := by
    rw [Line.spread_ofField]
    norm_num
  have hlength : [(0 : ℝ), 4].length = [(3 : ℝ), 0].length := rfl
  have hspreads : (1e-15 : ℝ) ≤ |Line.spread [(0 : ℝ), 4]| := by
    rw [hspread]
    norm_num
  rw [middleLine, hxs, hys, Line.fit_ofField (by simp) hlength hspreads]
  norm_num [hspread]

lemma meanHeight_climbingBoxes : meanHeight climbingBoxes = 7.5 := by
  norm_num [meanHeight, climbingBoxes]

lemma quadAround_climbingBoxes : quadAround id climbingBoxes 0 4 = some climbingQuad := by
  have hquad : quadAround id climbingBoxes 0 4 =
      quadAlong (middleLine climbingBoxes)
        (mean (climbingBoxes.map fun c => c.bottom - c.top) + 2.5) 0 4 := rfl
  rw [hquad, mean_eq, meanHeight_eq, middleLine_climbingBoxes, meanHeight_climbingBoxes,
    quadAlong_eq (by norm_num) (by norm_num)]
  have hlength : lengthOver (-3 / 4) (4 - 0) = 5 := by
    rw [lengthOver, Real.sqrt_eq_iff_mul_self_eq (by positivity) (by norm_num)]
    norm_num
  have hlong : Scalar.isMinute (5 : ℝ) = false := by
    rw [Scalar.isMinute_ofField_eq_false_iff]
    norm_num
  rw [hlength, if_neg (Bool.not_eq_true _ ▸ hlong), strip, if_pos (by norm_num)]
  norm_num [climbingQuad]

theorem isRectangleAlong_climbingQuad :
    (∀ c ∈ climbingBoxes, c.top ≤ c.bottom) ∧ (0 : ℝ) < 4 ∧
      quadAround id climbingBoxes 0 4 = some climbingQuad ∧
      climbingQuad.IsRectangleAlong (middleLine climbingBoxes).slope ∧
      dist (climbingQuad.corner 0) (climbingQuad.corner 3) =
        (meanHeight climbingBoxes + 2.5) * (4 - 0) /
          lengthOver (middleLine climbingBoxes).slope (4 - 0) := by
  have hboxes : ∀ c ∈ climbingBoxes, c.top ≤ c.bottom := by
    simp only [climbingBoxes, List.forall_mem_cons, List.not_mem_nil]
    norm_num
  have hlt : (0 : ℝ) < 4 := by norm_num
  exact ⟨hboxes, hlt, quadAround_climbingBoxes,
    isRectangleAlong_quadAround hboxes hlt quadAround_climbingBoxes⟩

end Around

end Ctpn

end Detection
