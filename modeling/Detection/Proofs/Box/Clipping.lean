/-
# Clipping boxes to the unit square

What suppression leaves becomes objects again, their upper left corners kept from falling below
zero and their lower right corners from exceeding one.  Either corner is clipped on one side
only.  That is enough for an object to lie in the unit square, its corners in order, if its box
meets the square, and only then.

## Main definitions

* `Corners.IsInUnitSquare`: a rectangle lies in the unit square, its corners in order.
* `Corners.MeetsUnitSquare`: a rectangle has a point with the unit square in common.
-/
import Detection.Proofs.Box.Suppression
import Detection.Proofs.Number.Arithmetic

namespace Detection

/-! ## Rectangles and the unit square -/

namespace Corners

/-- A rectangle lies in the unit square, and its corners are in order. -/
structure IsInUnitSquare (c : Corners Float32) : Prop where
  left_nonneg : 0.0 ≤ c.left
  left_le_right : c.left ≤ c.right
  right_le_one : c.right ≤ 1.0
  top_nonneg : 0.0 ≤ c.top
  top_le_bottom : c.top ≤ c.bottom
  bottom_le_one : c.bottom ≤ 1.0

/-- A rectangle that has its corners in order has a point with the unit square in common. -/
structure MeetsUnitSquare (c : Corners Float32) : Prop where
  left_le_one : c.left ≤ 1.0
  right_nonneg : 0.0 ≤ c.right
  top_le_one : c.top ≤ 1.0
  bottom_nonneg : 0.0 ≤ c.bottom

end Corners

/-- Two numbers in order are in the unit interval and in order after clipping the lower one from
below and the upper one from above exactly if they are not both on the same side of it. -/
lemma clipped_iff {low high : Float32} (h : low ≤ high) :
    0.0 ≤ greatest32 low 0.0 ∧ greatest32 low 0.0 ≤ least32 high 1.0 ∧ least32 high 1.0 ≤ 1.0 ↔
      low ≤ 1.0 ∧ 0.0 ≤ high := by
  have hlow := (Float32.le_iff.1 h).1
  have hhigh := (Float32.le_iff.1 h).2.1
  have hzero : (0.0 : Float32).isNaN = false := by decide
  have hone : (1.0 : Float32).isNaN = false := by decide
  have hunit : (0.0 : Float32) ≤ 1.0 := by decide
  have hbelow := Float32.le_refl (isNaN_greatest32 hlow hzero)
  have habove := Float32.le_refl (isNaN_least32 hhigh hone)
  rw [greatest32_le_iff hlow hzero] at hbelow
  rw [le_least32_iff hhigh hone] at habove
  rw [greatest32_le_iff hlow hzero, le_least32_iff hhigh hone, le_least32_iff hhigh hone]
  constructor
  · rintro ⟨-, ⟨hleft, hright⟩, -⟩
    exact ⟨hleft.2, hright.1⟩
  · rintro ⟨hleft, hright⟩
    exact ⟨hbelow.2, ⟨⟨h, hleft⟩, hright, hunit⟩, habove.2⟩

/-! ## Boxes -/

namespace Box

variable {b : Box}

/-- The corners of a proper box are on either side of its centre. -/
lemma corners_around_centre (h : b.isDegenerate = false) :
    (b.corners.left ≤ b.x ∧ b.x ≤ b.corners.right) ∧
      b.corners.top ≤ b.y ∧ b.y ≤ b.corners.bottom := by
  simp only [isDegenerate, Bool.or_eq_false_iff, Bool.not_eq_false', Bool.and_eq_true,
    decide_eq_true_eq] at h
  obtain ⟨⟨⟨hwidth, hheight⟩, hx⟩, hy⟩ := h
  have hwidth' := Float32.half_nonneg (Float32.le_of_lt hwidth)
  have hheight' := Float32.half_nonneg (Float32.le_of_lt hheight)
  exact ⟨⟨Float32.sub_le_of_nonneg hx hwidth', Float32.le_add_of_nonneg hx hwidth'⟩,
    Float32.sub_le_of_nonneg hy hheight', Float32.le_add_of_nonneg hy hheight'⟩

end Box

/-! ## Objects -/

namespace DetectedObject

variable {measure : OverlapMeasure} {threshold : Float32} {objects result : List DetectedObject}

/-- The object of a proper box lies in the unit square exactly if the box meets it. -/
lemma isInUnitSquare_ofBox_iff {b : Box} (h : b.isDegenerate = false) :
    (ofBox b).corners.IsInUnitSquare ↔ b.corners.MeetsUnitSquare := by
  obtain ⟨⟨hleft, hright⟩, htop, hbottom⟩ := Box.corners_around_centre h
  have hhorizontal := clipped_iff (Float32.le_trans hleft hright)
  have hvertical := clipped_iff (Float32.le_trans htop hbottom)
  constructor
  · intro hin
    obtain ⟨hl, hr⟩ := hhorizontal.1 ⟨hin.left_nonneg, hin.left_le_right, hin.right_le_one⟩
    obtain ⟨ht, hb⟩ := hvertical.1 ⟨hin.top_nonneg, hin.top_le_bottom, hin.bottom_le_one⟩
    exact ⟨hl, hr, ht, hb⟩
  · rintro ⟨hl, hr, ht, hb⟩
    obtain ⟨hl, hlr, hr⟩ := hhorizontal.2 ⟨hl, hr⟩
    obtain ⟨ht, htb, hb⟩ := hvertical.2 ⟨ht, hb⟩
    exact ⟨hl, hlr, hr, ht, htb, hb⟩

/-- **Clipping is enough for boxes that meet the unit square.**  What suppression leaves lies in
the unit square, with the corners in order, if and only if every box that it keeps meets the
square. -/
theorem isInUnitSquare_suppress_iff (h : suppress measure threshold objects = .ok result) :
    (∀ o ∈ result, o.corners.IsInUnitSquare) ↔
      ∀ b ∈ Box.suppress measure threshold (objects.map toBox), b.corners.MeetsUnitSquare := by
  rw [eq_map_of_suppress_eq_ok h, List.forall_mem_map]
  exact forall₂_congr fun b hb =>
    isInUnitSquare_ofBox_iff (Box.mem_of_mem_suppress hb).2

/-- An object in the upper left quarter of the unit square. -/
def upperLeftQuarter : DetectedObject :=
  ⟨⟨0.0, 0.0, 0.5, 0.5⟩, 0.75, 1⟩

theorem isInUnitSquare_upperLeftQuarter :
    suppress .union 0.5 [upperLeftQuarter] = .ok [upperLeftQuarter] ∧
      ((∀ o ∈ [upperLeftQuarter], o.corners.IsInUnitSquare) ↔
        ∀ b ∈ Box.suppress .union 0.5 ([upperLeftQuarter].map toBox),
          b.corners.MeetsUnitSquare) := by
  have hok : suppress .union 0.5 [upperLeftQuarter] = .ok [upperLeftQuarter] := by
    decide +kernel
  exact ⟨hok, isInUnitSquare_suppress_iff hok⟩

/-- An object on a picture, but to the right of the unit square. -/
def rightOfUnitSquare : DetectedObject :=
  ⟨⟨2.0, 0.0, 3.0, 1.0⟩, 0.75, 1⟩

/-- Its left edge stays where it is while its right edge is moved to the square. -/
theorem not_isInUnitSquare_rightOfUnitSquare :
    ¬ ∀ (measure : OverlapMeasure) (threshold : Float32) (objects result : List DetectedObject),
      suppress measure threshold objects = .ok result →
        ∀ o ∈ result, o.corners.IsInUnitSquare := by
  intro hall
  have hok : suppress .union 0.5 [rightOfUnitSquare] = .ok [⟨⟨2.0, 0.0, 1.0, 1.0⟩, 0.75, 1⟩] := by
    decide +kernel
  have hin := hall .union 0.5 [rightOfUnitSquare] _ hok _ (List.mem_singleton.2 rfl)
  have hout : ¬ (2.0 : Float32) ≤ 1.0 := by decide
  exact hout hin.left_le_right

/-- It is enough that the centres of the given objects are in the unit square. -/
theorem isInUnitSquare_suppress_of_centres (h : suppress measure threshold objects = .ok result)
    (hcentres : ∀ o ∈ objects, (0.0 ≤ o.toBox.x ∧ o.toBox.x ≤ 1.0) ∧
      0.0 ≤ o.toBox.y ∧ o.toBox.y ≤ 1.0) :
    ∀ o ∈ result, o.corners.IsInUnitSquare := by
  rw [eq_map_of_suppress_eq_ok h, List.forall_mem_map]
  intro b hb
  obtain ⟨hmem, hproper⟩ := Box.mem_of_mem_suppress hb
  obtain ⟨o, ho, rfl⟩ := List.mem_map.1 hmem
  obtain ⟨⟨hleft, hright⟩, htop, hbottom⟩ := Box.corners_around_centre hproper
  obtain ⟨⟨hx, hx'⟩, hy, hy'⟩ := hcentres o ho
  exact (isInUnitSquare_ofBox_iff hproper).2 ⟨Float32.le_trans hleft hx',
    Float32.le_trans hx hright, Float32.le_trans htop hy', Float32.le_trans hy hbottom⟩

end DetectedObject

end Detection
