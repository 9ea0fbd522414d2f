/-
# Boxes that are there twice

A box that is there twice overlaps itself, and of the two copies suppression should keep one.  The
shared area is taken between corners, which were rounded, and the further out the corners are the
more of the extents may be lost between them.  A threshold leaves a margin below one.  If of each
extent no more than a quarter of the margin is lost, then the overlap of a box with itself is above
the threshold under every measure.  The exception is made on purpose: where a number to divide by is
below a millionth nothing is divided, and the overlap is zero.  Then the copies do not exclude each
other, and they are all left or, if another box excludes them, none is.

## Main definitions

* `Float32.IsSpanned`: the corners on either side of a centre show how far they are apart.
* `Box.IsResolved`: the corners of a box show how large it is.
* `Box.isGuarded`: a number that the overlap of a box with itself is divided by is too small.
* `Box.IsDuplicate`: two boxes of one class are the same up to the score.
* `Box.AllOrNone`: all copies of a box are left, or none is.

The main result is `Box.pairwise_suppress_duplicates`.
-/
import Detection.Proofs.Box.Clipping
import Detection.Proofs.Box.Repetition
import Detection.Proofs.Box.Symmetry
import Detection.Proofs.Number.Error

namespace Detection

/-! ## The extent between two corners -/

namespace Float32

/-- How far the two corners are apart that lie half an extent on either side of a centre. -/
def span (centre extent : Float32) : Float32 :=
  centre + extent / 2.0 - (centre - extent / 2.0)

/-- An extent is a normal number, its corners are within the range of finite ones, and its centre
is not too far out for 24 digits.  How far is too far depends on the margin that is left. -/
structure IsSpanned (margin : ℚ) (centre extent : Float32) : Prop where
  isFinite_centre : centre.isFinite
  isFinite_extent : extent.isFinite
  normal : 1 / 2 ^ 126 ≤ value extent
  within : |value centre| + value extent ≤ 2 ^ 127
  abs_le : |value centre| ≤ 2 ^ 21 * margin * value extent

/-- The errors of the four operations between an extent and the distance of its corners.  A corner
is off by one part in 2^24 of the distance of the centre, which is 2^21 margins at most. -/
lemma abs_sub_le_of_corners {margin centre extent half near far span : ℚ}
    (hextent : 1 / 2 ^ 126 ≤ extent) (hlow : 1 / 101 ≤ margin) (hhigh : margin ≤ 1)
    (hcentre : |centre| ≤ 2 ^ 21 * margin * extent)
    (hhalf : |half - extent / 2| ≤ |extent / 2| / 2 ^ 24 + 1 / 2 ^ 150)
    (hnear : |near - (centre - half)| ≤ |centre - half| / 2 ^ 24 + 1 / 2 ^ 150)
    (hfar : |far - (centre + half)| ≤ |centre + half| / 2 ^ 24 + 1 / 2 ^ 150)
    (hspan : |span - (far - near)| ≤ |far - near| / 2 ^ 24 + 1 / 2 ^ 150) :
    |span - extent| ≤ 2501 / 10000 * margin * extent := by
  have hpos : 0 < extent := lt_of_lt_of_le (by norm_num) hextent
  have htiny : (1 : ℚ) / 2 ^ 150 ≤ extent / 2 ^ 24 := by
    have hscale : (1 : ℚ) / 2 ^ 150 = 1 / 2 ^ 126 / 2 ^ 24 := by norm_num
    rw [hscale]
    exact div_le_div_of_nonneg_right hextent (by positivity)
  have hmost : margin * extent ≤ extent := mul_le_of_le_one_left hpos.le hhigh
  have hleast : 1 / 101 * extent ≤ margin * extent := mul_le_mul_of_nonneg_right hlow hpos.le
  generalize (1 : ℚ) / 2 ^ 150 = tiny at *
  rw [abs_of_pos (by linarith : 0 < extent / 2)] at hhalf
  have hmagnitude : |half| ≤ extent / 2 + extent / 2 / 2 ^ 24 + tiny := by
    have h := abs_sub_abs_le_abs_sub half (extent / 2)
    rw [abs_of_pos (by linarith : 0 < extent / 2)] at h
    linarith
  have hleft : |centre - half| ≤ 2 ^ 21 * margin * extent + extent := by
    refine (abs_sub centre half).trans ?_
    linarith
  have hright : |centre + half| ≤ 2 ^ 21 * margin * extent + extent := by
    refine (abs_add_le centre half).trans ?_
    linarith
  have hbetween : |far - near - 2 * half| ≤ margin * extent / 4 + 4 * extent / 2 ^ 24 := by
    have h : far - near - 2 * half = (far - (centre + half)) - (near - (centre - half)) := by ring
    rw [h]
    refine (abs_sub _ _).trans ?_
    linarith
  have hdistance : |far - near| ≤ 2 * extent := by
    have h : far - near = (far - near - 2 * half) + 2 * half := by ring
    rw [h]
    refine (abs_add_le _ _).trans ?_
    rw [abs_mul, abs_two]
    linarith
  have hsum : span - extent =
      (span - (far - near)) + (far - near - 2 * half) + 2 * (half - extent / 2) := by ring
  rw [hsum]
  refine (abs_add_three _ _ _).trans ?_
  rw [abs_mul, abs_two]
  linarith

variable {margin : ℚ} {centre extent : Float32}

lemma IsSpanned.pos (h : IsSpanned margin centre extent) : 0 < value extent :=
  lt_of_lt_of_le (by norm_num) h.normal

/-- The corners show the extent up to a quarter of the margin. -/
lemma IsSpanned.resolves (h : IsSpanned margin centre extent) (hlow : 1 / 101 ≤ margin)
    (hhigh : margin ≤ 1) :
    (span centre extent).isFinite ∧
      |value (span centre extent) - value extent| ≤ 2501 / 10000 * margin * value extent := by
  have hpos := h.pos
  obtain ⟨hcentre, hextent, hnormal, hwithin, hbound⟩ := h
  have hnonneg := abs_nonneg (value centre)
  have hmost : margin * value extent ≤ value extent := mul_le_of_le_one_left hpos.le hhigh
  obtain ⟨hhalf, hhalf'⟩ : IsNear (extent / 2.0) (value extent / 2) := by
    have h := isNear_div (a := extent) (b := 2.0) hextent rfl (by rw [value_two]; norm_num)
    rw [value_two] at h
    refine h ?_
    rw [abs_of_pos (by linarith)]
    linarith
  have hmagnitude : |value (extent / 2.0)| ≤ 501 / 1000 * value extent := by
    have htriangle := abs_sub_abs_le_abs_sub (value (extent / 2.0)) (value extent / 2)
    rw [abs_of_pos (by linarith : 0 < value extent / 2)] at htriangle hhalf'
    linarith
  have hleft := abs_sub (value centre) (value (extent / 2.0))
  have hright := abs_add_le (value centre) (value (extent / 2.0))
  obtain ⟨hnear, hnear'⟩ := isNear_sub hcentre hhalf (by linarith)
  obtain ⟨hfar, hfar'⟩ := isNear_add hcentre hhalf (by linarith)
  have hbetween :
      |value (centre + extent / 2.0) - value (centre - extent / 2.0)| ≤ 3 * 2 ^ 126 := by
    have h : value (centre + extent / 2.0) - value (centre - extent / 2.0) =
        (value (centre + extent / 2.0) - (value centre + value (extent / 2.0))) -
          (value (centre - extent / 2.0) - (value centre - value (extent / 2.0))) +
          2 * value (extent / 2.0) := by ring
    rw [h]
    refine (abs_add_le _ _).trans ((add_le_add_left (abs_sub _ _) _).trans ?_)
    rw [abs_mul, abs_two]
    linarith
  obtain ⟨hspan, hspan'⟩ := isNear_sub hfar hnear hbetween
  exact ⟨hspan, abs_sub_le_of_corners hnormal hlow hhigh hbound hhalf' hnear' hfar' hspan'⟩

/-! ## Numbers and themselves -/

variable {a : Float32}

/-- The difference of a number and itself is a zero. -/
lemma isZero_sub_self (ha : a.isFinite) : IsZero (a - a) := by
  obtain ⟨hthere, hgrade⟩ := grade_sub ha ha
  rw [sub_self, nearestGrade_zero] at hgrade
  exact isZero_iff_grade.2 ⟨hthere, hgrade⟩

lemma nonneg_mul_self (ha : a.isFinite) : 0.0 ≤ a * a := by
  obtain ⟨hthere, hgrade⟩ := grade_mul ha ha
  rw [zero_le_iff_grade, hgrade]
  exact ⟨hthere, nearestGrade_nonneg (mul_self_nonneg _)⟩

/-- A number is below one if its square is. -/
lemma value_mul_self_lt_one (ha : a.isFinite) (h : ¬ 1.0 ≤ a * a) : value a * value a < 1 := by
  by_contra hnot
  obtain ⟨hthere, hgrade⟩ := grade_mul ha ha
  refine h (le_iff_grade.2 ⟨rfl, hthere, ?_⟩)
  rw [hgrade, grade_eq_nearestGrade rfl, value_one]
  exact nearestGrade_mono (not_lt.1 hnot)

lemma greatest32_self (a : Float32) : greatest32 a a = a := by
  rcases greatest32_eq_or a a with h | h <;> exact h

lemma least32_self (a : Float32) : least32 a a = a := by
  rcases least32_eq_or a a with h | h <;> exact h

end Float32

/-! ## The areas of a box -/

/-- The errors of two extents add up in their product. -/
lemma mul_mem_of_extents {margin w h spanX spanY : ℚ} (hw : 0 < w) (hh : 0 < h) (hlow : 0 ≤ margin)
    (hhigh : margin ≤ 1) (hx : |spanX - w| ≤ 2501 / 10000 * margin * w)
    (hy : |spanY - h| ≤ 2501 / 10000 * margin * h) :
    w * h - 5002 / 10000 * (margin * (w * h)) ≤ spanX * spanY ∧
      spanX * spanY ≤ w * h + 563 / 1000 * (margin * (w * h)) := by
  rw [abs_le] at hx hy
  have harea : 0 < w * h := mul_pos hw hh
  have hloss : 0 ≤ margin * (w * h) := mul_nonneg hlow harea.le
  have hless : 0 ≤ 1 - 2501 / 10000 * margin := by linarith
  have hsquare : margin * margin * (w * h) ≤ margin * (w * h) :=
    mul_le_mul_of_nonneg_right (mul_le_of_le_one_left hlow hhigh) harea.le
  constructor
  · have hproduct : (1 - 2501 / 10000 * margin) * w * ((1 - 2501 / 10000 * margin) * h) ≤
        spanX * spanY := by
      refine mul_le_mul ?_ ?_ (by positivity) ?_ <;> linarith [mul_nonneg hless hw.le]
    have hexpand : (1 - 2501 / 10000 * margin) * w * ((1 - 2501 / 10000 * margin) * h) =
        w * h - 5002 / 10000 * (margin * (w * h)) +
          (2501 / 10000) ^ 2 * (margin * margin * (w * h)) := by ring
    have hpositive : 0 ≤ margin * margin * (w * h) := by positivity
    linarith
  · have hproduct : spanX * spanY ≤
        (1 + 2501 / 10000 * margin) * w * ((1 + 2501 / 10000 * margin) * h) := by
      refine mul_le_mul ?_ ?_ ?_ (by positivity) <;> linarith [mul_nonneg hless hh.le]
    have hexpand : (1 + 2501 / 10000 * margin) * w * ((1 + 2501 / 10000 * margin) * h) =
        w * h + 5002 / 10000 * (margin * (w * h)) +
          (2501 / 10000) ^ 2 * (margin * margin * (w * h)) := by ring
    linarith

namespace Box

open Detection.Float32 (value IsNear)

/-- The area of a box before it is rounded. -/
def exactArea (b : Box) : ℚ :=
  value b.width * value b.height

/-- The corners of a box show how large it is, as precisely as a margin demands. -/
structure IsResolved (margin : ℚ) (b : Box) : Prop where
  horizontal : Float32.IsSpanned margin b.x b.width
  vertical : Float32.IsSpanned margin b.y b.height
  exactArea_le : b.exactArea ≤ 2 ^ 126

/-- The area between the corners of a box. -/
def ownShared (b : Box) : Float32 :=
  Float32.span b.x b.width * Float32.span b.y b.height

/-- What the area that a box shares with itself is compared with. -/
def ownReference (measure : OverlapMeasure) (b : Box) : Float32 :=
  match measure with
  | .larger | .smaller => b.area
  | .union | .distance => b.area + b.area - b.ownShared

variable {measure : OverlapMeasure} {threshold : Float32} {margin : ℚ} {a b c : Box}

namespace IsResolved

lemma exactArea_pos (h : b.IsResolved margin) : 0 < b.exactArea :=
  mul_pos h.horizontal.pos h.vertical.pos

lemma area (h : b.IsResolved margin) :
    b.area.isFinite ∧ |value b.area - b.exactArea| ≤ b.exactArea / 2 ^ 24 + 1 / 2 ^ 150 := by
  have hle := h.exactArea_le
  have hpos := abs_of_pos h.exactArea_pos
  obtain ⟨hfinite, hnear⟩ : IsNear b.area b.exactArea :=
    Float32.isNear_mul h.horizontal.isFinite_extent h.vertical.isFinite_extent
      (hpos.trans_le (hle.trans (by norm_num)))
  rw [hpos] at hnear
  exact ⟨hfinite, hnear⟩

section Margin

variable (hlow : 1 / 101 ≤ margin) (hhigh : margin ≤ 1)
include hlow hhigh

/-- The part of the area that the margin makes up is neither nothing nor all. -/
lemma loss_mem (h : b.IsResolved margin) :
    b.exactArea / 101 ≤ margin * b.exactArea ∧ margin * b.exactArea ≤ b.exactArea := by
  have hpos := h.exactArea_pos
  refine ⟨?_, mul_le_of_le_one_left hpos.le hhigh⟩
  linarith [mul_le_mul_of_nonneg_right hlow hpos.le]

lemma exactShared_mem (h : b.IsResolved margin) :
    b.exactArea - 5002 / 10000 * (margin * b.exactArea) ≤
        value (Float32.span b.x b.width) * value (Float32.span b.y b.height) ∧
      value (Float32.span b.x b.width) * value (Float32.span b.y b.height) ≤
        b.exactArea + 563 / 1000 * (margin * b.exactArea) :=
  mul_mem_of_extents h.horizontal.pos h.vertical.pos (by linarith) hhigh
    (h.horizontal.resolves hlow hhigh).2 (h.vertical.resolves hlow hhigh).2

lemma shared (h : b.IsResolved margin) : b.ownShared.isFinite ∧
    b.exactArea - 50025 / 100000 * (margin * b.exactArea) - 1 / 2 ^ 150 ≤ value b.ownShared ∧
      value b.ownShared ≤ b.exactArea + 5635 / 10000 * (margin * b.exactArea) + 1 / 2 ^ 150 := by
  have hle := h.exactArea_le
  obtain ⟨hleast, hmost⟩ := h.loss_mem hlow hhigh
  obtain ⟨hfrom, hto⟩ := h.exactShared_mem hlow hhigh
  have hpos := h.exactArea_pos
  have hmagnitude := abs_of_pos (lt_of_lt_of_le (by linarith) hfrom :
    0 < value (Float32.span b.x b.width) * value (Float32.span b.y b.height))
  obtain ⟨hfinite, hnear⟩ : IsNear b.ownShared _ :=
    Float32.isNear_mul (h.horizontal.resolves hlow hhigh).1 (h.vertical.resolves hlow hhigh).1
      (by linarith)
  rw [hmagnitude, abs_le] at hnear
  refine ⟨hfinite, ?_, ?_⟩ <;> linarith

/-- Of the area and itself the shared area leaves the area once. -/
lemma union (h : b.IsResolved margin) : (b.area + b.area - b.ownShared).isFinite ∧
    b.exactArea - 565 / 1000 * (margin * b.exactArea) - 1 / 2 ^ 146 ≤
        value (b.area + b.area - b.ownShared) ∧
      value (b.area + b.area - b.ownShared) ≤
        b.exactArea + 5004 / 10000 * (margin * b.exactArea) + 1 / 2 ^ 146 := by
  have hle := h.exactArea_le
  have hpos := h.exactArea_pos
  obtain ⟨hleast, hmost⟩ := h.loss_mem hlow hhigh
  obtain ⟨harea, harea'⟩ := h.area
  obtain ⟨hshared, hfrom, hto⟩ := h.shared hlow hhigh
  rw [abs_le] at harea'
  have hsize : |value b.area + value b.area| ≤ 5 / 2 * b.exactArea + 1 / 2 ^ 148 := by
    rw [abs_le]
    constructor <;> linarith
  obtain ⟨hboth, hboth'⟩ := Float32.isNear_add harea harea (by linarith)
  rw [abs_le] at hboth'
  have hsize' : |value (b.area + b.area) - value b.ownShared| ≤
      2 * b.exactArea + 1 / 2 ^ 147 := by
    rw [abs_le]
    constructor <;> linarith
  obtain ⟨hunion, hunion'⟩ := Float32.isNear_sub hboth hshared (by linarith)
  rw [abs_le] at hunion'
  refine ⟨hunion, ?_, ?_⟩ <;> linarith

/-- What the shared area is compared with is the area of the box, too. -/
lemma reference (h : b.IsResolved margin) (measure : OverlapMeasure) :
    (ownReference measure b).isFinite ∧
      b.exactArea - 565 / 1000 * (margin * b.exactArea) - 1 / 2 ^ 146 ≤
          value (ownReference measure b) ∧
        value (ownReference measure b) ≤
          b.exactArea + 5004 / 10000 * (margin * b.exactArea) + 1 / 2 ^ 146 := by
  cases measure
  case larger | smaller =>
    obtain ⟨hfinite, harea⟩ := h.area
    have hpos := h.exactArea_pos
    obtain ⟨hleast, hmost⟩ := h.loss_mem hlow hhigh
    rw [abs_le] at harea
    refine ⟨hfinite, ?_, ?_⟩ <;> simp only [ownReference] <;> linarith
  case union | distance => exact h.union hlow hhigh

lemma le_exactArea (h : b.IsResolved margin)
    (hreference : Scalar.isTiny (ownReference measure b) = false) :
    1 / 2 ^ 21 ≤ b.exactArea := by
  obtain ⟨hfinite, hfrom, hto⟩ := h.reference hlow hhigh measure
  obtain ⟨hleast, hmost⟩ := h.loss_mem hlow hhigh
  have hpos := h.exactArea_pos
  rw [Float32.isTiny_eq_false_iff hfinite] at hreference
  have hmagnitude : |value (ownReference measure b)| ≤ 8 / 5 * b.exactArea + 1 / 2 ^ 146 := by
    rw [abs_le]
    constructor <;> linarith
  linarith

/-- A box is small if what its shared area is compared with is. -/
lemma exactArea_lt (h : b.IsResolved margin)
    (hreference : Scalar.isTiny (ownReference measure b) = true) :
    b.exactArea - 57 / 100 * (margin * b.exactArea) < 1 / 10 ^ 6 := by
  obtain ⟨hfinite, hfrom, -⟩ := h.reference hlow hhigh measure
  have hsmall : |value (ownReference measure b)| < 8796093 / 2 ^ 43 := by
    rw [← not_le, ← Float32.isTiny_eq_false_iff hfinite, hreference]
    decide
  have hless := (le_abs_self _).trans_lt hsmall
  linarith [h.loss_mem hlow hhigh, h.exactArea_pos]

/-- The shared area is nearly all of what it is compared with. -/
lemma ratio (h : b.IsResolved margin)
    (hreference : Scalar.isTiny (ownReference measure b) = false) :
    (b.ownShared / ownReference measure b).isFinite ∧
      1 - margin + 1 / 2 ^ 18 ≤ value (b.ownShared / ownReference measure b) ∧
      value (b.ownShared / ownReference measure b) ≤ 5 := by
  have hlarge := h.le_exactArea hlow hhigh hreference
  have hpos := h.exactArea_pos
  obtain ⟨hleast, hmost⟩ := h.loss_mem hlow hhigh
  obtain ⟨hshared, hfrom, hto⟩ := h.shared hlow hhigh
  obtain ⟨hfinite, hfrom', hto'⟩ := h.reference hlow hhigh measure
  have hreferencePos : 0 < value (ownReference measure b) := by linarith
  -- A second part of the margin is left over: the error is made once in each of the two areas.
  have hsecond : margin * b.exactArea / 101 ≤ margin * (margin * b.exactArea) := by
    linarith [mul_le_mul_of_nonneg_right hlow (by linarith : 0 ≤ margin * b.exactArea)]
  have hlow' : 1 - margin + 1 / 2 ^ 17 ≤ value b.ownShared / value (ownReference measure b) := by
    rw [le_div_iff₀ hreferencePos]
    have hfactor : 0 ≤ 1 - margin + 1 / 2 ^ 17 := by linarith
    have hproduct := mul_le_mul_of_nonneg_left hto' hfactor
    linarith
  have hhigh' : value b.ownShared / value (ownReference measure b) ≤ 4 := by
    rw [div_le_iff₀ hreferencePos]
    linarith
  have habs := abs_of_pos (lt_of_lt_of_le (by linarith) hlow')
  obtain ⟨hratio, hratio'⟩ := Float32.isNear_div hshared hfinite hreferencePos.ne'
    (habs.trans_le (hhigh'.trans (by norm_num)))
  rw [habs, abs_le] at hratio'
  refine ⟨hratio, ?_, ?_⟩ <;> linarith

end Margin

end IsResolved

/-! ## The overlap of a box with itself -/

/-- The number that 0.99 is rounded to. -/
lemma value_limit : value 0.99 = 16609444 / 2 ^ 24 := by
  have hunpack : (0.99 : Float32).toModel.unpack =
      .finite .positive 16609444 (-24) (by decide) := rfl
  rw [value, hunpack, valueOf_finite, apply_positive]
  norm_num

/-- What a threshold between 0 and 0.99 leaves below one. -/
lemma margin_mem (hnonneg : 0.0 ≤ threshold) (hle : threshold ≤ 0.99) :
    threshold.isFinite ∧ 0 ≤ value threshold ∧ 1 / 101 ≤ 1 - value threshold ∧
      1 - value threshold ≤ 1 := by
  have hfinite := Float32.isFinite_of_le hnonneg rfl hle
  have hpos := Float32.value_nonneg hfinite hnonneg
  have hlimit := Float32.value_le_value hfinite rfl hle
  rw [value_limit] at hlimit
  refine ⟨hfinite, hpos, ?_, ?_⟩ <;> linarith

lemma sharedArea?_self (b : Box) :
    sharedArea? b b =
      if b.corners.bottom < b.corners.top || b.corners.right < b.corners.left then none
      else some b.ownShared := by
  simp only [sharedArea?, Float32.greatest32_self, Float32.least32_self]
  rfl

/-- A proper box touches itself. -/
lemma sharedArea?_self_of_proper (h : b.isDegenerate = false) :
    sharedArea? b b = some b.ownShared := by
  obtain ⟨⟨hleft, hright⟩, htop, hbottom⟩ := corners_around_centre h
  have hhorizontal : ¬ b.corners.right < b.corners.left := fun hlt =>
    Float32.not_le_of_lt hlt (Float32.le_trans hleft hright)
  have hvertical : ¬ b.corners.bottom < b.corners.top := fun hlt =>
    Float32.not_le_of_lt hlt (Float32.le_trans htop hbottom)
  rw [sharedArea?_self, if_neg (by simp [hhorizontal, hvertical])]

lemma enclosingDiagonal_self (b : Box) :
    enclosingDiagonal b b = Float32.span b.x b.width * Float32.span b.x b.width +
      Float32.span b.y b.height * Float32.span b.y b.height := by
  simp only [enclosingDiagonal, Float32.greatest32_self, Float32.least32_self]
  rfl

lemma centreDistance_self (hx : b.x.isFinite) (hy : b.y.isFinite) : centreDistance b b = 0.0 := by
  unfold centreDistance
  rcases Float32.isZero_sub_self hx with hx | hx <;>
    rcases Float32.isZero_sub_self hy with hy | hy <;> rw [hx, hy] <;> decide

/-- Whether nothing is divided, because the area that a shared area is compared with is too small,
or because the diagonal is. -/
def isGuarded (measure : OverlapMeasure) (b : Box) : Bool :=
  match measure with
  | .distance => Scalar.isTiny (ownReference .distance b) || Scalar.isTiny (enclosingDiagonal b b)
  | measure => Scalar.isTiny (ownReference measure b)

lemma isTiny_ownReference (h : isGuarded measure b = false) :
    Scalar.isTiny (ownReference measure b) = false := by
  cases measure
  case distance => exact (Bool.or_eq_false_iff.1 h).1
  all_goals exact h

lemma overlap_self_of_isGuarded (h : isGuarded measure b = true) : overlap measure b b = 0.0 := by
  unfold overlap
  rw [sharedArea?_self]
  split_ifs
  · rfl
  · cases measure <;>
      simp only [overlapOfShared, Float32.greatest32_self, Float32.least32_self] <;> exact if_pos h

/-! ### The penalty for the distance -/

lemma nonneg_enclosingDiagonal_self (hx : (Float32.span b.x b.width).isFinite)
    (hy : (Float32.span b.y b.height).isFinite) :
    0.0 ≤ enclosingDiagonal b b ∧
      Float32.span b.x b.width * Float32.span b.x b.width ≤ enclosingDiagonal b b ∧
      Float32.span b.y b.height * Float32.span b.y b.height ≤ enclosingDiagonal b b := by
  have hwidth := Float32.nonneg_mul_self hx
  have hheight := Float32.nonneg_mul_self hy
  have hfirst := Float32.le_add_of_nonneg_of_nonneg hwidth hheight
  have hsecond := Float32.le_add_of_nonneg_of_nonneg hheight hwidth
  rw [Float32.add_comm] at hsecond
  rw [enclosingDiagonal_self]
  exact ⟨Float32.le_trans hwidth hfirst, hfirst, hsecond⟩

/-- The centres of a box and itself are not apart, and no penalty is subtracted. -/
lemma lt_sub_penalty {threshold ratio diagonal : Float32} (hthreshold : threshold.isFinite)
    (hratio : ratio.isFinite) (hlow : value threshold + 1 / 2 ^ 18 ≤ value ratio)
    (hpos : 0 ≤ value threshold) (hhigh : value ratio ≤ 5) (hnonneg : 0.0 ≤ diagonal)
    (hproper : Scalar.isTiny diagonal = false) : threshold < ratio - 0.0 / diagonal := by
  obtain ⟨hpenalty, hpenalty'⟩ : (0.0 / diagonal).isFinite ∧
      |value (0.0 / diagonal)| ≤ 1 / 2 ^ 150 := by
    rcases Float32.eq_infinity_or_value_nonneg hnonneg with hinfinity | ⟨hfinite, -⟩
    · rw [Float32.eq_infinity32 hinfinity]
      have hzero : 0.0 / infinity32 = (0.0 : Float32) := by decide
      rw [hzero, Float32.value_zero, abs_zero]
      exact ⟨rfl, by positivity⟩
    · rw [Float32.isTiny_eq_false_iff hfinite] at hproper
      have hne : value diagonal ≠ 0 := by
        rintro hzero
        rw [hzero, abs_zero] at hproper
        norm_num at hproper
      have hnone : value 0.0 / value diagonal = 0 := by rw [Float32.value_zero, zero_div]
      obtain ⟨hpenalty, hpenalty'⟩ := Float32.isNear_div (a := 0.0) rfl hfinite hne
        (by rw [hnone, abs_zero]; norm_num)
      rw [hnone, abs_zero, sub_zero] at hpenalty'
      exact ⟨hpenalty, hpenalty'.trans (by norm_num)⟩
  rw [abs_le] at hpenalty'
  have hmagnitude : |value ratio - value (0.0 / diagonal)| = value ratio - value (0.0 / diagonal) :=
    abs_of_pos (by linarith)
  obtain ⟨hoverlap, hoverlap'⟩ := Float32.isNear_sub hratio hpenalty (by linarith)
  rw [hmagnitude, abs_le] at hoverlap'
  rw [Float32.lt_iff_value hthreshold hoverlap]
  linarith

/-- A box that nothing keeps from being compared overlaps itself more than is allowed. -/
theorem lt_overlap_self (hnonneg : 0.0 ≤ threshold) (hle : threshold ≤ 0.99)
    (h : b.isDegenerate = false) (hresolved : b.IsResolved (1 - value threshold))
    (hguard : isGuarded measure b = false) : threshold < overlap measure b b := by
  obtain ⟨hthreshold, hpos, hlow, hhigh⟩ := margin_mem hnonneg hle
  have hreference := isTiny_ownReference hguard
  obtain ⟨hfinite, hfrom, hto⟩ := hresolved.ratio hlow hhigh hreference
  rw [sub_sub_cancel] at hfrom
  have hratio : threshold < b.ownShared / ownReference measure b := by
    rw [Float32.lt_iff_value hthreshold hfinite]
    linarith
  unfold overlap
  rw [sharedArea?_self_of_proper h]
  cases measure <;> simp only [overlapOfShared, Float32.greatest32_self, Float32.least32_self]
  case larger | smaller => exact (if_neg (Bool.eq_false_iff.1 hreference)).symm ▸ hratio
  case union => exact (if_neg (Bool.eq_false_iff.1 hreference)).symm ▸ hratio
  case distance =>
    obtain ⟨hdiagonal, -, -⟩ := nonneg_enclosingDiagonal_self
      (hresolved.horizontal.resolves hlow hhigh).1 (hresolved.vertical.resolves hlow hhigh).1
    rw [centreDistance_self hresolved.horizontal.isFinite_centre
      hresolved.vertical.isFinite_centre]
    refine (if_neg (Bool.eq_false_iff.1 hguard)).symm ▸ ?_
    exact lt_sub_penalty hthreshold hfinite hfrom hpos hto hdiagonal
      (Bool.or_eq_false_iff.1 hguard).2

/-- The squared diagonal is at least twice the area between the corners, so a box is small if it
is, too. -/
lemma IsResolved.exactArea_lt_of_isTiny_diagonal (hlow : 1 / 101 ≤ margin) (hhigh : margin ≤ 1)
    (h : b.IsResolved margin) (hdiagonal : Scalar.isTiny (enclosingDiagonal b b) = true) :
    b.exactArea - 57 / 100 * (margin * b.exactArea) < 1 / 10 ^ 6 := by
  obtain ⟨hx, -⟩ := h.horizontal.resolves hlow hhigh
  obtain ⟨hy, -⟩ := h.vertical.resolves hlow hhigh
  obtain ⟨hfrom, -⟩ := h.exactShared_mem hlow hhigh
  obtain ⟨hnonneg, hwidth, hheight⟩ := nonneg_enclosingDiagonal_self hx hy
  have hpos := h.exactArea_pos
  obtain ⟨hleast, hmost⟩ := h.loss_mem hlow hhigh
  have hfinite : (enclosingDiagonal b b).isFinite := by
    rcases Float32.eq_infinity_or_value_nonneg hnonneg with hinfinity | ⟨hfinite, -⟩
    · rw [Float32.eq_infinity32 hinfinity] at hdiagonal
      exact absurd hdiagonal (by decide)
    · exact hfinite
  have hsmall : |value (enclosingDiagonal b b)| < 8796093 / 2 ^ 43 := by
    rw [← not_le, ← Float32.isTiny_eq_false_iff hfinite, hdiagonal]
    decide
  have hbelow : ¬ 1.0 ≤ enclosingDiagonal b b := by
    intro hle
    have hvalue := Float32.value_le_value rfl hfinite hle
    rw [Float32.value_one] at hvalue
    linarith [le_abs_self (value (enclosingDiagonal b b))]
  rw [enclosingDiagonal_self] at hfinite hsmall hbelow hwidth hheight
  have hx' := Float32.value_mul_self_lt_one hx fun hle => hbelow (Float32.le_trans hle hwidth)
  have hy' := Float32.value_mul_self_lt_one hy fun hle => hbelow (Float32.le_trans hle hheight)
  generalize Float32.span b.x b.width = spanX at *
  generalize Float32.span b.y b.height = spanY at *
  have hsquareX := abs_of_nonneg (mul_self_nonneg (value spanX))
  have hsquareY := abs_of_nonneg (mul_self_nonneg (value spanY))
  obtain ⟨hfiniteX, hnearX⟩ := Float32.isNear_mul hx hx (by rw [hsquareX]; linarith)
  obtain ⟨hfiniteY, hnearY⟩ := Float32.isNear_mul hy hy (by rw [hsquareY]; linarith)
  rw [hsquareX, abs_le] at hnearX
  rw [hsquareY, abs_le] at hnearY
  have hsum : |value (spanX * spanX) + value (spanY * spanY)| ≤ 3 := by
    rw [abs_le]
    constructor <;> linarith [mul_self_nonneg (value spanX), mul_self_nonneg (value spanY)]
  obtain ⟨-, hnear⟩ := Float32.isNear_add hfiniteX hfiniteY (hsum.trans (by norm_num))
  have htwice : 2 * (value spanX * value spanY) ≤
      value spanX * value spanX + value spanY * value spanY := by
    linarith [mul_self_nonneg (value spanX - value spanY)]
  have herror := hnear.trans (add_le_add_left (div_le_div_of_nonneg_right hsum (by norm_num)) _)
  rw [abs_le] at herror
  linarith [le_abs_self (value (spanX * spanX + spanY * spanY))]

/-- A resolved box that is kept from being compared is small. -/
lemma IsResolved.exactArea_lt_of_isGuarded (hlow : 1 / 101 ≤ margin) (hhigh : margin ≤ 1)
    (h : b.IsResolved margin) (hguard : isGuarded measure b = true) :
    b.exactArea - 57 / 100 * (margin * b.exactArea) < 1 / 10 ^ 6 := by
  cases measure
  case distance =>
    rcases Bool.or_eq_true_iff.1 hguard with hreference | hdiagonal
    · exact h.exactArea_lt hlow hhigh hreference
    · exact h.exactArea_lt_of_isTiny_diagonal hlow hhigh hdiagonal
  all_goals exact h.exactArea_lt hlow hhigh hguard

/-! ## Copies -/

/-- Two boxes of one class are the same up to the score. -/
structure IsDuplicate (a b : Box) : Prop where
  classId : a.classId = b.classId
  x : a.x = b.x
  y : a.y = b.y
  width : a.width = b.width
  height : a.height = b.height

namespace IsDuplicate

lemma iff_and : IsDuplicate a b ↔ a.classId = b.classId ∧ a.x = b.x ∧ a.y = b.y ∧
    a.width = b.width ∧ a.height = b.height :=
  ⟨fun h => ⟨h.classId, h.x, h.y, h.width, h.height⟩,
    fun ⟨hclass, hx, hy, hwidth, hheight⟩ => ⟨hclass, hx, hy, hwidth, hheight⟩⟩

instance (a b : Box) : Decidable (IsDuplicate a b) :=
  decidable_of_iff _ iff_and.symm

lemma refl (a : Box) : IsDuplicate a a := ⟨rfl, rfl, rfl, rfl, rfl⟩

lemma symm (h : IsDuplicate a b) : IsDuplicate b a :=
  ⟨h.classId.symm, h.x.symm, h.y.symm, h.width.symm, h.height.symm⟩

/-- A copy of a box overlaps as the box does. -/
lemma overlap_eq (h : IsDuplicate a b) (measure : OverlapMeasure) (c : Box) :
    overlap measure c a = overlap measure c b := by
  obtain ⟨_, _, _, _, _, _⟩ := a
  obtain ⟨_, _, _, _, _, _⟩ := b
  obtain ⟨rfl, rfl, rfl, rfl, rfl⟩ := h
  rfl

lemma isDegenerate_eq (h : IsDuplicate a b) : b.isDegenerate = a.isDegenerate := by
  unfold isDegenerate
  rw [h.x, h.y, h.width, h.height]

end IsDuplicate

/-- Two copies of one box are left only where it is kept from being compared. -/
lemma pairwise_suppressBy_isGuarded {priority : Box → Float32} {boxes : List Box}
    (hnonneg : 0.0 ≤ threshold) (hle : threshold ≤ 0.99) :
    (suppressBy priority measure threshold boxes).Pairwise fun a b =>
      IsDuplicate a b → a.IsResolved (1 - value threshold) →
        isGuarded measure a = true ∧
          (43 + 57 * value threshold) / 100 * a.exactArea < 1 / 10 ^ 6 := by
  obtain ⟨-, -, hlow, hhigh⟩ := margin_mem hnonneg hle
  refine apart_suppressBy.imp_of_mem fun {a b} ha _ hapart hduplicate hresolved => ?_
  have hproper : a.isDegenerate = false := by
    simpa using List.of_mem_filter (suppressBy_subperm.subset ha)
  have hnot := hapart hduplicate.classId
  rw [← hduplicate.overlap_eq] at hnot
  have hguard : isGuarded measure a = true := by
    by_contra hlarge
    exact hnot (lt_overlap_self hnonneg hle hproper hresolved (Bool.not_eq_true _ ▸ hlarge))
  refine ⟨hguard, ?_⟩
  linarith [hresolved.exactArea_lt_of_isGuarded hlow hhigh hguard]

/-! ### All copies or none -/

/-- All copies of a box are left; or none is, and a box is left that overlaps them more than is
allowed. -/
def AllOrNone (measure : OverlapMeasure) (threshold : Float32) (b : Box)
    (boxes result : List Box) : Prop :=
  (result.filter (IsDuplicate b ·)).Perm (boxes.filter (IsDuplicate b ·)) ∨
    (∀ c ∈ result, ¬ IsDuplicate b c) ∧
      ∃ c ∈ result, c.classId = b.classId ∧ threshold < overlap measure c b

/-- The copies of a proper box are among the proper boxes of its class. -/
lemma filter_ofClass (hproper : b.isDegenerate = false) (boxes : List Box) :
    (ofClass b.classId boxes).filter (IsDuplicate b ·) = boxes.filter (IsDuplicate b ·) := by
  rw [ofClass, List.filter_filter]
  refine List.filter_congr fun c _ => ?_
  by_cases h : IsDuplicate b c
  · simp [h, h.isDegenerate_eq, hproper, h.classId.symm]
  · simp [h]

/-- Copies that do not exclude each other share their lot. -/
lemma allOrNone_suppressBy {priority : Box → Float32} (hproper : b.isDegenerate = false)
    (h : ¬ threshold < overlap measure b b) (boxes : List Box) :
    AllOrNone measure threshold b boxes (suppressBy priority measure threshold boxes) := by
  have hkept : ∀ c ∈ suppressBy priority measure threshold boxes,
      c ∈ boxes ∧ c.isDegenerate = false := fun c hc => by
    simpa using suppressBy_subperm.subset hc
  by_cases hclass : b.classId ∈ classes boxes
  · have hsieve : ofClass b.classId (suppressBy priority measure threshold boxes) =
        sieve (excludes measure threshold) (prioritised priority (ofClass b.classId boxes)) :=
      ofClass_suppressBy hclass
    have hsymm : ∀ c d : Box, excludes measure threshold c d = excludes measure threshold d c :=
      fun c d => decide_eq_decide.2 lt_overlap_comm
    have hsame : ∀ c d k : Box, decide (IsDuplicate b c) = true → decide (IsDuplicate b d) = true →
        excludes measure threshold k c = excludes measure threshold k d := by
      intro c d k hc hd
      unfold excludes
      rw [← (of_decide_eq_true hc).overlap_eq, (of_decide_eq_true hd).overlap_eq]
    have hself : decide (IsDuplicate b b) = true := decide_eq_true (.refl b)
    have hnone : ∀ c d : Box, decide (IsDuplicate b c) = true → decide (IsDuplicate b d) = true →
        excludes measure threshold c d = false := by
      intro c d hc hd
      rw [hsame d b c hd hself, hsymm, hsame c b b hc hself]
      exact decide_eq_false h
    have hlot := filter_sieve_eq_or hsymm hsame hnone
      (prioritised priority (ofClass b.classId boxes))
    rcases hlot with hall | ⟨hno, k, hk, c, -, hc, hkc⟩
    · left
      rw [← filter_ofClass hproper, ← filter_ofClass hproper boxes, hsieve, hall]
      exact (prioritised_perm _).filter _
    · right
      rw [← hsieve] at hk hno
      obtain ⟨hk, -, hclassId⟩ := mem_ofClass.1 hk
      refine ⟨fun d hd hduplicate => hno d ?_ (by simpa using hduplicate), k, hk, hclassId, ?_⟩
      · exact mem_ofClass.2 ⟨hd, (hkept d hd).2, hduplicate.classId.symm⟩
      · rw [(of_decide_eq_true hc).overlap_eq]
        exact of_decide_eq_true hkc
  · -- Without a proper box of the class there is no copy.
    have hnone : ∀ c ∈ boxes, ¬ IsDuplicate b c := fun c hc hduplicate =>
      hclass (mem_classes.2 ⟨c, hc, hduplicate.isDegenerate_eq.trans hproper,
        hduplicate.classId.symm⟩)
    left
    rw [List.filter_eq_nil_iff.2 fun c hc => by simpa using hnone c (hkept c hc).1,
      List.filter_eq_nil_iff.2 fun c hc => by simpa using hnone c hc]

/-- Copies that do not exclude each other, and nothing else: all of them are left. -/
lemma suppressBy_perm_of_copies {priority : Box → Float32} {copies : List Box}
    (hproper : b.isDegenerate = false) (h : ¬ threshold < overlap measure b b)
    (hcopies : ∀ c ∈ copies, IsDuplicate b c) :
    (suppressBy priority measure threshold copies).Perm copies := by
  have hkept : ∀ c ∈ suppressBy priority measure threshold copies, IsDuplicate b c := fun c hc =>
    hcopies c (List.mem_of_mem_filter (suppressBy_subperm.subset hc))
  have hlot : AllOrNone measure threshold b copies
      (suppressBy priority measure threshold copies) := allOrNone_suppressBy hproper h copies
  rcases hlot with hall | ⟨hno, c, hc, -⟩
  · rwa [List.filter_eq_self.2 fun c hc => decide_eq_true (hkept c hc),
      List.filter_eq_self.2 fun c hc => decide_eq_true (hcopies c hc)] at hall
  · exact absurd (hkept c hc) (hno c hc)

/-- **Of two copies of a box one is left, unless it is kept from being compared.**  Let the
threshold be between 0 and 0.99.  Under every measure, whether the score or the area goes first, of
boxes that are the same up to the score two are left only if a number to divide by is below a
millionth, and then the box is hardly larger; or if the corners do not show how large the box is,
as precisely as the threshold demands.  Conversely, where a number to divide by is that small, all
copies of a proper box are left, unless a box is left that overlaps them more than is allowed, and
then none is. -/
theorem pairwise_suppress_duplicates (measure : OverlapMeasure) {threshold : Float32}
    (hnonneg : 0.0 ≤ threshold) (hle : threshold ≤ 0.99) (boxes : List Box) :
    ((suppress measure threshold boxes).Pairwise fun a b =>
        IsDuplicate a b → a.IsResolved (1 - value threshold) →
          isGuarded measure a = true ∧
            (43 + 57 * value threshold) / 100 * a.exactArea < 1 / 10 ^ 6) ∧
      ((suppressByArea measure threshold boxes).Pairwise fun a b =>
        IsDuplicate a b → a.IsResolved (1 - value threshold) →
          isGuarded measure a = true ∧
            (43 + 57 * value threshold) / 100 * a.exactArea < 1 / 10 ^ 6) ∧
      ∀ b : Box, b.isDegenerate = false → isGuarded measure b = true →
        AllOrNone measure threshold b boxes (suppress measure threshold boxes) ∧
          AllOrNone measure threshold b boxes (suppressByArea measure threshold boxes) := by
  refine ⟨pairwise_suppressBy_isGuarded hnonneg hle, pairwise_suppressBy_isGuarded hnonneg hle, ?_⟩
  intro b hproper hguard
  have hnot : ¬ threshold < overlap measure b b := by
    rw [overlap_self_of_isGuarded hguard]
    exact fun hlt => Float32.not_le_of_lt hlt hnonneg
  exact ⟨allOrNone_suppressBy hproper hnot boxes, allOrNone_suppressBy hproper hnot boxes⟩

/-- Two copies of a square in the middle of the unit square. -/
def twins (extent : Float32) : List Box :=
  [⟨0.5, 0.5, extent, extent, 0, 0.875⟩, ⟨0.5, 0.5, extent, extent, 0, 0.75⟩]

/-- Of squares with sides of a 512th one is left, of those with sides of a 2048th both are. -/
theorem pairwise_suppress_twins :
    (0.0 : Float32) ≤ 0.99 ∧ (0.99 : Float32) ≤ 0.99 ∧
      (∀ a ∈ twins 0.001953125, a.IsResolved (1 - value 0.99) ∧
        isGuarded .distance a = false) ∧
      ((suppress .distance 0.99 (twins 0.001953125)).Pairwise fun a b => ¬ IsDuplicate a b) ∧
      (∀ a ∈ twins 0.00048828125, a.isDegenerate = false ∧ isGuarded .distance a = true ∧
        AllOrNone .distance 0.99 a (twins 0.00048828125)
          (suppress .distance 0.99 (twins 0.00048828125))) := by
  have hnonneg : (0.0 : Float32) ≤ 0.99 := by decide
  have hle : (0.99 : Float32) ≤ 0.99 := by decide
  have hextent : value 0.001953125 = 1 / 512 := by
    have hunpack : (0.001953125 : Float32).toModel.unpack =
        .finite .positive 0x800000 (-32) (by decide) := rfl
    rw [value, hunpack, valueOf_finite, apply_positive]
    norm_num
  have hspanned : Float32.IsSpanned (1 - value 0.99) 0.5 0.001953125 := by
    refine ⟨rfl, rfl, ?_, ?_, ?_⟩ <;> rw [hextent]
    · norm_num
    · rw [Float32.value_half]
      norm_num
    · rw [Float32.value_half, value_limit]
      norm_num
  have harea : (1 / 512 : ℚ) * (1 / 512) ≤ 2 ^ 126 := by norm_num
  have hlarge : ∀ a ∈ twins 0.001953125, a.IsResolved (1 - value 0.99) ∧
      isGuarded .distance a = false := by
    intro a ha
    rcases List.mem_pair.1 ha with rfl | rfl <;>
      exact ⟨⟨hspanned, hspanned, by rwa [exactArea, hextent]⟩, by decide +kernel⟩
  obtain ⟨hone, -⟩ := pairwise_suppress_duplicates .distance hnonneg hle (twins 0.001953125)
  obtain ⟨-, -, hall⟩ := pairwise_suppress_duplicates .distance hnonneg hle (twins 0.00048828125)
  have hsmall : ∀ a ∈ twins 0.00048828125, a.isDegenerate = false ∧
      isGuarded .distance a = true := by decide
  refine ⟨hnonneg, hle, hlarge, ?_, fun a ha => ?_⟩
  · refine hone.imp_of_mem fun ha _ h hduplicate => ?_
    obtain ⟨hresolved, hguard⟩ := hlarge _ (mem_of_mem_suppress ha).1
    exact Bool.eq_false_iff.1 hguard (h hduplicate hresolved).1
  · obtain ⟨hproper, hguard⟩ := hsmall a ha
    exact ⟨hproper, hguard, (hall a hproper hguard).1⟩

/-- Both copies of a square with sides of a 2048th are left. -/
theorem not_pairwise_suppress_twins :
    ¬ ∀ (measure : OverlapMeasure) (threshold : Float32) (boxes : List Box),
      0.0 ≤ threshold → threshold ≤ 0.99 →
      (∀ b ∈ boxes, b.x.isFinite ∧ b.y.isFinite ∧ b.width.isFinite ∧ b.height.isFinite ∧
        b.score.isFinite) →
      ((suppress measure threshold boxes).Pairwise fun a b => ¬ IsDuplicate a b) ∧
        (suppressByArea measure threshold boxes).Pairwise fun a b => ¬ IsDuplicate a b := by
  intro hall
  have hboth : (suppress .union 0.5 (twins 0.00048828125)).Perm (twins 0.00048828125) := by
    let b : Box := ⟨0.5, 0.5, 0.00048828125, 0.00048828125, 0, 0.875⟩
    exact suppressBy_perm_of_copies (b := b) (by decide) (by decide) (by decide)
  have hfinite : ∀ b ∈ twins 0.00048828125, b.x.isFinite ∧ b.y.isFinite ∧ b.width.isFinite ∧
      b.height.isFinite ∧ b.score.isFinite := by
    decide
  obtain ⟨hpairwise, -⟩ := hall .union 0.5 (twins 0.00048828125) (by decide) (by decide) hfinite
  rw [hboth.pairwise_iff fun hnot hduplicate => hnot hduplicate.symm] at hpairwise
  exact List.rel_of_pairwise_cons hpairwise (List.mem_singleton.2 rfl) ⟨rfl, rfl, rfl, rfl, rfl⟩

/-- Copies of a small square that a larger one suppresses: none is left. -/
example :
    let large : Box := ⟨0.5, 0.5, 0.0011, 0.0011, 0, 0.875⟩
    let copies : List Box := twins 0.00095
    filterOverlapping .union 0.5 (large :: copies) = [large] ∧
      filterOverlapping .union 0.5 copies = copies := by
  decide

/-- The limits are nearly met: the area of larger boxes may be infinite, and a little further out
one part in 397 may be lost of each extent. -/
example :
    let vast : List Box := twins 18446744073709551616.0
    let remote : List Box := (twins 0.775390625).map fun b =>
      { b with x := 16385.0, y := 16385.0 }
    filterOverlapping .smaller 0.5 vast = vast ∧ filterOverlapping .union 0.99 remote = remote := by
  decide +kernel

end Box

end Detection
