/-
# Where objects land on a picture

Where the aspect ratio was kept, an object is scaled, cut to the used area of the picture and
moved to its place.  Whatever its coordinates are, and whatever the factor is, it comes to lie in
the used area if it is not dropped, and rounding does not change that.  With a positive factor its
corners stay in order.

## Main definitions

* `Picture.area`: the used area, which is the whole picture if nothing was cropped.
* `Corners.IsWithin`, `Corners.IsOrdered`: a rectangle lies in an area; its corners are in order.
* `DetectedObject.IsImageOf`: what an object becomes on a picture.

The main result is `isImageOf_toPicture`.
-/
import Detection.Picture.Mapping
import Detection.Proofs.Number.Whole
import Detection.Proofs.Outcome

namespace Detection

/-! ## Areas -/

/-- The used area of a picture. -/
def Picture.area (p : Picture) : CropArea :=
  p.crop.getD ⟨0, 0, p.width, p.height⟩

namespace Corners

/-- All coordinates of a rectangle are those of points of an area. -/
structure IsWithin (area : CropArea) (c : Corners Float32) : Prop where
  left_mem : Float32.ofNat area.left ≤ c.left ∧ c.left ≤ Float32.ofNat area.right
  top_mem : Float32.ofNat area.top ≤ c.top ∧ c.top ≤ Float32.ofNat area.bottom
  right_mem : Float32.ofNat area.left ≤ c.right ∧ c.right ≤ Float32.ofNat area.right
  bottom_mem : Float32.ofNat area.top ≤ c.bottom ∧ c.bottom ≤ Float32.ofNat area.bottom

/-- The corners of a rectangle are in order. -/
structure IsOrdered (c : Corners Float32) : Prop where
  left_le_right : c.left ≤ c.right
  top_le_bottom : c.top ≤ c.bottom

end Corners

/-- What a picture is checked for. -/
structure Picture.IsValid (p : Picture) : Prop where
  resizedWidth_le : p.resizedWidth ≤ maxEdge
  resizedHeight_le : p.resizedHeight ≤ maxEdge
  right_le : p.area.right ≤ maxEdge
  bottom_le : p.area.bottom ≤ maxEdge
  left_add_usedWidth : p.area.left + p.usedWidth = p.area.right
  top_add_usedHeight : p.area.top + p.usedHeight = p.area.bottom

lemma Picture.isValid_of_check {p : Picture} (h : p.check = .ok ()) : p.IsValid := by
  unfold Picture.check at h
  split at h
  · cases h
  rename_i hresized
  split at h
  · cases h
  rename_i hsize
  rw [not_or, not_lt, not_lt] at hresized hsize
  obtain ⟨width, height, pictureWidth, pictureHeight, resizing, scaling, crop⟩ := p
  rcases crop with _ | crop
  · exact ⟨hresized.1, hresized.2, hsize.1, hsize.2, Nat.zero_add _, Nat.zero_add _⟩
  · dsimp only [CropArea.check] at h
    split at h
    · cases h
    rename_i hedges
    split at h
    · cases h
    rename_i horder
    rw [not_or, not_or, not_or, not_lt, not_lt, not_lt, not_lt] at hedges
    rw [not_or, not_lt, not_lt] at horder
    exact ⟨hresized.1, hresized.2, hedges.2.2.1, hedges.2.2.2,
      Nat.add_sub_cancel' horder.1, Nat.add_sub_cancel' horder.2⟩

/-! ## One axis -/

/-- A coordinate scaled and cut off at zero. -/
def cutLow (scale x : Float32) : Float32 :=
  greatest32 (x * scale) 0.0

/-- A coordinate scaled and cut off at zero and at a number of pixels. -/
def cutBoth (size : ℕ) (scale x : Float32) : Float32 :=
  least32 (cutLow scale x) (Float32.ofNat size)

section Axis

variable {size : ℕ} {scale x y : Float32}

lemma nonneg_cutLow : 0.0 ≤ cutLow scale x :=
  Float32.nonneg_greatest32_zero _

lemma isNaN_cutLow : (cutLow scale x).isNaN = false :=
  (Float32.le_iff.1 nonneg_cutLow).2.1

lemma cutLow_le (h : ¬ Float32.ofNat size < cutLow scale x) :
    cutLow scale x ≤ Float32.ofNat size :=
  (Float32.not_lt (Float32.isNaN_ofNat size) isNaN_cutLow).1 h

/-- Whatever a coordinate is, it is cut to the pixels of the axis. -/
lemma cutBoth_mem : 0.0 ≤ cutBoth size scale x ∧ cutBoth size scale x ≤ Float32.ofNat size := by
  have hthere : (cutBoth size scale x).isNaN = false :=
    isNaN_least32 isNaN_cutLow (Float32.isNaN_ofNat size)
  refine ⟨(le_least32_iff isNaN_cutLow (Float32.isNaN_ofNat size)).2 ?_, ?_⟩
  · exact ⟨nonneg_cutLow, Float32.ofNat_nonneg size⟩
  · exact ((le_least32_iff isNaN_cutLow (Float32.isNaN_ofNat size)).1 (Float32.le_refl hthere)).2

/-- Cutting keeps coordinates in order, if the lower one is not beyond the axis. -/
lemma cutLow_le_cutBoth (hscale : 0.0 ≤ scale) (hxy : x ≤ y)
    (h : ¬ Float32.ofNat size < cutLow scale x) : cutLow scale x ≤ cutBoth size scale y :=
  (le_least32_iff isNaN_cutLow (Float32.isNaN_ofNat size)).2
    ⟨Float32.greatest_mul_le hscale hxy, cutLow_le h⟩

end Axis

/-! ## Scaling and cutting -/

/-- The mapping of a picture whose aspect ratio was kept. -/
def Mapping.cutting (extent : Extent) (scaling offsetX offsetY : Float32) : Mapping Float32 where
  scaleX := Float32.ofNat extent.modelWidth / scaling
  scaleY := Float32.ofNat extent.modelHeight / scaling
  offsetX := offsetX
  offsetY := offsetY
  cut := some (Float32.ofNat extent.pictureWidth, Float32.ofNat extent.pictureHeight)

namespace Mapping

variable {extent : Extent} {resizing : Resizing} {scaling offsetX offsetY : Float32}
  {m : Mapping Float32} {width height : ℕ} {c : Corners Float32}

lemma ofExtent?_eq_ok_iff (hkeeps : resizing.keepsAspect = true) :
    ofExtent? extent resizing scaling offsetX offsetY = .ok m ↔
      Scalar.isTiny scaling = false ∧ m = cutting extent scaling offsetX offsetY := by
  unfold ofExtent?
  dsimp only
  rw [if_pos hkeeps]
  split
  · rename_i htiny
    simp [htiny]
  · rename_i htiny
    rw [Bool.not_eq_true] at htiny
    simp only [htiny, true_and, Except.ok.injEq]
    exact eq_comm

/-- A rectangle is dropped where it begins beyond a number of columns or of rows. -/
def Drops (m : Mapping Float32) (width height : ℕ) (c : Corners Float32) : Prop :=
  Float32.ofNat width < cutLow m.scaleX c.left ∨ Float32.ofNat height < cutLow m.scaleY c.top

instance : Decidable (m.Drops width height c) :=
  inferInstanceAs (Decidable (_ ∨ _))

/-- A rectangle scaled and cut off. -/
def cutCorners (m : Mapping Float32) (width height : ℕ) (c : Corners Float32) :
    Corners Float32 where
  left := cutLow m.scaleX c.left
  top := cutLow m.scaleY c.top
  right := cutBoth width m.scaleX c.right
  bottom := cutBoth height m.scaleY c.bottom

lemma reduce?_eq_ite (hcut : m.cut = some (Float32.ofNat width, Float32.ofNat height))
    (c : Corners Float32) :
    m.reduce? c = if m.Drops width height c then none else some (m.cutCorners width height c) := by
  unfold reduce?
  rw [hcut]
  rfl

end Mapping

/-! ## Objects on a picture -/

/-- The mapping of a picture, if its aspect ratio was kept. -/
def Picture.cutting (p : Picture) : Mapping Float32 :=
  .cutting ⟨p.resizedWidth, p.resizedHeight, p.usedWidth, p.usedHeight⟩ p.scaling
    (Float32.ofNat p.area.left) (Float32.ofNat p.area.top)

section OnPicture

variable {p : Picture} {m : Mapping Float32} {c c' : Corners Float32}
  {objects result : List DetectedObject}

lemma Picture.mapping_eq_ok (hkeeps : p.resizing.keepsAspect = true) (h : p.mapping = .ok m) :
    p.IsValid ∧ m = p.cutting := by
  obtain ⟨extent, hextent, h⟩ := exists_of_bind_eq_ok h
  unfold Picture.extent at hextent
  split at hextent
  · cases hextent
  rename_i hcheck
  obtain rfl := Except.ok.inj hextent
  refine ⟨p.isValid_of_check hcheck, ((Mapping.ofExtent?_eq_ok_iff hkeeps).1 h).2.trans ?_⟩
  have hoffsets : p.offsetX = p.area.left ∧ p.offsetY = p.area.top := by
    unfold Picture.offsetX Picture.offsetY Picture.area
    cases p.crop with
    | none => exact ⟨rfl, rfl⟩
    | some crop => exact ⟨rfl, rfl⟩
  rw [Picture.cutting, hoffsets.1, hoffsets.2]
  rfl

lemma Picture.forward?_cutting_eq_some (h : p.cutting.forward? c = some c') :
    ¬ p.cutting.Drops p.usedWidth p.usedHeight c ∧
      (p.cutting.cutCorners p.usedWidth p.usedHeight c).shift (Float32.ofNat p.area.left)
        (Float32.ofNat p.area.top) = c' := by
  unfold Mapping.forward? at h
  rw [Mapping.reduce?_eq_ite rfl] at h
  split at h
  · cases h
  · rename_i hkept
    exact ⟨hkept, Option.some.inj h⟩

/-- What is not dropped lies in the used area, after rounding, too. -/
lemma Picture.IsValid.isWithin (hp : p.IsValid) (h : p.cutting.forward? c = some c') :
    c'.IsWithin p.area := by
  obtain ⟨hkept, rfl⟩ := Picture.forward?_cutting_eq_some h
  obtain ⟨hleft, htop⟩ := not_or.1 hkept
  have hx : p.area.left + p.usedWidth < 0x800000 :=
    (hp.left_add_usedWidth.trans_le hp.right_le).trans_lt (by decide)
  have hy : p.area.top + p.usedHeight < 0x800000 :=
    (hp.top_add_usedHeight.trans_le hp.bottom_le).trans_lt (by decide)
  -- The ends of an axis are whole numbers of few digits, and moving these is exact.
  constructor
  · rw [← hp.left_add_usedWidth]
    exact Float32.add_ofNat_mem nonneg_cutLow (cutLow_le hleft) hx
  · rw [← hp.top_add_usedHeight]
    exact Float32.add_ofNat_mem nonneg_cutLow (cutLow_le htop) hy
  · rw [← hp.left_add_usedWidth]
    exact Float32.add_ofNat_mem cutBoth_mem.1 cutBoth_mem.2 hx
  · rw [← hp.top_add_usedHeight]
    exact Float32.add_ofNat_mem cutBoth_mem.1 cutBoth_mem.2 hy

/-- With a positive factor the corners stay in order. -/
lemma Picture.IsValid.isOrdered (hp : p.IsValid) (hscaling : 0.0 < p.scaling) (hc : c.IsOrdered)
    (h : p.cutting.forward? c = some c') : c'.IsOrdered := by
  have hscale : ∀ n ≤ maxEdge, 0.0 ≤ Float32.ofNat n / p.scaling := by
    intro n hn
    have hsmall : n < 0x800000 := hn.trans_lt (by decide)
    exact Float32.nonneg_div (Float32.value_ofNat hsmall).1 (Float32.ofNat_nonneg n) hscaling
  have hmoved : ∀ {size offset : ℕ} {scale x y : Float32}, offset + size ≤ maxEdge →
      0.0 ≤ scale → x ≤ y → ¬ Float32.ofNat size < cutLow scale x →
      cutLow scale x + Float32.ofNat offset ≤ cutBoth size scale y + Float32.ofNat offset := by
    intro size offset scale x y hsize hscale hxy hbeyond
    have hfinite : ∀ n ≤ maxEdge, (Float32.ofNat n).isFinite := fun n hn =>
      (Float32.value_ofNat (hn.trans_lt (by decide))).1
    -- What was cut to an axis is finite, whatever it was before.
    have hfsize := hfinite size (by omega)
    exact Float32.add_le_add
      (Float32.isFinite_of_le nonneg_cutLow hfsize (cutLow_le hbeyond))
      (Float32.isFinite_of_le cutBoth_mem.1 hfsize cutBoth_mem.2) (hfinite offset (by omega))
      (cutLow_le_cutBoth hscale hxy hbeyond)
  obtain ⟨hkept, rfl⟩ := Picture.forward?_cutting_eq_some h
  obtain ⟨hleft, htop⟩ := not_or.1 hkept
  exact ⟨hmoved (hp.left_add_usedWidth.trans_le hp.right_le) (hscale _ hp.resizedWidth_le)
      hc.left_le_right hleft,
    hmoved (hp.top_add_usedHeight.trans_le hp.bottom_le) (hscale _ hp.resizedHeight_le)
      hc.top_le_bottom htop⟩

end OnPicture

namespace DetectedObject

/-- An object with its rectangle replaced. -/
structure IsReplaced (f : Corners Float32 → Option (Corners Float32)) (o o' : DetectedObject) :
    Prop where
  corners_eq : f o.corners = some o'.corners
  confidence_eq : o'.confidence = o.confidence
  classId_eq : o'.classId = o.classId

section Replacing

variable {f : Corners Float32 → Option (Corners Float32)} {o : DetectedObject}

lemma mapCorners_cons_of_none (h : f o.corners = none) (rest : List DetectedObject) :
    mapCorners f (o :: rest) = mapCorners f rest := by
  simp [mapCorners, replaceCorners, HasCorners.corners, h]

lemma mapCorners_cons_of_some {c : Corners Float32} (h : f o.corners = some c)
    (rest : List DetectedObject) :
    mapCorners f (o :: rest) = { o with corners := c } :: mapCorners f rest := by
  simp [mapCorners, replaceCorners, HasCorners.corners, HasCorners.withCorners, h]

end Replacing

/-- Replacing rectangles leaves some of the objects, in their order. -/
lemma exists_sublist_mapCorners (f : Corners Float32 → Option (Corners Float32))
    (objects : List DetectedObject) :
    ∃ kept, kept.Sublist objects ∧ List.Forall₂ (IsReplaced f) kept (mapCorners f objects) := by
  induction objects with
  | nil => exact ⟨[], List.Sublist.refl [], List.Forall₂.nil⟩
  | cons o rest ih =>
    obtain ⟨kept, hsublist, hkept⟩ := ih
    cases hcorners : f o.corners with
    | none =>
      rw [mapCorners_cons_of_none hcorners]
      exact ⟨kept, hsublist.cons o, hkept⟩
    | some c =>
      rw [mapCorners_cons_of_some hcorners]
      exact ⟨o :: kept, hsublist.cons_cons o, List.Forall₂.cons ⟨hcorners, rfl, rfl⟩ hkept⟩

/-- What an object becomes on a picture whose aspect ratio was kept. -/
structure IsImageOf (p : Picture) (o o' : DetectedObject) : Prop where
  /-- It is replaced as the mapping says, and nothing else of it changes. -/
  isReplaced : IsReplaced p.cutting.forward? o o'
  /-- It lies in the used area. -/
  isWithin : o'.corners.IsWithin p.area
  /-- Corners in order stay in order, with a positive factor. -/
  isOrdered : 0.0 < p.scaling → o.corners.IsOrdered → o'.corners.IsOrdered

/-- **Objects land on the picture.**  Where the aspect ratio was kept and objects can be mapped to
a picture, what comes out are images of some of them, in their order: each lies in the used area,
whatever the coordinates and the factor were, and keeps its confidence and class; and if the
factor is positive, corners that were in order still are. -/
theorem isImageOf_toPicture {p : Picture} (hkeeps : p.resizing.keepsAspect = true)
    {objects result : List DetectedObject} (h : toPicture p objects = .ok result) :
    ∃ kept, kept.Sublist objects ∧ List.Forall₂ (IsImageOf p) kept result := by
  obtain ⟨m, hmapping, h⟩ := exists_of_bind_eq_ok h
  obtain ⟨hp, rfl⟩ := Picture.mapping_eq_ok hkeeps hmapping
  obtain rfl := Except.ok.inj h
  obtain ⟨kept, hsublist, hkept⟩ := exists_sublist_mapCorners p.cutting.forward? objects
  refine ⟨kept, hsublist, hkept.imp fun o o' hreplaced => ⟨hreplaced, ?_, ?_⟩⟩
  · exact hp.isWithin hreplaced.corners_eq
  · exact fun hscaling ho => hp.isOrdered hscaling ho hreplaced.corners_eq

/-- A picture of which an area was used, at half its size. -/
def halvedPicture : Picture :=
  ⟨64, 64, 200, 200, .tensorflowAspect, 0.5, some ⟨10, 20, 110, 120⟩⟩

/-- An object that reaches beyond the right edge of the area. -/
def atRightEdge : DetectedObject :=
  ⟨⟨0.5, 0.25, 1.0, 0.5⟩, 0.75, 1⟩

/-- An object below the area. -/
def belowArea : DetectedObject :=
  ⟨⟨0.25, 0.875, 0.5, 1.0⟩, 0.5, 2⟩

theorem isImageOf_atRightEdge :
    halvedPicture.resizing.keepsAspect = true ∧
      toPicture halvedPicture [belowArea, atRightEdge] =
        .ok [⟨⟨74.0, 52.0, 110.0, 84.0⟩, 0.75, 1⟩] ∧
      ∃ kept, kept.Sublist [belowArea, atRightEdge] ∧
        List.Forall₂ (IsImageOf halvedPicture) kept [⟨⟨74.0, 52.0, 110.0, 84.0⟩, 0.75, 1⟩] := by
  have hkeeps : halvedPicture.resizing.keepsAspect = true := rfl
  have hmapped : toPicture halvedPicture [belowArea, atRightEdge] =
      .ok [⟨⟨74.0, 52.0, 110.0, 84.0⟩, 0.75, 1⟩] := by
    decide +kernel
  exact ⟨hkeeps, hmapped, isImageOf_toPicture hkeeps hmapped⟩

end DetectedObject

end Detection
