/-
# Which objects are dropped

An object that lies outside of the used area of a picture should be dropped, be it beyond the right
or the lower edge, or before the left or the upper one.  The place where an object begins is
compared with the extents of the area, but only after everything before the area was cut off.  So
an object beyond the area is dropped, while one before it is moved to its edge and kept, without
any width or height.

## Main definitions

* `DetectedObject.scaled`: the rectangle of an object in pixels.
* `Corners.BeginsBeyond`, `Corners.EndsBefore`: a rectangle lies outside of an area.
* `DetectedObject.clipTo`: an object cut to an area.

The main result is `reduceObjects_eq_ok_iff`.
-/
import Detection.Proofs.Picture.Landing

namespace Detection

/-! ## Outside of an area -/

namespace Corners

/-- A rectangle begins beyond the right or the lower edge of an area that begins at zero. -/
def BeginsBeyond (extent : Extent) (c : Corners Float32) : Prop :=
  Float32.ofNat extent.pictureWidth < c.left ∨ Float32.ofNat extent.pictureHeight < c.top

/-- A rectangle ends before the left or the upper edge of an area that begins at zero. -/
def EndsBefore (c : Corners Float32) : Prop :=
  c.right < 0.0 ∨ c.bottom < 0.0

instance (extent : Extent) (c : Corners Float32) : Decidable (c.BeginsBeyond extent) :=
  inferInstanceAs (Decidable (_ ∨ _))

instance (c : Corners Float32) : Decidable c.EndsBefore :=
  inferInstanceAs (Decidable (_ ∨ _))

end Corners

/-- Where fewer members of a list are chosen, as many are only if they are the same. -/
lemma map_filter_eq_map_filter_iff {α β : Type} {f : α → β} {p q : α → Bool} {list : List α}
    (h : ∀ a ∈ list, q a → p a) :
    (list.filter p).map f = (list.filter q).map f ↔ ∀ a ∈ list, p a → q a := by
  constructor
  · intro hmap a ha hp
    have hlength : (list.filter q).length = (list.filter p).length := by
      simpa using (congrArg List.length hmap).symm
    have hfilter : list.filter q = (list.filter p).filter q := by
      rw [List.filter_filter]
      refine List.filter_congr fun b hb => ?_
      cases hq : q b with
      | false => rfl
      | true => rw [h b hb hq, Bool.and_self]
    have hsublist : (list.filter q).Sublist (list.filter p) := by
      rw [hfilter]
      exact List.filter_sublist
    have hmem : a ∈ list.filter q := by
      rw [hsublist.eq_of_length hlength]
      exact List.mem_filter.2 ⟨ha, hp⟩
    exact (List.mem_filter.1 hmem).2
  · intro hall
    rw [List.filter_congr fun a ha => Bool.eq_iff_iff.2 ⟨hall a ha, h a ha⟩]

namespace DetectedObject

/-- The rectangle of an object in pixels. -/
def scaled (extent : Extent) (scaling : Float32) (o : DetectedObject) : Corners Float32 :=
  o.corners.scale (Float32.ofNat extent.modelWidth / scaling)
    (Float32.ofNat extent.modelHeight / scaling)

/-- An object in pixels, cut to the used area. -/
def clipTo (extent : Extent) (scaling : Float32) (o : DetectedObject) : DetectedObject :=
  { o with
    corners := (Mapping.cutting extent scaling 0.0 0.0).cutCorners extent.pictureWidth
      extent.pictureHeight o.corners }

section

variable {extent : Extent} {resizing : Resizing} {scaling : Float32} {o : DetectedObject}
  {objects : List DetectedObject}

/-- That everything before the area is cut off first does not matter for what is beyond it. -/
lemma drops_iff : (Mapping.cutting extent scaling 0.0 0.0).Drops extent.pictureWidth
    extent.pictureHeight o.corners ↔ (o.scaled extent scaling).BeginsBeyond extent :=
  or_congr (Float32.lt_greatest32_zero_iff (Float32.ofNat_nonneg _))
    (Float32.lt_greatest32_zero_iff (Float32.ofNat_nonneg _))

/-- What is not dropped is cut to the area. -/
lemma mapCorners_reduce?_cutting (objects : List DetectedObject) :
    mapCorners (Mapping.cutting extent scaling 0.0 0.0).reduce? objects =
      (objects.filter fun o => ¬ (o.scaled extent scaling).BeginsBeyond extent).map
        (clipTo extent scaling) := by
  induction objects with
  | nil => rfl
  | cons o rest ih =>
    have hreduce := Mapping.reduce?_eq_ite (m := .cutting extent scaling 0.0 0.0) rfl o.corners
    by_cases hbeyond : (o.scaled extent scaling).BeginsBeyond extent
    · rw [if_pos (drops_iff.2 hbeyond)] at hreduce
      rw [mapCorners_cons_of_none hreduce, ih, List.filter_cons_of_neg (by simpa using hbeyond)]
    · rw [if_neg (drops_iff.not.2 hbeyond)] at hreduce
      rw [mapCorners_cons_of_some hreduce, ih, List.filter_cons_of_pos (by simpa using hbeyond),
        List.map_cons]
      rfl

/-- What ends before the area is left with its end on the edge, and with its beginning there, too,
if that was in order. -/
lemma cutBoth_eq_zero {size : ℕ} {scale x y : Float32} (h : y * scale < 0.0) :
    cutBoth size scale y = 0.0 ∧ (x * scale ≤ y * scale → cutLow scale x = 0.0) := by
  have hlow : ∀ {z : Float32}, z * scale < 0.0 → cutLow scale z = 0.0 := by
    intro z hz
    unfold cutLow greatest32
    rw [(Float32.lt_iff.1 hz).1, if_neg Bool.false_ne_true, if_pos hz]
  have hsize : ¬ Float32.ofNat size < 0.0 := fun hlt =>
    Float32.not_le_of_lt hlt (Float32.ofNat_nonneg size)
  refine ⟨?_, fun hle => hlow (Float32.lt_of_le_of_lt hle h)⟩
  unfold cutBoth least32
  rw [hlow h, if_neg hsize]
  exact if_neg (by decide)

/-- **Objects before the picture are not dropped.**  Where the aspect ratio was kept, exactly those
objects are dropped that begin beyond the used area.  So the objects that are left are those that
have a point with the area in common if and only if none ends before the area, unless it begins
beyond it.  An object that ends before the area and is kept is left without a width or a height,
on the edge of the area. -/
theorem reduceObjects_eq_ok_iff (hkeeps : resizing.keepsAspect = true)
    (hscaling : Scalar.isTiny scaling = false) (extent : Extent) (objects : List DetectedObject) :
    reduceObjects extent resizing scaling objects =
        .ok ((objects.filter fun o => ¬ (o.scaled extent scaling).BeginsBeyond extent).map
          (clipTo extent scaling)) ∧
      (reduceObjects extent resizing scaling objects =
          .ok ((objects.filter fun o => ¬ ((o.scaled extent scaling).BeginsBeyond extent ∨
            (o.scaled extent scaling).EndsBefore)).map (clipTo extent scaling)) ↔
        ∀ o ∈ objects, (o.scaled extent scaling).EndsBefore →
          (o.scaled extent scaling).BeginsBeyond extent) ∧
      ∀ o ∈ objects, (o.scaled extent scaling).IsOrdered →
        ((o.scaled extent scaling).right < 0.0 → (o.clipTo extent scaling).corners.left = 0.0 ∧
          (o.clipTo extent scaling).corners.right = 0.0) ∧
        ((o.scaled extent scaling).bottom < 0.0 → (o.clipTo extent scaling).corners.top = 0.0 ∧
          (o.clipTo extent scaling).corners.bottom = 0.0) := by
  have hreduce : reduceObjects extent resizing scaling objects =
      .ok ((objects.filter fun o => ¬ (o.scaled extent scaling).BeginsBeyond extent).map
        (clipTo extent scaling)) := by
    unfold reduceObjects
    rw [(Mapping.ofExtent?_eq_ok_iff hkeeps).2 ⟨hscaling, rfl⟩, ok_bind, mapCorners_reduce?_cutting]
    rfl
  refine ⟨hreduce, ?_, ?_⟩
  · -- The objects that have a point in common with the area are among those that are left.
    rw [hreduce, Except.ok.injEq, map_filter_eq_map_filter_iff]
    · refine forall₂_congr fun o _ => ?_
      simp only [decide_eq_true_eq, not_or]
      exact ⟨fun h hbefore => not_not.1 fun hbeyond => (h hbeyond).2 hbefore,
        fun h hbeyond => ⟨hbeyond, fun hbefore => hbeyond (h hbefore)⟩⟩
    · intro o _ hmeets
      simp only [decide_eq_true_eq, not_or] at hmeets ⊢
      exact hmeets.1
  · intro o _ hordered
    constructor
    · intro hright
      obtain ⟨hend, hbegin⟩ := cutBoth_eq_zero hright
      exact ⟨hbegin hordered.left_le_right, hend⟩
    · intro hbottom
      obtain ⟨hend, hbegin⟩ := cutBoth_eq_zero hbottom
      exact ⟨hbegin hordered.top_le_bottom, hend⟩

end

/-! ## Three objects -/

/-- A picture of twice the extents of the model's input. -/
def doubledExtent : Extent :=
  ⟨64, 64, 128, 128⟩

/-- An object on the picture. -/
def onPicture : DetectedObject :=
  ⟨⟨0.25, 0.25, 0.5, 0.5⟩, 0.75, 1⟩

/-- An object below the picture. -/
def belowPicture : DetectedObject :=
  ⟨⟨0.25, 1.5, 0.5, 2.0⟩, 0.75, 1⟩

theorem reduceObjects_onPicture_belowPicture :
    Resizing.tensorflowAspect.keepsAspect = true ∧ Scalar.isTiny (0.5 : Float32) = false ∧
      reduceObjects doubledExtent .tensorflowAspect 0.5 [onPicture, belowPicture] =
        .ok (([onPicture, belowPicture].filter fun o =>
          ¬ ((o.scaled doubledExtent 0.5).BeginsBeyond doubledExtent ∨
            (o.scaled doubledExtent 0.5).EndsBefore)).map (clipTo doubledExtent 0.5)) ∧
      reduceObjects doubledExtent .tensorflowAspect 0.5 [onPicture, belowPicture] =
        .ok [⟨⟨32.0, 32.0, 64.0, 64.0⟩, 0.75, 1⟩] := by
  have hkeeps : Resizing.tensorflowAspect.keepsAspect = true := rfl
  have hscaling : Scalar.isTiny (0.5 : Float32) = false := rfl
  have hnone : ∀ o ∈ [onPicture, belowPicture], (o.scaled doubledExtent 0.5).EndsBefore →
      (o.scaled doubledExtent 0.5).BeginsBeyond doubledExtent := by
    decide
  obtain ⟨-, hmeets, -⟩ :=
    reduceObjects_eq_ok_iff hkeeps hscaling doubledExtent [onPicture, belowPicture]
  exact ⟨hkeeps, hscaling, hmeets.2 hnone, rfl⟩

/-- An object to the left of the picture. -/
def leftOfPicture : DetectedObject :=
  ⟨⟨-0.5, 0.25, -0.25, 0.5⟩, 0.75, 1⟩

/-- It is kept, without a width. -/
theorem not_reduceObjects_leftOfPicture :
    ¬ ∀ (extent : Extent) (resizing : Resizing) (scaling : Float32)
      (objects : List DetectedObject), resizing.keepsAspect = true → 0.0 < scaling →
        scaling.isFinite → Scalar.isTiny scaling = false →
        (∀ o ∈ objects, o.corners.toList.all Float32.isFinite ∧ o.corners.IsOrdered) →
        reduceObjects extent resizing scaling objects =
          .ok ((objects.filter fun o => ¬ ((o.scaled extent scaling).BeginsBeyond extent ∨
            (o.scaled extent scaling).EndsBefore)).map (clipTo extent scaling)) := by
  intro hall
  have hproper : ∀ o ∈ [leftOfPicture],
      o.corners.toList.all Float32.isFinite ∧ o.corners.IsOrdered := by
    intro o ho
    obtain rfl := List.mem_singleton.1 ho
    exact ⟨rfl, rfl, rfl⟩
  have hclaimed := hall doubledExtent .tensorflowAspect 0.5 [leftOfPicture] rfl
    rfl rfl rfl hproper
  have hnone : [leftOfPicture].filter (fun o =>
      ¬ ((o.scaled doubledExtent 0.5).BeginsBeyond doubledExtent ∨
        (o.scaled doubledExtent 0.5).EndsBefore)) = [] := rfl
  have hkept : reduceObjects doubledExtent .tensorflowAspect 0.5 [leftOfPicture] =
      .ok [⟨⟨0.0, 32.0, 0.0, 64.0⟩, 0.75, 1⟩] := rfl
  rw [hkept, hnone] at hclaimed
  exact List.cons_ne_nil _ _ (Except.ok.inj hclaimed)

end DetectedObject

end Detection
