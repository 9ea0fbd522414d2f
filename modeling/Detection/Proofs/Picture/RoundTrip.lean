/-
# To a picture and back

Read without rounding, mapping objects to a picture and back gives the same objects, where each
axis was stretched.  Where the aspect ratio was kept, the way back does not restore what was cut:
objects that begin beyond the used area are missing, and the coordinates of the others are those
that they had, clamped to what the area shows of the model's input.

## Main definitions

* `Corners.IsBeyond`, `Corners.clampTo`: a rectangle begins beyond an area, and is clamped to it.
* `ExactObject`: an object with exact coordinates.
* `Picture.shown`: how much of the model's input the used area shows.

The main result is `Picture.place_bind_unplace`.
-/
import Detection.Picture.Mapping
import Detection.Proofs.Number.Exact
import Detection.Proofs.Outcome

namespace Detection

/-! ## One axis -/

section Axis

variable {x s d size : ℚ}

lemma mul_add_sub_div (hs : s ≠ 0) : (x * s + d - d) / s = x := by
  rw [add_sub_cancel_right, mul_div_cancel_right₀ x hs]

lemma max_mul_add_sub_div (hs : 0 < s) : (max (x * s) 0 + d - d) / s = max x 0 := by
  rw [add_sub_cancel_right, ← max_div_div_right hs.le, mul_div_cancel_right₀ x hs.ne', zero_div]

lemma min_max_mul_add_sub_div (hs : 0 < s) :
    (min (max (x * s) 0) size + d - d) / s = min (max x 0) (size / s) := by
  rw [add_sub_cancel_right, ← min_div_div_right hs.le, ← max_div_div_right hs.le,
    mul_div_cancel_right₀ x hs.ne', zero_div]

/-- That everything before zero is cut off does not matter for what is beyond the axis. -/
lemma lt_max_mul_iff (hs : 0 < s) (hsize : 0 ≤ size) : size < max (x * s) 0 ↔ size / s < x := by
  rw [lt_max_iff, div_lt_iff₀ hs, or_iff_left hsize.not_gt]

end Axis

/-! ## Rectangles -/

namespace Corners

/-- A rectangle begins beyond an area. -/
def IsBeyond (width height : ℚ) (c : Corners ℚ) : Prop :=
  width < c.left ∨ height < c.top

instance {width height : ℚ} {c : Corners ℚ} : Decidable (c.IsBeyond width height) :=
  inferInstanceAs (Decidable (_ ∨ _))

/-- A rectangle whose upper left corner is kept from falling below zero, and whose lower right
corner is kept in an area. -/
def clampTo (width height : ℚ) (c : Corners ℚ) : Corners ℚ where
  left := max c.left 0
  top := max c.top 0
  right := min (max c.right 0) width
  bottom := min (max c.bottom 0) height

end Corners

namespace Mapping

variable {m : Mapping ℚ} {width height : ℚ}

lemma isInvertible_of_le (hx : 1e-6 ≤ m.scaleX) (hy : 1e-6 ≤ m.scaleY) :
    m.isInvertible = true := by
  rw [isInvertible, Scalar.isTiny_ofField_of_le hx, Scalar.isTiny_ofField_of_le hy]
  rfl

/-- Where nothing is cut, a rectangle comes back as it was. -/
lemma backward_forward?_of_cut_eq_none (hcut : m.cut = none) (hx : m.scaleX ≠ 0)
    (hy : m.scaleY ≠ 0) (c : Corners ℚ) : (m.forward? c).map m.backward = some c := by
  have hforward : m.forward? c = some ((c.scale m.scaleX m.scaleY).shift m.offsetX m.offsetY) := by
    rw [forward?, reduce?, hcut]
    rfl
  rw [hforward]
  change some (⟨(c.left * m.scaleX + m.offsetX - m.offsetX) / m.scaleX,
    (c.top * m.scaleY + m.offsetY - m.offsetY) / m.scaleY,
    (c.right * m.scaleX + m.offsetX - m.offsetX) / m.scaleX,
    (c.bottom * m.scaleY + m.offsetY - m.offsetY) / m.scaleY⟩ : Corners ℚ) = some c
  simp only [mul_add_sub_div hx, mul_add_sub_div hy]

/-- Where rectangles are cut, one comes back clamped, unless it begins beyond the area. -/
lemma backward_forward?_of_cut_eq_some (hcut : m.cut = some (width, height))
    (hx : 0 < m.scaleX) (hy : 0 < m.scaleY) (hwidth : 0 ≤ width) (hheight : 0 ≤ height)
    (c : Corners ℚ) :
    (m.forward? c).map m.backward =
      if c.IsBeyond (width / m.scaleX) (height / m.scaleY) then none
      else some (c.clampTo (width / m.scaleX) (height / m.scaleY)) := by
  have hreduce : m.reduce? c =
      if width < max (c.left * m.scaleX) 0 ∨ height < max (c.top * m.scaleY) 0 then none
      else some ⟨max (c.left * m.scaleX) 0, max (c.top * m.scaleY) 0,
        min (max (c.right * m.scaleX) 0) width, min (max (c.bottom * m.scaleY) 0) height⟩ := by
    rw [← Scalar.zero_ofField (K := ℚ), reduce?, hcut]
    rfl
  have hbeyond : c.IsBeyond (width / m.scaleX) (height / m.scaleY) ↔
      width < max (c.left * m.scaleX) 0 ∨ height < max (c.top * m.scaleY) 0 := by
    rw [lt_max_mul_iff hx hwidth, lt_max_mul_iff hy hheight, Corners.IsBeyond]
  rw [forward?, hreduce]
  by_cases h : c.IsBeyond (width / m.scaleX) (height / m.scaleY)
  · rw [if_pos h, if_pos (hbeyond.1 h)]
    rfl
  · rw [if_neg h, if_neg (mt hbeyond.2 h)]
    change some (⟨(max (c.left * m.scaleX) 0 + m.offsetX - m.offsetX) / m.scaleX,
      (max (c.top * m.scaleY) 0 + m.offsetY - m.offsetY) / m.scaleY,
      (min (max (c.right * m.scaleX) 0) width + m.offsetX - m.offsetX) / m.scaleX,
      (min (max (c.bottom * m.scaleY) 0) height + m.offsetY - m.offsetY) / m.scaleY⟩ :
        Corners ℚ) = some _
    simp only [max_mul_add_sub_div hx, max_mul_add_sub_div hy, min_max_mul_add_sub_div hx,
      min_max_mul_add_sub_div hy]
    rfl

end Mapping

/-! ## Objects -/

/-- An object whose coordinates are exact. -/
structure ExactObject where
  /-- Where it is. -/
  corners : Corners ℚ
  /-- How certain it is. -/
  confidence : Float32
  /-- What it is. -/
  classId : ℕ
deriving DecidableEq

instance : HasCorners ExactObject ℚ where
  corners o := o.corners
  withCorners o c := { o with corners := c }

namespace ExactObject

/-- An object clamped to an area. -/
def clampTo (width height : ℚ) (o : ExactObject) : ExactObject :=
  { o with corners := o.corners.clampTo width height }

variable {objects : List ExactObject}

/-- Rectangles replaced twice are replaced by what the second function makes of the first. -/
lemma replaceCorners_replaceCorners (f : Corners ℚ → Option (Corners ℚ))
    (g : Corners ℚ → Corners ℚ) :
    replaceCorners (fun c => some (g c)) (replaceCorners f objects) =
      replaceCorners (fun c => (f c).map g) objects := by
  rw [replaceCorners, replaceCorners, List.filterMap_filterMap, replaceCorners]
  refine List.filterMap_congr fun o _ => ?_
  cases h : f (HasCorners.corners o) with
  | none => rfl
  | some c => rfl

lemma replaceCorners_some : replaceCorners some objects = objects :=
  List.filterMap_some

/-- Dropping some rectangles and clamping the others is the same for objects. -/
lemma replaceCorners_clampTo (width height : ℚ) :
    replaceCorners (fun c => if c.IsBeyond width height then none
        else some (c.clampTo width height)) objects =
      (objects.filter fun o => ¬ o.corners.IsBeyond width height).map (clampTo width height) := by
  rw [← List.filterMap_eq_map, List.filterMap_filter, replaceCorners]
  refine List.filterMap_congr fun o _ => ?_
  change Option.map _ (if o.corners.IsBeyond width height then _ else _) = _
  by_cases h : o.corners.IsBeyond width height
  · rw [if_pos h, if_neg (by simpa using h)]
    rfl
  · rw [if_neg h, if_pos (by simpa using h)]
    rfl

end ExactObject

/-! ## The way of a picture -/

namespace Picture

variable {p : Picture} {m : Mapping ℚ} {scaling : ℚ}

/-- How much of the model's input the used area shows, where the aspect ratio was kept. -/
def shown (p : Picture) (scaling : ℚ) : ℚ × ℚ :=
  (p.usedWidth / (p.resizedWidth / scaling), p.usedHeight / (p.resizedHeight / scaling))

/-- With a mapping that can be undone, the way there and back replaces each rectangle once. -/
lemma place_bind_unplace_of_mappingBy (hm : p.mappingBy scaling = .ok m)
    (hinvertible : m.isInvertible = true) (objects : List ExactObject) :
    (p.place scaling objects >>= p.unplace scaling) =
      .ok (replaceCorners (fun c => (m.forward? c).map m.backward) objects) := by
  rw [place, hm, ok_bind, ← ExactObject.replaceCorners_replaceCorners]
  change p.unplace scaling _ = _
  rw [unplace, hm, ok_bind, if_pos hinvertible]
  rfl

lemma mappingBy_of_check (hp : p.check = .ok ()) (scaling : ℚ) :
    p.mappingBy scaling =
      Mapping.ofExtent? ⟨p.resizedWidth, p.resizedHeight, p.usedWidth, p.usedHeight⟩ p.resizing
        scaling p.offsetX p.offsetY := by
  rw [mappingBy, extent, hp]
  rfl

/-- Where the axes were stretched, everything comes back. -/
lemma place_bind_unplace_of_stretched (hp : p.check = .ok ())
    (hkeeps : p.resizing.keepsAspect = false) (hwidth : p.usedWidth ≠ 0)
    (hheight : p.usedHeight ≠ 0) (objects : List ExactObject) :
    (p.place scaling objects >>= p.unplace scaling) = .ok objects := by
  obtain ⟨m, hm, hx, hy, hcut⟩ : ∃ m : Mapping ℚ, p.mappingBy scaling = .ok m ∧
      m.scaleX = p.usedWidth ∧ m.scaleY = p.usedHeight ∧ m.cut = none := by
    rw [mappingBy_of_check hp, Mapping.ofExtent?, hkeeps]
    exact ⟨_, rfl, rfl, rfl, rfl⟩
  have hle : ∀ {n : ℕ}, n ≠ 0 → (1e-6 : ℚ) ≤ n := fun hn =>
    le_trans (by norm_num) (Nat.one_le_cast.2 (Nat.one_le_iff_ne_zero.2 hn))
  have hinvertible : m.isInvertible = true :=
    Mapping.isInvertible_of_le (hx ▸ hle hwidth) (hy ▸ hle hheight)
  have hback : ∀ c, (m.forward? c).map m.backward = some c :=
    Mapping.backward_forward?_of_cut_eq_none hcut (hx ▸ Nat.cast_ne_zero.2 hwidth)
      (hy ▸ Nat.cast_ne_zero.2 hheight)
  rw [place_bind_unplace_of_mappingBy hm hinvertible, funext hback,
    ExactObject.replaceCorners_some]

/-- Where the aspect ratio was kept, what comes back is clamped to what is shown. -/
lemma place_bind_unplace_of_keepsAspect (hp : p.check = .ok ())
    (hkeeps : p.resizing.keepsAspect = true) (hscaling : 1e-6 ≤ scaling)
    (hwidth : 1e-6 ≤ p.resizedWidth / scaling) (hheight : 1e-6 ≤ p.resizedHeight / scaling)
    (objects : List ExactObject) :
    (p.place scaling objects >>= p.unplace scaling) =
      .ok ((objects.filter fun o =>
          ¬ o.corners.IsBeyond (p.shown scaling).1 (p.shown scaling).2).map
        (ExactObject.clampTo (p.shown scaling).1 (p.shown scaling).2)) := by
  have htiny : Scalar.isTiny scaling = false := Scalar.isTiny_ofField_of_le hscaling
  obtain ⟨m, hm, hx, hy, hcut⟩ : ∃ m : Mapping ℚ, p.mappingBy scaling = .ok m ∧
      m.scaleX = p.resizedWidth / scaling ∧ m.scaleY = p.resizedHeight / scaling ∧
      m.cut = some (↑p.usedWidth, ↑p.usedHeight) := by
    rw [mappingBy_of_check hp, Mapping.ofExtent?, hkeeps, htiny]
    exact ⟨_, rfl, rfl, rfl, rfl⟩
  have hpos : ∀ {s : ℚ}, 1e-6 ≤ s → 0 < s := fun hs => lt_of_lt_of_le (by norm_num) hs
  have hback := Mapping.backward_forward?_of_cut_eq_some hcut (hx ▸ hpos hwidth)
    (hy ▸ hpos hheight) (Nat.cast_nonneg p.usedWidth) (Nat.cast_nonneg p.usedHeight)
  rw [hx, hy] at hback
  rw [place_bind_unplace_of_mappingBy hm (Mapping.isInvertible_of_le (hx ▸ hwidth) (hy ▸ hheight)),
    funext hback, ExactObject.replaceCorners_clampTo]
  rfl

/-- **To a picture and back.**  Without rounding, objects that are mapped to a valid picture and
back are the same as before, if the axes were stretched and the used area is not empty.  If the
aspect ratio was kept and neither the factor nor a scale is too small, the objects that begin
beyond what is shown are missing, and each of the others is clamped to what is shown. -/
theorem place_bind_unplace (hp : p.check = .ok ()) (scaling : ℚ) (objects : List ExactObject) :
    (p.resizing.keepsAspect = false → p.usedWidth ≠ 0 → p.usedHeight ≠ 0 →
      (p.place scaling objects >>= p.unplace scaling) = .ok objects) ∧
    (p.resizing.keepsAspect = true → 1e-6 ≤ scaling →
      1e-6 ≤ p.resizedWidth / scaling → 1e-6 ≤ p.resizedHeight / scaling →
      (p.place scaling objects >>= p.unplace scaling) =
        .ok ((objects.filter fun o =>
            ¬ o.corners.IsBeyond (p.shown scaling).1 (p.shown scaling).2).map
          (ExactObject.clampTo (p.shown scaling).1 (p.shown scaling).2))) := by
  constructor
  · intro hkeeps hwidth hheight
    exact place_bind_unplace_of_stretched hp hkeeps hwidth hheight objects
  · intro hkeeps hscaling hwidth hheight
    exact place_bind_unplace_of_keepsAspect hp hkeeps hscaling hwidth hheight objects

/-- A picture of which an area was used. -/
def cropped (resizing : Resizing) : Picture :=
  ⟨64, 64, 200, 200, resizing, 0.5, some ⟨10, 20, 110, 120⟩⟩

/-- An object that reaches beyond what is shown where the aspect ratio was kept, and one that
begins there. -/
def twoObjects : List ExactObject :=
  [⟨⟨1 / 2, -1 / 4, 1, 1 / 2⟩, 0.75, 1⟩, ⟨⟨1 / 4, 7 / 8, 1 / 2, 1⟩, 0.5, 2⟩]

theorem place_bind_unplace_cropped :
    (cropped .stretch).check = .ok () ∧ (cropped .tensorflowAspect).check = .ok () ∧
      ((cropped .stretch).place (1 / 2) twoObjects >>= (cropped .stretch).unplace (1 / 2)) =
        .ok twoObjects ∧
      ((cropped .tensorflowAspect).place (1 / 2) twoObjects >>=
          (cropped .tensorflowAspect).unplace (1 / 2)) =
        .ok [⟨⟨1 / 2, 0, 25 / 32, 1 / 2⟩, 0.75, 1⟩] := by
  have hstretched : (cropped .stretch).check = .ok () := rfl
  have hkept : (cropped .tensorflowAspect).check = .ok () := rfl
  have hscale : (1e-6 : ℚ) ≤ (cropped .tensorflowAspect).resizedWidth / (1 / 2) := by decide +kernel
  refine ⟨hstretched, hkept, ?_, ?_⟩
  · exact (place_bind_unplace hstretched (1 / 2) twoObjects).1 rfl (by decide) (by decide)
  · rw [(place_bind_unplace hkept (1 / 2) twoObjects).2 rfl (by norm_num) hscale hscale]
    decide +kernel

end Picture

end Detection
