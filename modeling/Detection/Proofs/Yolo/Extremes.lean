/-
# Extreme outputs

A frame is refused if a single object is off every picture.  Where the detector activates the
outputs of a network itself, this does not happen, whatever the outputs are.  The centre of an
object is missing or not far from the picture, since the logistic function has a bounded range, and
its extent is missing or not below zero; so what is left of it after it was cut to the picture is on
the picture.

## Main definitions

* `IsNearPicture`: what is known of a rectangle in centre form, whatever the outputs are.

The main result is `exists_decode_eq_ok`.
-/
import Detection.Proofs.Number.Intervals
import Detection.Proofs.Number.Truncation
import Detection.Proofs.Yolo.Reads

namespace Detection
namespace Yolo

/-! ## Coordinates on the picture -/

lemma isOnPicture_of_mem {a : Float32} (hlow : -0.5 ≤ a) (hhigh : a ≤ 4.0) :
    DetectedObject.isOnPicture a = true := by
  have hfinite : a.isFinite := Float32.isFinite_of_le_of_le rfl rfl hlow hhigh
  have hvalue := Float32.value_le_value rfl hfinite hlow
  have hvalue' := Float32.value_le_value hfinite rfl hhigh
  rw [Float32.value_neg_half] at hvalue
  rw [Float32.value_four] at hvalue'
  have hwhole := Float32.wholePart32_mem (n := maxEdge) hfinite (by linarith)
    (by norm_num [maxEdge]; linarith)
  unfold DetectedObject.isOnPicture
  simp [hfinite, hwhole]

/-- The edge of an object on the near side, cut off at zero. -/
lemma isOnPicture_near {centre extent : Float32} (hcentre : Float32.Between (-0.5) 4.0 centre)
    (hextent : Float32.MissingOrNonneg extent) :
    DetectedObject.isOnPicture (greatest32 (centre - extent / 2.0) 0.0) = true := by
  have hedge : (centre - extent / 2.0).isNaN = true ∨ centre - extent / 2.0 ≤ 4.0 := by
    rcases hcentre with hmissing | ⟨hlow, hhigh⟩
    · exact .inl (Float32.isNaN_sub (.inl hmissing))
    rcases hextent.div (b := 2.0) (by decide) with hmissing | hnonneg
    · exact .inl (Float32.isNaN_sub (.inr hmissing))
    · have hfinite := Float32.isFinite_of_le_of_le rfl rfl hlow hhigh
      exact .inr (Float32.le_trans (Float32.sub_le_of_nonneg hfinite hnonneg) hhigh)
  exact isOnPicture_of_mem
    (Float32.le_trans (by decide) (Float32.nonneg_greatest32_zero _))
    (Float32.greatest32_zero_le (by decide) hedge)

/-- The edge of an object on the far side, cut off at one. -/
lemma isOnPicture_far {centre extent : Float32} (hcentre : Float32.Between (-0.5) 4.0 centre)
    (hextent : Float32.MissingOrNonneg extent) :
    DetectedObject.isOnPicture (least32 (centre + extent / 2.0) 1.0) = true := by
  have hedge : (centre + extent / 2.0).isNaN = true ∨ -0.5 ≤ centre + extent / 2.0 := by
    rcases hcentre with hmissing | ⟨hlow, hhigh⟩
    · exact .inl (Float32.isNaN_add (.inl hmissing))
    rcases hextent.div (b := 2.0) (by decide) with hmissing | hnonneg
    · exact .inl (Float32.isNaN_add (.inr hmissing))
    · have hfinite := Float32.isFinite_of_le_of_le rfl rfl hlow hhigh
      exact .inr (Float32.le_trans hlow (Float32.le_add_of_nonneg hfinite hnonneg))
  exact isOnPicture_of_mem (Float32.le_least32_one (by decide) hedge)
    (Float32.le_trans (Float32.least32_one_le _) (by decide))

/-! ## Centres -/

/-- A number of cells with a fraction is not far from the picture, as a part of all cells. -/
lemma between_div_cells {numerator : Float32} {cells : ℕ} (hcells : 0 < cells)
    (h : (Float32.ofNat cells).isFinite → numerator.isNaN = true ∨
      numerator.isFinite ∧ -(1 / 2) ≤ Float32.value numerator ∧
        Float32.value numerator ≤ 4 * Float32.value (Float32.ofNat cells)) :
    Float32.Between (-0.5) 4.0 (numerator / Float32.ofNat cells) := by
  have hone : 1.0 ≤ Float32.ofNat cells := Float32.one_le_ofNat hcells
  refine Float32.between_div (Float32.lt_of_lt_of_le (by decide) hone) (by decide) (by decide)
    ⟨rfl, rfl⟩ fun hfinite => (h hfinite).imp_right ?_
  rintro ⟨hfinite', hlow, hhigh⟩
  have hvalue := Float32.value_le_value rfl hfinite hone
  rw [Float32.value_one] at hvalue
  rw [Float32.value_neg_half, Float32.value_four]
  exact ⟨hfinite', by linarith, hhigh⟩

/-- A cell and up to two more. -/
lemma add_of_lt_cells {index cells : ℕ} (hindex : index < cells) {shift : Float32}
    (hshift : Float32.Between 0.0 2.0 shift) (hfinite : (Float32.ofNat cells).isFinite) :
    (Float32.ofNat index + shift).isNaN = true ∨ (Float32.ofNat index + shift).isFinite ∧
      0 ≤ Float32.value (Float32.ofNat index + shift) ∧
      Float32.value (Float32.ofNat index + shift) ≤ 4 * Float32.value (Float32.ofNat cells) := by
  rcases hshift with hmissing | ⟨hlow, hhigh⟩
  · exact .inl (Float32.isNaN_add (.inr hmissing))
  · exact .inr (Float32.add_le_four_mul (Float32.ofNat_nonneg index)
      (Float32.ofNat_le_ofNat hindex.le) hfinite
      (Float32.one_le_ofNat (Nat.zero_lt_of_lt hindex)) hlow hhigh)

lemma between_centre {index cells : ℕ} (hindex : index < cells) {shift : Float32}
    (hshift : Float32.Between 0.0 2.0 shift) :
    Float32.Between (-0.5) 4.0 ((Float32.ofNat index + shift) / Float32.ofNat cells) := by
  refine between_div_cells (Nat.zero_lt_of_lt hindex) fun hfinite => ?_
  refine (add_of_lt_cells hindex hshift hfinite).imp_right ?_
  rintro ⟨hsum, hlow, hhigh⟩
  exact ⟨hsum, by linarith, hhigh⟩

/-- The same, half a cell before it. -/
lemma between_centre_sub_half {index cells : ℕ} (hindex : index < cells) {shift : Float32}
    (hshift : Float32.Between 0.0 2.0 shift) :
    Float32.Between (-0.5) 4.0 ((Float32.ofNat index + shift - 0.5) / Float32.ofNat cells) := by
  refine between_div_cells (Nat.zero_lt_of_lt hindex) fun hfinite => ?_
  rcases add_of_lt_cells hindex hshift hfinite with hmissing | ⟨hsum, hlow, hhigh⟩
  · exact .inl (Float32.isNaN_sub (.inl hmissing))
  · obtain ⟨hsub, hlow', hhigh'⟩ := Float32.sub_half_mem hsum hlow
    exact .inr ⟨hsub, hlow', hhigh'.trans hhigh⟩

/-! ## Rectangles -/

section

variable [Elementary] (hexp : ∀ x, Float32.MissingOrNonneg (Elementary.exp32 x))

include hexp

lemma between_logistic (x : Float32) : Float32.Between 0.0 1.0 (logistic x) := by
  unfold logistic
  rcases hexp (-x) with hmissing | hnonneg
  · exact .inl (Float32.isNaN_div (.inr (Float32.isNaN_add (.inr hmissing))))
  have hone : 1.0 ≤ 1.0 + Elementary.exp32 (-x) := Float32.le_add_of_nonneg rfl hnonneg
  refine Float32.between_div (Float32.lt_of_lt_of_le (by decide) hone) (by decide) (by decide)
    ⟨rfl, rfl⟩ fun hfinite => .inr ⟨rfl, ?_, ?_⟩
  · rw [Float32.value_zero, Float32.value_one, zero_mul]
    exact zero_le_one
  · rw [Float32.value_one, one_mul]
    exact Float32.value_one ▸ Float32.value_le_value rfl hfinite hone

lemma between_logistic_mul_two (x : Float32) : Float32.Between 0.0 2.0 (logistic x * 2.0) := by
  rcases between_logistic hexp x with hmissing | ⟨hlow, hhigh⟩
  · exact .inl (Float32.isNaN_mul (.inl hmissing))
  have hthere := (Float32.grade_mul (Float32.isFinite_of_le hlow rfl hhigh) (b := 2.0) rfl).1
  have hgrade : Float32.grade (0.0 * 2.0) ≤ Float32.grade (logistic x * 2.0) :=
    Float32.grade_mul_le (by decide) hlow
  have hgrade' : Float32.grade (logistic x * 2.0) ≤ Float32.grade (1.0 * 2.0) :=
    Float32.grade_mul_le (by decide) hhigh
  have hzero : Float32.grade (0.0 * 2.0) = Float32.grade 0.0 := by decide
  have htwo : Float32.grade (1.0 * 2.0) = Float32.grade 2.0 := by decide
  rw [hzero] at hgrade
  rw [htwo] at hgrade'
  exact .inr ⟨Float32.le_iff_grade.2 ⟨rfl, hthere, hgrade⟩,
    Float32.le_iff_grade.2 ⟨hthere, rfl, hgrade'⟩⟩

omit [Elementary] hexp in
/-- A factor of an anchor, as a part of the model's input. -/
lemma missingOrNonneg_extent {factor size : Float32} (hfactor : Float32.MissingOrNonneg factor)
    (hsize : 0.0 ≤ size) {model : ℕ} (hmodel : 0 < model) :
    Float32.MissingOrNonneg (factor * size / Float32.ofNat model) :=
  (hfactor.mul (.inr hsize)).div
    (Float32.lt_of_lt_of_le (by decide) (Float32.one_le_ofNat hmodel))

/-- What is known of a rectangle in centre form, whatever the outputs are. -/
structure IsNearPicture (x y width height : Float32) : Prop where
  /-- The centre is missing or not far from the picture, from left to right. -/
  x : Float32.Between (-0.5) 4.0 x
  /-- So it is from top to bottom. -/
  y : Float32.Between (-0.5) 4.0 y
  /-- The width is missing or not below zero. -/
  width : Float32.MissingOrNonneg width
  /-- So is the height. -/
  height : Float32.MissingOrNonneg height

variable {d : Detector} {extent : Extent} {layer : Layer} {cell : ℕ}

/-- Whatever the channels hold, the rectangle of an anchor is near the picture. -/
theorem isNearPicture_rectangle (hvariant : d.variant ≠ .activated) (hcell : cell < layer.cells)
    (hmodel : 0 < extent.modelWidth ∧ 0 < extent.modelHeight)
    (hanchors : ∀ size ∈ layer.anchors, 0.0 ≤ size) (anchor : ℕ) (c0 c1 c2 c3 : Float32) :
    let (x, y, width, height) := d.rectangle extent layer cell anchor c0 c1 c2 c3
    IsNearPicture x y width height := by
  have hwidth : 0 < layer.gridWidth :=
    Nat.pos_of_ne_zero fun hzero => by simp [Layer.cells, hzero] at hcell
  have hcolumn : cell % layer.gridWidth < layer.gridWidth := Nat.mod_lt cell hwidth
  have hrow : cell / layer.gridWidth < layer.gridHeight :=
    Nat.div_lt_of_lt_mul hcell
  have hsize : ∀ index, 0.0 ≤ layer.anchors.getD index 0.0 := by
    intro index
    rw [List.getD_eq_getElem?_getD]
    cases h : layer.anchors[index]? with
    | none => decide
    | some size => exact hanchors size (List.mem_of_getElem? h)
  have hfraction : ∀ x, Float32.Between 0.0 2.0 (logistic x) := fun x =>
    (between_logistic hexp x).mono (by decide) (by decide)
  have hdouble : ∀ x, Float32.MissingOrNonneg (logistic x * 2.0) := fun x =>
    (between_logistic_mul_two hexp x).imp_right And.left
  unfold Detector.rectangle
  cases hv : d.variant with
  | activated => exact absurd hv hvariant
  | channelBlocks =>
    exact ⟨between_centre_sub_half hcolumn (between_logistic_mul_two hexp c0),
      between_centre_sub_half hrow (between_logistic_mul_two hexp c1),
      missingOrNonneg_extent ((hdouble c2).mul (hdouble c2)) (hsize _) hmodel.1,
      missingOrNonneg_extent ((hdouble c3).mul (hdouble c3)) (hsize _) hmodel.2⟩
  | channelsLast | channelsFirst =>
    exact ⟨between_centre hcolumn (hfraction c0), between_centre hrow (hfraction c1),
      missingOrNonneg_extent (hexp c2) (hsize _) hmodel.1,
      missingOrNonneg_extent (hexp c3) (hsize _) hmodel.2⟩

omit [Elementary] hexp in
/-- An object near the picture that is cut to the picture is on it. -/
lemma isOnPicture_objectOf {x y width height : Float32} (h : IsNearPicture x y width height)
    (confidence : Float32) (classId : ℕ) :
    (objectOf x y width height confidence classId).corners.toList.all
      DetectedObject.isOnPicture = true := by
  simp only [objectOf, Corners.toList, List.all_cons, List.all_nil, Bool.and_true, Bool.and_eq_true]
  exact ⟨isOnPicture_near h.x h.width, isOnPicture_near h.y h.height,
    isOnPicture_far h.x h.width, isOnPicture_far h.y h.height⟩

/-! ## Frames -/

omit hexp in
lemma anchors_subset_of_layer_eq_ok [Build] {s : Settings} {shape : List ℕ} {modelWidth : ℕ}
    (h : s.layer shape modelWidth = .ok layer) : layer.anchors ⊆ s.anchorSizes := by
  obtain ⟨start, -, h⟩ := exists_of_bind_eq_ok h
  obtain ⟨stop, -, h⟩ := exists_of_bind_eq_ok h
  split_ifs at h
  cases h
  exact fun size hsize => List.mem_of_mem_drop (List.mem_of_mem_take hsize)

omit hexp in
/-- The anchors of the layers of a frame are anchors of the settings. -/
lemma anchors_subset_of_layers_eq_ok [Build] {outputs : List Tensor} {layers : List LayerData}
    (h : d.layers outputs extent = .ok layers) :
    ∀ data ∈ layers, data.layer.anchors ⊆ d.settings.anchorSizes := by
  intro data hdata
  obtain ⟨-, -, h⟩ := exists_of_bind_eq_ok h
  obtain ⟨-, -, h⟩ := exists_of_bind_eq_ok h
  obtain ⟨output, -, hread⟩ := exists_of_mem_of_mapM_eq_ok h hdata
  exact anchors_subset_of_layer_eq_ok (exists_of_layerData_eq_ok hread).1

omit hexp in
lemma modelExtent_pos_of_layers_eq_ok [Build] {outputs : List Tensor} {layers : List LayerData}
    (h : d.layers outputs extent = .ok layers) :
    0 < extent.modelWidth ∧ 0 < extent.modelHeight := by
  obtain ⟨_, hmodel, -⟩ := exists_of_bind_eq_ok h
  unfold Extent.checkModel at hmodel
  split at hmodel
  · cases hmodel
  · omega

/-- The objects of a layer are on the picture. -/
lemma isOnPicture_of_mem_objectsOf {data : LayerData} (hvariant : d.variant ≠ .activated)
    (hmodel : 0 < extent.modelWidth ∧ 0 < extent.modelHeight)
    (hanchors : ∀ size ∈ data.layer.anchors, 0.0 ≤ size) {o : DetectedObject}
    (ho : o ∈ d.objectsOf extent data) :
    o.corners.toList.all DetectedObject.isOnPicture = true := by
  obtain ⟨⟨cell, anchor⟩, hplace, ho⟩ := List.mem_filterMap.1 ho
  obtain ⟨objectness, -, ho⟩ := Option.bind_eq_some_iff.1 ho
  obtain ⟨best, -, rfl⟩ := Option.map_eq_some_iff.1 ho
  have hnear := isNearPicture_rectangle hexp hvariant (mem_places.1 hplace).1 hmodel hanchors anchor
    (d.channel data cell anchor 0) (d.channel data cell anchor 1)
    (d.channel data cell anchor 2) (d.channel data cell anchor 3)
  exact isOnPicture_objectOf hnear best.2 best.1

end

/-- **No output spoils a frame.**  A detector that activates the outputs itself, none of whose
anchors has a size below zero, decodes every frame whose shapes, anchors and buffers have passed
the checks, whatever the buffers hold; in a build that goes on at an overflow, as long as nothing
was cut off the numbers of elements of the outputs. -/
theorem exists_decode_eq_ok [Elementary] [Build]
    (hexp : ∀ x, Float32.MissingOrNonneg (Elementary.exp32 x)) (d : Detector)
    (hvariant : d.variant ≠ .activated) (hsizes : ∀ size ∈ d.settings.anchorSizes, 0.0 ≤ size)
    (outputs : List Tensor) (extent : Extent) (layers : List LayerData)
    (hlayers : d.layers outputs extent = .ok layers)
    (hfits : ∀ data ∈ layers, d.FitsWord data.layer) :
    ∃ found, d.decode outputs extent = .ok found := by
  have hobjects := candidates_eq_ok_of_layers hlayers hfits
  have hplaces : (layers.flatMap (d.objectsOf extent)).all
      (fun o => o.corners.toList.all DetectedObject.isOnPicture) = true := by
    rw [List.all_eq_true]
    intro o ho
    obtain ⟨data, hdata, ho⟩ := List.mem_flatMap.1 ho
    exact isOnPicture_of_mem_objectsOf hexp hvariant (modelExtent_pos_of_layers_eq_ok hlayers)
      (fun size hsize => hsizes size (anchors_subset_of_layers_eq_ok hlayers data hdata hsize)) ho
  unfold Detector.decode
  rw [hobjects, ok_bind, DetectedObject.suppress, if_pos hplaces]
  exact ⟨_, rfl⟩

/-- Functions that are right at zero and far from it, which is where the following example asks for
the exponential function, and at one, where it asks for the logarithm. -/
@[reducible] def farElementary : Elementary where
  exp32 x :=
    if x.isNaN then x else if x < -104.0 then 0.0 else if 89.0 < x then infinity32 else 1.0
  exp64 x := if x < -746.0 then 0.0 else 1.0
  log2 _ := 0.0

lemma missingOrNonneg_farElementary (x : Float32) :
    Float32.MissingOrNonneg (farElementary.exp32 x) := by
  change Float32.MissingOrNonneg
    (if x.isNaN then x else if x < -104.0 then 0.0 else if 89.0 < x then infinity32 else 1.0)
  split_ifs with hmissing
  · exact .inl hmissing
  · exact .inr (by decide)
  · exact .inr (by decide)
  · exact .inr (by decide)

/-- Two cells with infinite and missing channels. -/
def extremeCells : Tensor :=
  ⟨[1, 1, 2, 6], .float #[infinity32, 0.0 / 0.0, 200.0, -infinity32, 200.0, 200.0,
    -infinity32, -200.0, 0.0 / 0.0, infinity32, 200.0, 0.0]⟩

/-- Both cells hold objects, which are as large as the picture. -/
theorem exists_decode_eq_ok_extremeCells :
    (∀ size ∈ oneAnchorDetector.settings.anchorSizes, 0.0 ≤ size) ∧
      (@Detector.candidates farElementary _ oneAnchorDetector [extremeCells] ⟨64, 32, 64, 32⟩) =
        .ok [⟨⟨0.0, 0.0, 1.0, 1.0⟩, 1.0, 0⟩, ⟨⟨0.0, 0.0, 1.0, 1.0⟩, 0.5, 0⟩] ∧
      ∃ found,
        @Detector.decode farElementary _ oneAnchorDetector [extremeCells] ⟨64, 32, 64, 32⟩ =
          .ok found := by
  have hsizes : ∀ size ∈ oneAnchorDetector.settings.anchorSizes, 0.0 ≤ size := by decide
  have hcandidates : @Detector.candidates farElementary _ oneAnchorDetector [extremeCells]
      ⟨64, 32, 64, 32⟩ =
        .ok [⟨⟨0.0, 0.0, 1.0, 1.0⟩, 1.0, 0⟩, ⟨⟨0.0, 0.0, 1.0, 1.0⟩, 0.5, 0⟩] := by
    decide
  have hlayers : ∃ layers,
      @Detector.layers farElementary _ oneAnchorDetector [extremeCells] ⟨64, 32, 64, 32⟩ =
        .ok layers := by
    rw [@candidates_eq_map_layers farElementary] at hcandidates
    cases h : @Detector.layers farElementary _ oneAnchorDetector [extremeCells]
        ⟨64, 32, 64, 32⟩ with
    | error fault =>
      rw [h] at hcandidates
      cases hcandidates
    | ok layers => exact ⟨layers, rfl⟩
  obtain ⟨layers, hlayers⟩ := hlayers
  exact ⟨hsizes, hcandidates, @exists_decode_eq_ok farElementary _ missingOrNonneg_farElementary
    oneAnchorDetector (by decide) hsizes [extremeCells] ⟨64, 32, 64, 32⟩ layers hlayers
    fun _ _ => .inl rfl⟩

/-- With something cut off the number of elements, the buffer passes for long enough and is not. -/
theorem not_exists_decode_eq_ok_tallOutput :
    ¬ ∀ [Elementary] [Build] (d : Detector) (outputs : List Tensor) (extent : Extent)
        (layers : List LayerData),
      (∀ x, Float32.MissingOrNonneg (Elementary.exp32 x)) → d.variant ≠ .activated →
        (∀ size ∈ d.settings.anchorSizes, 0.0 ≤ size) → d.layers outputs extent = .ok layers →
          ∃ found, d.decode outputs extent = .ok found := by
  intro hall
  have hexp : ∀ x, Float32.MissingOrNonneg (coarseElementary.exp32 x) := by
    intro x
    change Float32.MissingOrNonneg (if x < -104.0 then 0.0 else 1.0)
    split_ifs
    · exact .inr (by decide)
    · exact .inr (by decide)
  obtain ⟨found, hfound⟩ := @hall coarseElementary .wrapping oneAnchorDetector [tallOutput]
    ⟨32, 32, 32, 32⟩ [tallData] hexp (by decide) (by decide) layers_tallOutput
  rw [decode_tallOutput] at hfound
  cases hfound

end Yolo
end Detection
