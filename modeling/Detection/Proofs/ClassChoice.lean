/-
# The class that a candidate is taken for

Grid detectors and region detectors that score classes apart both go through the scores of a
candidate once, keeping the best so far above a bound.  What comes of it is said here without the
search: a candidate gives an object exactly if the maximum of those of its scores that are not
missing exceeds the bound and the threshold of the first class that attains it.  The object has
this class and this score, and the objects stand in the order of the candidates.

## Main definitions

* `IsListing`: objects are those of some places, one for each, in ascending order.
* `Yolo.Detector.IsObjectAt`: the object that an anchor of a cell has to have.
* `FasterRcnn.Detector.IsObjectOf`: the object that a region has to have.

The main result is `isListing_candidates_and_perClassObjects`.
-/
import Detection.Proofs.FasterRcnn.Addresses
import Detection.Proofs.FasterRcnn.Thresholds
import Detection.Proofs.Yolo.CommonThreshold

namespace Detection

/-! ## Listings -/

/-- Objects are those that belong to places: one for each place that has one, in ascending order
of the places. -/
def IsListing {α : Type} [LT α] (belongs : α → DetectedObject → Prop)
    (objects : List DetectedObject) : Prop :=
  ∃ chosen : List α, chosen.Pairwise (· < ·) ∧
    (∀ place, place ∈ chosen ↔ ∃ o, belongs place o) ∧ List.Forall₂ belongs chosen objects

lemma forall₂_filter_filterMap {α β : Type} (f : α → Option β) (list : List α) :
    List.Forall₂ (fun a b => a ∈ list ∧ f a = some b) (list.filter fun a => (f a).isSome)
      (list.filterMap f) := by
  induction list with
  | nil => exact .nil
  | cons a rest ih =>
    have hrest := ih.imp fun b c h => And.imp_left (List.mem_cons_of_mem a) h
    cases h : f a with
    | none => simpa [h] using hrest
    | some b => simpa [h] using hrest

/-- Places in ascending order, gone through one after the other, give a listing. -/
lemma isListing_filterMap {α : Type} [LT α] {belongs : α → DetectedObject → Prop}
    {places : List α} {f : α → Option DetectedObject} (hsorted : places.Pairwise (· < ·))
    (hbelongs : ∀ place o, belongs place o ↔ place ∈ places ∧ f place = some o) :
    IsListing belongs (places.filterMap f) := by
  refine ⟨places.filter fun place => (f place).isSome, hsorted.filter _, fun place => ?_, ?_⟩
  · simp only [List.mem_filter, Option.isSome_iff_exists, hbelongs, exists_and_left]
  · exact (forall₂_filter_filterMap f places).imp fun place o => (hbelongs place o).2

/-! ## Thresholds -/

/-- Neither the common threshold nor that of a class is missing or below zero. -/
structure ClassSettings.HasNonnegThresholds (c : ClassSettings) : Prop where
  nonneg_common : 0.0 ≤ c.scoreThreshold
  nonneg_of_mem : ∀ threshold ∈ c.classThresholds, 0.0 ≤ threshold

lemma ClassSettings.HasNonnegThresholds.nonneg_thresholdOf {c : ClassSettings}
    (h : c.HasNonnegThresholds) (classId : ℕ) : 0.0 ≤ c.thresholdOf classId := by
  unfold thresholdOf
  cases hthreshold : c.classThresholds[classId]? with
  | none => exact h.nonneg_common
  | some threshold => exact h.nonneg_of_mem threshold (List.mem_of_getElem? hthreshold)

/-- A maximum is never missing, so it exceeds a threshold if it does not fail to. -/
lemma IsMaximum.not_le_thresholdOf_iff {c : ClassSettings} {scores : List Float32} {k classId : ℕ}
    {score : Float32} (h : IsMaximum scores k score) (hthresholds : c.HasNonnegThresholds) :
    ¬ score ≤ c.thresholdOf classId ↔ c.thresholdOf classId < score := by
  have hthere := (Float32.le_iff.1 (hthresholds.nonneg_thresholdOf classId)).2.1
  rw [← Float32.not_lt hthere h.isNaN_eq, not_not]

/-! ## Grid detectors -/

namespace Yolo

lemma pairwise_places (d : Dimensions) : (d.places.map toLex).Pairwise (· < ·) := by
  rw [List.pairwise_map, Dimensions.places, List.pairwise_flatMap]
  -- Within a cell the anchors ascend; between cells only the cells matter.
  constructor
  · intro cell _
    rw [List.pairwise_map]
    refine List.pairwise_lt_range.imp fun h => ?_
    exact Prod.Lex.toLex_lt_toLex.2 (.inr ⟨rfl, h⟩)
  · refine List.pairwise_lt_range.imp fun h place hplace other hother => ?_
    obtain ⟨anchor, -, rfl⟩ := List.mem_map.1 hplace
    obtain ⟨anchor', -, rfl⟩ := List.mem_map.1 hother
    exact Prod.Lex.toLex_lt_toLex.2 (.inl h)

variable [Elementary] {d : Detector} {extent : Extent} {data : LayerData} {cell anchor : ℕ}
  {o : DetectedObject}

/-- An object is the one that an anchor of a cell has to have. -/
structure Detector.IsObjectAt (d : Detector) (extent : Extent) (data : LayerData)
    (cell anchor : ℕ) (o : DetectedObject) : Prop where
  /-- The cell is one of the layer. -/
  cell_lt : cell < data.layer.cells
  /-- The anchor is one of the cell. -/
  anchor_lt : anchor < d.settings.anchorsPerCell
  /-- The candidate is likely to be an object, and the class of the object is the first one that
  attains the maximum of the probabilities. -/
  isMaximum : ∃ objectness,
    d.objectness? (d.channel data cell anchor boxChannels) = some objectness ∧
      IsMaximum (d.probabilities data cell anchor objectness) o.classId o.confidence
  /-- The maximum exceeds the common threshold. -/
  common_lt : d.settings.classes.scoreThreshold < o.confidence
  /-- It exceeds the threshold of the class. -/
  own_lt : d.settings.classes.thresholdOf o.classId < o.confidence
  /-- The object stands where the channels say. -/
  eq_objectOfClass : o = d.objectOfClass extent data cell anchor (o.classId, o.confidence)

lemma objectAt?_eq_some_iff (hthresholds : d.settings.classes.HasNonnegThresholds)
    (hcell : cell < data.layer.cells) (hanchor : anchor < d.settings.anchorsPerCell) :
    d.objectAt? extent data cell anchor = some o ↔ d.IsObjectAt extent data cell anchor o := by
  simp only [Detector.objectAt?, Option.bind_eq_some_iff, Option.map_eq_some_iff,
    bestClass?_eq_some_iff, bestAbove_eq_some_iff]
  constructor
  · rintro ⟨objectness, hobjectness, best, ⟨⟨hmax, hlt⟩, hclass⟩, rfl⟩
    exact ⟨hcell, hanchor, ⟨objectness, hobjectness, hmax⟩, hlt,
      (hmax.not_le_thresholdOf_iff hthresholds).1 hclass, rfl⟩
  · rintro ⟨-, -, ⟨objectness, hobjectness, hmax⟩, hlt, hclass, heq⟩
    exact ⟨objectness, hobjectness, (o.classId, o.confidence),
      ⟨⟨hmax, hlt⟩, (hmax.not_le_thresholdOf_iff hthresholds).2 hclass⟩, heq.symm⟩

/-- The objects of a layer are those that the anchors of its cells have to have. -/
lemma isListing_objectsOf (hthresholds : d.settings.classes.HasNonnegThresholds)
    (extent : Extent) (data : LayerData) :
    IsListing (fun place : ℕ ×ₗ ℕ =>
        d.IsObjectAt extent data (ofLex place).1 (ofLex place).2) (d.objectsOf extent data) := by
  have hobjects : d.objectsOf extent data = ((d.dimensions data.layer).places.map toLex).filterMap
      fun place => d.objectAt? extent data (ofLex place).1 (ofLex place).2 := by
    rw [List.filterMap_map]
    rfl
  rw [hobjects]
  refine isListing_filterMap (pairwise_places _) fun place o => ?_
  have hmem : place ∈ (d.dimensions data.layer).places.map toLex ↔
      (ofLex place).1 < data.layer.cells ∧ (ofLex place).2 < d.settings.anchorsPerCell := by
    rw [List.mem_map]
    constructor
    · rintro ⟨place, hplace, rfl⟩
      exact mem_places.1 hplace
    · intro h
      exact ⟨ofLex place, mem_places.2 h, rfl⟩
  rw [hmem]
  constructor
  · intro h
    exact ⟨⟨h.cell_lt, h.anchor_lt⟩,
      (objectAt?_eq_some_iff hthresholds h.cell_lt h.anchor_lt).2 h⟩
  · rintro ⟨⟨hcell, hanchor⟩, h⟩
    exact (objectAt?_eq_some_iff hthresholds hcell hanchor).1 h

end Yolo

/-! ## Region detectors -/

namespace FasterRcnn

/-- The regions of a frame whose classes are scored apart. -/
structure Regions where
  /-- How many there are. -/
  count : ℕ
  /-- Their rectangles, one for each class of each region. -/
  boxes : Array Float32
  /-- Their scores, one for each class of each region. -/
  scores : Array Float32

/-- The regions that outputs show, all of them checked to be there. -/
def Detector.regions (d : Detector) (outputs : List Tensor) : Except Fault Regions := do
  let s := d.settings
  if outputs.length < outputCount then
    throw (.region (.outputCount outputs.length outputCount))
  let count ← detectionCount (← tensorAt outputs s.countOutput)
  if count = 0 ∨ s.scoredClasses = 0 then
    return ⟨count, #[], #[]⟩
  let boxOutput ← tensorAt outputs s.boxOutput
  let boxes ← boxOutput.floatsCovering (← lastIndex count (s.scoredClasses * boxWidth))
  let scoreOutput ← tensorAt outputs s.scoreOutput
  let scores ← scoreOutput.floatsCovering (← lastIndex count s.scoredClasses)
  return ⟨count, boxes, scores⟩

/-- The scores of a region. -/
def Detector.scoresOf (d : Detector) (regions : Regions) (region : ℕ) : List Float32 :=
  let start := region * d.settings.scoredClasses
  (regions.scores.extract start (start + d.settings.scoredClasses)).toList

/-- The rectangle of a class of a region, its ordinates before its abscissae. -/
def Detector.rectangleOf (d : Detector) (regions : Regions) (region k : ℕ) : Corners Float32 :=
  let base := region * d.settings.scoredClasses * boxWidth + k * boxWidth
  { top := regions.boxes.getD base 0.0
    left := regions.boxes.getD (base + 1) 0.0
    bottom := regions.boxes.getD (base + 2) 0.0
    right := regions.boxes.getD (base + 3) 0.0 }

/-- The object of a region that is taken for one of the classes that are scored. -/
def Detector.objectOfClass (d : Detector) (extent : Extent) (regions : Regions) (region : ℕ)
    (best : ℕ × Float32) : DetectedObject :=
  ⟨fractions extent (d.rectangleOf regions region best.1), best.2, best.1 + 1⟩

/-- The object of a region, if there is one. -/
def Detector.regionObject? (d : Detector) (extent : Extent) (regions : Regions) (region : ℕ) :
    Option DetectedObject :=
  match bestAbove 0.0 (d.scoresOf regions region) with
  | (none, _) => none
  | (some k, score) =>
    if score ≤ d.settings.classes.thresholdOf k then
      none
    else
      some (d.objectOfClass extent regions region (k, score))

/-- The objects of all regions, before any is suppressed. -/
def Detector.objectsOf (d : Detector) (extent : Extent) (regions : Regions) :
    List DetectedObject :=
  (List.range regions.count).filterMap (d.regionObject? extent regions)

/-- An object is the one that a region has to have. -/
structure Detector.IsObjectOf (d : Detector) (extent : Extent) (regions : Regions)
    (region : ℕ) (o : DetectedObject) : Prop where
  /-- The region is one of the frame. -/
  region_lt : region < regions.count
  /-- The class of the object is the one behind the first that attains the maximum of the scores,
  and the maximum exceeds the threshold of the latter. -/
  isMaximum : ∃ k, IsMaximum (d.scoresOf regions region) k o.confidence ∧
    d.settings.classes.thresholdOf k < o.confidence ∧
      o = d.objectOfClass extent regions region (k, o.confidence)
  /-- The maximum exceeds zero. -/
  pos : 0.0 < o.confidence

variable {d : Detector} {extent : Extent} {outputs : List Tensor} {regions : Regions}
  {region : ℕ} {o : DetectedObject}

/-- The buffers reach as far as the last region, unless no class is scored. -/
def Detector.Covers (d : Detector) (regions : Regions) : Prop :=
  d.settings.scoredClasses ≠ 0 →
    regions.count * (d.settings.scoredClasses * boxWidth) ≤ regions.boxes.size ∧
      regions.count * d.settings.scoredClasses ≤ regions.scores.size

lemma cornersAt_eq_ok {boxes : Array Float32} {base : ℕ} (h : base + 3 < boxes.size) :
    cornersAt boxes base = .ok
      { top := boxes.getD base 0.0, left := boxes.getD (base + 1) 0.0
        bottom := boxes.getD (base + 2) 0.0, right := boxes.getD (base + 3) 0.0 } := by
  have hget : ∀ k ≤ 3, element boxes (base + k) = .ok (boxes.getD (base + k) 0.0) := by
    intro k hk
    have hlt : base + k < boxes.size := by omega
    rw [element_of_lt hlt]
    simp [Array.getD, hlt]
  unfold cornersAt
  rw [hget 1 (by decide), hget 2 (by decide), hget 3 (by decide)]
  exact congrArg (· >>= _) (hget 0 (by decide))

/-- Where buffers reach as far as the region, decoding the region does not fail.  That no class
was found does not have to be told from a class that fails its threshold: the bound that is left
then is zero and does not exceed any threshold. -/
lemma perClassObject?_eq_ok (hthresholds : d.settings.classes.HasNonnegThresholds)
    (hcovers : d.Covers regions) (hregion : region < regions.count) :
    d.perClassObject? extent regions.boxes regions.scores region =
      .ok (d.regionObject? extent regions region) := by
  have hnext : region * d.settings.scoredClasses + d.settings.scoredClasses ≤
      regions.count * d.settings.scoredClasses := by
    rw [← Nat.succ_mul]
    exact Nat.mul_le_mul_right _ hregion
  have hend : region * d.settings.scoredClasses + d.settings.scoredClasses ≤
      regions.scores.size := by
    by_cases hnone : d.settings.scoredClasses = 0
    · simp [hnone]
    · exact hnext.trans (hcovers hnone).2
  have hread : ((List.range d.settings.scoredClasses).mapM fun c =>
      element regions.scores (region * d.settings.scoredClasses + c)) =
        .ok (d.scoresOf regions region) := mapM_element hend
  unfold Detector.perClassObject? Detector.regionObject?
  dsimp only
  rw [hread, ok_bind]
  -- Without a best class the decoder looks up the threshold of the first one.
  rcases bestAbove_cases 0.0 (d.scoresOf regions region) with ⟨heq, -⟩ | ⟨k, hk, -, heq⟩
  · rw [heq]
    exact if_pos (hthresholds.nonneg_thresholdOf 0)
  · rw [heq]
    dsimp only [Option.getD_some]
    split
    · rfl
    · -- The rectangle of the class ends where the region ends, at the latest.
      have hlength : (d.scoresOf regions region).length = d.settings.scoredClasses := by
        simp only [Detector.scoresOf, Array.length_toList, Array.size_extract]
        omega
      have hboxes := (hcovers (by omega)).1
      simp only [boxWidth, ← Nat.mul_assoc] at hboxes
      rw [cornersAt_eq_ok (by simp only [boxWidth]; omega)]
      rfl

/-- Where there is nothing to read there are no objects. -/
lemma objectsOf_eq_nil {count : ℕ} (h : count = 0 ∨ d.settings.scoredClasses = 0) :
    d.objectsOf extent ⟨count, #[], #[]⟩ = [] := by
  refine List.filterMap_eq_nil_iff.2 fun region hregion => ?_
  have hcount : count ≠ 0 := fun hnone => by simp [hnone] at hregion
  have hscores : d.scoresOf ⟨count, #[], #[]⟩ region = [] := by
    simp [Detector.scoresOf, h.resolve_left hcount]
  rw [Detector.regionObject?, hscores]
  rfl

/-- Once the regions are there, decoding comes down to suppressing their objects. -/
theorem perClassObjects_eq_regions (hthresholds : d.settings.classes.HasNonnegThresholds)
    (outputs : List Tensor) (extent : Extent) :
    d.perClassObjects outputs extent = d.regions outputs >>= fun regions =>
      DetectedObject.suppress .union d.settings.overlapThreshold (d.objectsOf extent regions) := by
  unfold Detector.perClassObjects Detector.regions
  dsimp only
  by_cases hshort : outputs.length < outputCount
  · rw [if_pos hshort, if_pos hshort]
    rfl
  rw [if_neg hshort, if_neg hshort]
  refine Agree.eq ?_
  simp only [bind_assoc]
  refine Agree.bind_same fun countOutput _ => Agree.bind_same fun count _ => ?_
  by_cases hnone : count = 0 ∨ d.settings.scoredClasses = 0
  · rw [if_pos hnone, if_pos hnone, pure_bind, objectsOf_eq_nil hnone]
    exact Agree.refl _
  rw [if_neg hnone, if_neg hnone]
  simp only [bind_assoc]
  refine Agree.bind_same fun boxOutput _ => Agree.bind_same fun lastBox hlastBox => ?_
  refine Agree.bind_same fun boxes hboxes => Agree.bind_same fun scoreOutput _ => ?_
  refine Agree.bind_same fun lastScore hlastScore => Agree.bind_same fun scores hscores => ?_
  have hcovers : d.Covers ⟨count, boxes, scores⟩ := fun _ =>
    ⟨(lt_of_lastIndex_eq_ok hlastBox).2 _ (Tensor.floatsCovering_eq_ok_iff.1 hboxes).2,
      (lt_of_lastIndex_eq_ok hlastScore).2 _ (Tensor.floatsCovering_eq_ok_iff.1 hscores).2⟩
  have hfound : (List.range count).mapM (d.perClassObject? extent boxes scores) =
      .ok ((List.range count).map (d.regionObject? extent ⟨count, boxes, scores⟩)) :=
    mapM_eq_ok_map fun region hregion =>
      @perClassObject?_eq_ok d extent ⟨count, boxes, scores⟩ region hthresholds hcovers
        (List.mem_range.1 hregion)
  rw [hfound, ok_bind, pure_bind, List.filterMap_map]
  exact Agree.refl _

lemma regionObject?_eq_some_iff (hthresholds : d.settings.classes.HasNonnegThresholds)
    (hregion : region < regions.count) :
    d.regionObject? extent regions region = some o ↔ d.IsObjectOf extent regions region o := by
  unfold Detector.regionObject?
  constructor
  · intro h
    rcases hbest : bestAbove 0.0 (d.scoresOf regions region) with ⟨_ | k, score⟩
    · rw [hbest] at h
      cases h
    · rw [hbest] at h
      dsimp only at h
      split at h
      · cases h
      · rename_i hexceeds
        cases h
        obtain ⟨hmax, hpos⟩ := bestAbove_eq_some_iff.1 hbest
        exact ⟨hregion, ⟨k, hmax, (hmax.not_le_thresholdOf_iff hthresholds).1 hexceeds, rfl⟩, hpos⟩
  · rintro ⟨-, ⟨k, hmax, hclass, heq⟩, hpos⟩
    rw [bestAbove_eq_some_iff.2 ⟨hmax, hpos⟩]
    dsimp only
    rw [if_neg ((hmax.not_le_thresholdOf_iff hthresholds).2 hclass), ← heq]

/-- The objects of the regions of a frame are those that the regions have to have. -/
lemma isListing_objectsOf (hthresholds : d.settings.classes.HasNonnegThresholds)
    (extent : Extent) (regions : Regions) :
    IsListing (d.IsObjectOf extent regions) (d.objectsOf extent regions) := by
  refine isListing_filterMap List.pairwise_lt_range fun region o => ?_
  rw [List.mem_range]
  constructor
  · intro h
    exact ⟨h.region_lt, (regionObject?_eq_some_iff hthresholds h.region_lt).2 h⟩
  · rintro ⟨hregion, h⟩
    exact (regionObject?_eq_some_iff hthresholds hregion).1 h

end FasterRcnn

/-! ## Both kinds of detectors -/

/-- **The class of a candidate is the exact maximum.**  Let no threshold be missing or below zero.
Then a grid detector finds in each layer, and a region detector that scores classes apart in each
frame, one object for each candidate whose maximum exceeds the bound and the threshold of the
first class to attain it, and nothing else; missing scores are passed over.  The objects have that
class and the maximum, and stand in the order of cells and anchors, or of regions.  Finding them
never fails once the layers or the regions are there.  What a grid detector finds in the layers is
put together, and what a region detector finds is suppressed. -/
theorem isListing_candidates_and_perClassObjects [Elementary] {classes : ClassSettings}
    (hthresholds : classes.HasNonnegThresholds) (outputs : List Tensor) (extent : Extent) :
    (∀ d : Yolo.Detector, d.settings.classes = classes →
      ∃ found : Yolo.LayerData → List DetectedObject,
        d.candidates outputs extent =
            (d.layers outputs extent).map (fun layers => layers.flatMap found) ∧
          (∀ layers, d.layers outputs extent = .ok layers → ∀ data ∈ layers,
            d.layerObjects extent data = .ok (found data)) ∧
          ∀ data, IsListing (fun place : ℕ ×ₗ ℕ =>
            d.IsObjectAt extent data (ofLex place).1 (ofLex place).2) (found data)) ∧
      ∀ d : FasterRcnn.Detector, d.settings.classes = classes →
        ∃ found : FasterRcnn.Regions → List DetectedObject,
          d.perClassObjects outputs extent = (d.regions outputs >>= fun regions =>
              DetectedObject.suppress .union d.settings.overlapThreshold (found regions)) ∧
            ∀ regions, IsListing (d.IsObjectOf extent regions) (found regions) := by
  constructor
  · rintro d rfl
    refine ⟨d.objectsOf extent, Yolo.candidates_eq_map_layers d outputs extent, ?_,
      Yolo.isListing_objectsOf hthresholds extent⟩
    intro layers hlayers data hdata
    have hfits := Yolo.fitsWord_of_caught d data.layer
    exact Yolo.layerObjects_eq_ok hfits (Yolo.covers_of_layers_eq_ok hlayers data hdata hfits)
  · rintro d rfl
    exact ⟨d.objectsOf extent, FasterRcnn.perClassObjects_eq_regions hthresholds outputs extent,
      FasterRcnn.isListing_objectsOf hthresholds extent⟩

/-- A grid detector with the classes of a region detector, for outputs that are activated. -/
def activatedDetector : Yolo.Detector where
  settings :=
    { classes := FasterRcnn.risingDetector.settings.classes
      objectnessThreshold := 0.25
      overlapThreshold := 0.5
      anchorsPerCell := 1
      anchorSizes := [10.0, 13.0]
      layerCount := 1
      version := 3
      layout := .channelsLast
      framework := .mindspore }
  variant := .activated

/-- One cell with a missing score and two that are equal. -/
def tiedCell : Tensor :=
  ⟨[1, 1, 1, 8], .float #[0.5, 0.5, 0.5, 0.5, 1.0, 0.0 / 0.0, 0.5, 0.5]⟩

/-- The missing score is passed over, and of the two equal ones the first one has the object. -/
theorem isListing_tiedCell_and_oneRegion :
    let classes := FasterRcnn.risingDetector.settings.classes
    let extent : Extent := ⟨32, 32, 32, 32⟩
    classes.HasNonnegThresholds ∧
      (∃ layers, ∃ found : Yolo.LayerData → List DetectedObject,
        @Yolo.Detector.layers Yolo.coarseElementary _ activatedDetector [tiedCell] extent =
            .ok layers ∧
          layers.flatMap found = [⟨⟨0.25, 0.25, 0.75, 0.75⟩, 0.5, 1⟩] ∧
          ∀ data ∈ layers, IsListing (fun place : ℕ ×ₗ ℕ =>
            @Yolo.Detector.IsObjectAt Yolo.coarseElementary activatedDetector extent data
              (ofLex place).1 (ofLex place).2) (found data)) ∧
      ∃ regions objects, FasterRcnn.risingDetector.regions FasterRcnn.oneRegion = .ok regions ∧
        FasterRcnn.risingDetector.perClassObjects FasterRcnn.oneRegion extent =
          DetectedObject.suppress .union 0.45 objects ∧
        IsListing (FasterRcnn.risingDetector.IsObjectOf extent regions) objects := by
  intro classes extent
  have hthresholds : classes.HasNonnegThresholds := ⟨by decide, by decide⟩
  have hcandidates : @Yolo.Detector.candidates Yolo.coarseElementary _ activatedDetector [tiedCell]
      extent = .ok [⟨⟨0.25, 0.25, 0.75, 0.75⟩, 0.5, 1⟩] := by
    decide +kernel
  obtain ⟨hgrid, -⟩ := @isListing_candidates_and_perClassObjects Yolo.coarseElementary classes
    hthresholds [tiedCell] extent
  obtain ⟨-, hregion⟩ := @isListing_candidates_and_perClassObjects Yolo.coarseElementary classes
    hthresholds FasterRcnn.oneRegion extent
  refine ⟨hthresholds, ?_, ?_⟩
  · obtain ⟨found, hfound, -, hlisting⟩ := hgrid activatedDetector rfl
    rw [hcandidates] at hfound
    cases hlayers : @Yolo.Detector.layers Yolo.coarseElementary _ activatedDetector [tiedCell]
      extent with
    | error fault =>
      rw [hlayers] at hfound
      cases hfound
    | ok layers =>
      rw [hlayers] at hfound
      exact ⟨layers, found, rfl, (Except.ok.inj hfound).symm, fun data _ => hlisting data⟩
  · have hregions : FasterRcnn.risingDetector.regions FasterRcnn.oneRegion =
        .ok ⟨1, #[0.0, 0.0, 0.0, 0.0, 32.0, 32.0, 64.0, 64.0], #[0.0, 0.5]⟩ := rfl
    obtain ⟨found, hfound, hlisting⟩ := hregion FasterRcnn.risingDetector rfl
    rw [hregions] at hfound
    exact ⟨_, found _, hregions, hfound, hlisting _⟩

end Detection
