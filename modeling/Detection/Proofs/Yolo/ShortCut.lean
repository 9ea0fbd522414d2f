/-
# The short cut past the classes

Where a network activates its outputs itself, an anchor is passed over as soon as its objectness is
below the thresholds of all classes, before any class is looked at.  A class counts with its
probability times the objectness.  So no class would have been found at such an anchor: its product
is no larger than the objectness if that is positive, and not positive itself otherwise.

## Main definitions

* `Detector.candidateBy?`, `Detector.layerObjectsBy`: candidates and the objects of a layer, with
  any other way to tell by its objectness whether an anchor is passed over.

The main result is `layerObjectsBy_some_of_activated`.
-/
import Detection.Proofs.Number.Scaling
import Detection.Proofs.Settings.Ranges
import Detection.Proofs.Yolo.CommonThreshold

namespace Detection
namespace Yolo

/-! ## Products with the objectness -/

/-- What an objectness below a bound leaves of the probability of a class does not exceed the
bound, unless it is not positive. -/
lemma mul_le_of_objectness_lt {raw objectness bound : Float32} (hlow : 0.0 ≤ raw)
    (hhigh : raw ≤ 1.0) (hbound : objectness < bound) (hpos : 0.0 < raw * objectness) :
    raw * objectness ≤ bound := by
  obtain ⟨hthere, -, -⟩ := Float32.lt_iff.1 hbound
  have hobjectness : 0.0 ≤ objectness := by
    refine (Float32.not_lt hthere rfl).1 fun hneg => ?_
    exact Float32.not_lt_mul_of_le_zero hlow (Float32.isFinite_of_le hlow rfl hhigh)
      (Float32.le_of_lt hneg) hpos
  exact Float32.le_trans
    (Float32.mul_le_of_le_one hhigh hobjectness (Float32.lt_iff.1 hpos).2.1)
    (Float32.le_of_lt hbound)

/-! ## The common threshold -/

/-- The common threshold of a detector that settings describe is not below zero, if it is a
number. -/
lemma nonneg_scoreThreshold_of_built_eq_ok {c : Detection.Settings} {shapes : List (List ℕ)}
    {d : Detector} (h : built c shapes = .ok d)
    (hthere : d.settings.classes.scoreThreshold.isNaN = false) :
    0.0 ≤ d.settings.classes.scoreThreshold := by
  obtain ⟨s, hs, h⟩ := exists_of_bind_eq_ok h
  obtain ⟨classes, hclasses, hs⟩ := exists_of_bind_eq_ok hs
  obtain ⟨layout, -, hs⟩ := exists_of_bind_eq_ok hs
  obtain ⟨sizes, -, hs⟩ := exists_of_bind_eq_ok hs
  obtain ⟨thresholds, -, hclasses⟩ := exists_of_bind_eq_ok hclasses
  rw [settings_of_build_eq_ok h] at hthere ⊢
  cases hs
  cases hclasses
  exact (Float32.not_lt hthere rfl).1 (c.not_readOr_lt "SCORE_THRESH" (by decide))

section

variable [Elementary]

/-! ## Candidates without the short cut -/

/-- The object at an anchor of a cell, if there is one, where the objectness is told by another
function of the raw channel than that of the detector. -/
def Detector.candidateBy? (d : Detector) (gate : Float32 → Option Float32) (extent : Extent)
    (data : LayerData) (cell anchor : ℕ) : Except Fault (Option DetectedObject) := do
  let dimensions := d.dimensions data.layer
  let channel (c : ℕ) := element data.values (d.variant.place dimensions cell anchor c)
  match gate (← channel boxChannels) with
  | none => return none
  | some objectness =>
    let raw ← (List.range d.settings.classes.classCount).mapM fun c =>
      channel (leadingChannels + c)
    match d.bestClass? (raw.map (d.probability objectness)) with
    | none => return none
    | some (classId, probability) =>
      let (x, y, width, height) := d.rectangle extent data.layer cell anchor
        (← channel 0) (← channel 1) (← channel 2) (← channel 3)
      return some (objectOf x y width height probability classId)

/-- The objects of a layer, cell by cell, with another function that tells the objectness. -/
def Detector.layerObjectsBy (d : Detector) (gate : Float32 → Option Float32) (extent : Extent)
    (data : LayerData) : Except Fault (List DetectedObject) := do
  let found ← (d.dimensions data.layer).places.mapM fun place =>
    d.candidateBy? gate extent data place.1 place.2
  return found.filterMap id

variable {d : Detector} {extent : Extent} {data : LayerData} {cell anchor : ℕ}

/-- With the function of the detector it is what the detector does. -/
lemma layerObjectsBy_objectness (d : Detector) (extent : Extent) (data : LayerData) :
    d.layerObjectsBy d.objectness? extent data = d.layerObjects extent data := rfl

/-- Admitting an anchor makes no difference where the detector would find no class for it. -/
lemma candidateBy?_some_eq (hcovers : d.Covers data) (hcell : cell < data.layer.cells)
    (hanchor : anchor < d.settings.anchorsPerCell)
    (hobjectness : ∀ raw objectness, d.objectness? raw = some objectness → objectness = raw)
    (hskip : d.objectness? (d.channel data cell anchor boxChannels) = none →
      d.bestClass? (d.probabilities data cell anchor
        (d.channel data cell anchor boxChannels)) = none) :
    d.candidateBy? some extent data cell anchor =
      d.candidateBy? d.objectness? extent data cell anchor := by
  have hchannel : ∀ c < d.settings.channels,
      element data.values (d.variant.place (d.dimensions data.layer) cell anchor c) =
        .ok (d.channel data cell anchor c) :=
    fun c hc => element_eq_channel (fitsWord_of_caught d data.layer) hcovers hcell hanchor hc
  have hbox : boxChannels < d.settings.channels :=
    Nat.lt_of_lt_of_le (by decide) (Nat.le_add_right leadingChannels _)
  unfold Detector.candidateBy?
  dsimp only
  rw [hchannel boxChannels hbox, ok_bind, ok_bind]
  cases hadmitted : d.objectness? (d.channel data cell anchor boxChannels) with
  | some objectness =>
    obtain rfl := hobjectness _ _ hadmitted
    rfl
  | none =>
    have hclasses : ((List.range d.settings.classes.classCount).mapM fun c =>
          element data.values (d.variant.place (d.dimensions data.layer) cell anchor
            (leadingChannels + c))) =
        .ok ((List.range d.settings.classes.classCount).map fun c =>
          d.channel data cell anchor (leadingChannels + c)) :=
      mapM_eq_ok_map fun c hc =>
        hchannel _ (Nat.add_lt_add_left (List.mem_range.1 hc) leadingChannels)
    have hnone := hskip hadmitted
    unfold Detector.probabilities at hnone
    dsimp only
    rw [hclasses, ok_bind, List.map_map]
    unfold Function.comp
    rw [hnone]

/-! ## Anchors that are passed over -/

lemma objectness?_of_activated (hvariant : d.variant = .activated) (raw : Float32) :
    d.objectness? raw =
      if raw < d.settings.classes.classThresholds.foldl least32 infinity32 then none
      else some raw := by
  unfold Detector.objectness?
  rw [hvariant]

/-- An anchor that is passed over has an objectness below the thresholds of all classes. -/
lemma lt_of_objectness?_eq_none {raw : Float32} (hvariant : d.variant = .activated)
    (hthere : ∀ t ∈ d.settings.classes.classThresholds, t.isNaN = false)
    (h : d.objectness? raw = none) : ∀ t ∈ d.settings.classes.classThresholds, raw < t := by
  intro t ht
  rw [objectness?_of_activated hvariant] at h
  simp only [ite_eq_left_iff, reduceCtorEq, imp_false, not_not] at h
  have hleast := (le_foldl_least32_iff (by decide) hthere).1
    (Float32.le_refl (Float32.lt_iff.1 h).2.1)
  exact Float32.lt_of_lt_of_le h (hleast.2 t ht)

/-- The class channels of an anchor of a cell hold fractions. -/
def Detector.HoldsFractions (d : Detector) (data : LayerData) (cell anchor : ℕ) : Prop :=
  ∀ c < d.settings.classes.classCount,
    0.0 ≤ d.channel data cell anchor (leadingChannels + c) ∧
      d.channel data cell anchor (leadingChannels + c) ≤ 1.0

/-- At an anchor that is passed over no class would have been found. -/
lemma bestClass?_eq_none_of_objectness {raw : Float32} (hvariant : d.variant = .activated)
    (hthresholds : d.HasThresholds) (hscore : 0.0 ≤ d.settings.classes.scoreThreshold)
    (hthere : ∀ t ∈ d.settings.classes.classThresholds, t.isNaN = false)
    (hfractions : d.HoldsFractions data cell anchor) (h : d.objectness? raw = none) :
    d.bestClass? (d.probabilities data cell anchor raw) = none := by
  refine Option.eq_none_iff_forall_ne_some.2 fun ⟨k, probability⟩ hbest => ?_
  obtain ⟨habove, hclass⟩ := bestClass?_eq_some_iff.1 hbest
  obtain ⟨hk, hlt⟩ := lt_of_bestAbove_eq_some habove
  have hget := getElem?_of_bestAbove_eq_some habove
  simp only [Detector.probabilities, List.length_map, List.length_range] at hk
  rw [Detector.probabilities, List.getElem?_map, List.getElem?_range hk, Option.map_some,
    Option.some.injEq] at hget
  unfold Detector.probability at hget
  rw [hvariant] at hget
  subst hget
  have hknown : k < d.settings.classes.classThresholds.length := by rwa [hthresholds]
  have hbound := lt_of_objectness?_eq_none hvariant hthere h _ (List.getElem_mem hknown)
  refine hclass ?_
  unfold ClassSettings.thresholdOf
  rw [List.getElem?_eq_getElem hknown]
  exact mul_le_of_objectness_lt (hfractions k hk).1 (hfractions k hk).2 hbound
    (Float32.lt_of_le_of_lt hscore hlt)

/-- **The short cut past the classes is sound.**  A detector for activated outputs, none of whose
thresholds is missing, passes over no anchor at which a class would have been found, if the class
channels hold fractions; so it finds the same objects in a layer as without the short cut. -/
theorem layerObjectsBy_some_of_activated {c : Detection.Settings} {shapes : List (List ℕ)}
    (hbuilt : built c shapes = .ok d) (hvariant : d.variant = .activated)
    (hthere : ∀ t ∈ d.settings.classes.scoreThreshold :: d.settings.classes.classThresholds,
      t.isNaN = false)
    (extent : Extent) (hcovers : d.Covers data)
    (hfractions : ∀ cell < data.layer.cells, ∀ anchor < d.settings.anchorsPerCell,
      d.HoldsFractions data cell anchor) :
    (∀ cell < data.layer.cells, ∀ anchor < d.settings.anchorsPerCell,
      d.objectness? (d.channel data cell anchor boxChannels) = none →
        d.bestClass? (d.probabilities data cell anchor
          (d.channel data cell anchor boxChannels)) = none) ∧
      ∃ objects, d.layerObjects extent data = .ok objects ∧
        d.layerObjectsBy some extent data = .ok objects := by
  obtain ⟨hcommon, hclasses⟩ := List.forall_mem_cons.1 hthere
  have hskip : ∀ cell < data.layer.cells, ∀ anchor < d.settings.anchorsPerCell,
      d.objectness? (d.channel data cell anchor boxChannels) = none →
        d.bestClass? (d.probabilities data cell anchor
          (d.channel data cell anchor boxChannels)) = none :=
    fun cell hcell anchor hanchor => bestClass?_eq_none_of_objectness hvariant
      (hasThresholds_of_built_eq_ok hbuilt) (nonneg_scoreThreshold_of_built_eq_ok hbuilt hcommon)
      hclasses (hfractions cell hcell anchor hanchor)
  have hobjectness : ∀ raw objectness, d.objectness? raw = some objectness →
      objectness = raw := by
    intro raw objectness h
    rw [objectness?_of_activated hvariant, Option.ite_none_left_eq_some] at h
    exact (Option.some.inj h.2).symm
  have hsame : d.layerObjectsBy some extent data = d.layerObjects extent data := by
    rw [← layerObjectsBy_objectness]
    unfold Detector.layerObjectsBy
    rw [mapM_congr fun place hplace => ?_]
    obtain ⟨hcell, hanchor⟩ := mem_places.1 hplace
    exact candidateBy?_some_eq hcovers hcell hanchor hobjectness
      (hskip place.1 hcell place.2 hanchor)
  have hobjects : d.layerObjects extent data = .ok (d.objectsOf extent data) :=
    layerObjects_eq_ok (fitsWord_of_caught d data.layer) hcovers
  exact ⟨hskip, _, hobjects, hsame.trans hobjects⟩

end

/-- Two cells: the objectness of the first one is below the threshold of the only class. -/
def coveredCells : LayerData :=
  ⟨⟨2, 1, [10.0, 13.0]⟩, #[0.5, 0.5, 0.5, 0.5, 0.125, 1.0, 0.5, 0.5, 0.5, 0.5, 1.0, 0.375]⟩

/-- The first cell is passed over, and the object in the second one is found either way. -/
theorem layerObjectsBy_some_coveredCells :
    let d := besideCommonDetector 0.25
    built (besideCommon "0.25") [oneCell.shape] = .ok d ∧
      @Detector.objectness? coarseElementary d (d.channel coveredCells 0 0 boxChannels) = none ∧
      @Detector.layerObjects coarseElementary _ d ⟨64, 32, 64, 32⟩ coveredCells =
        .ok [⟨⟨0.25, 0.25, 0.75, 0.75⟩, 0.375, 0⟩] ∧
      @Detector.layerObjectsBy coarseElementary d some ⟨64, 32, 64, 32⟩ coveredCells =
        .ok [⟨⟨0.25, 0.25, 0.75, 0.75⟩, 0.375, 0⟩] := by
  intro d
  have hfractions : ∀ cell < coveredCells.layer.cells, ∀ anchor < d.settings.anchorsPerCell,
      d.HoldsFractions coveredCells cell anchor := by
    unfold Detector.HoldsFractions
    decide
  have hcovers : d.Covers coveredCells := by
    unfold Detector.Covers
    decide
  have hfound : @Detector.layerObjects coarseElementary _ d ⟨64, 32, 64, 32⟩ coveredCells =
      .ok [⟨⟨0.25, 0.25, 0.75, 0.75⟩, 0.375, 0⟩] := by
    decide
  obtain ⟨-, objects, hobjects, hsame⟩ := @layerObjectsBy_some_of_activated coarseElementary d
    coveredCells _ _ built_besideCommon.1 rfl (by decide) ⟨64, 32, 64, 32⟩ hcovers
    hfractions
  obtain rfl := Except.ok.inj (hfound.symm.trans hobjects)
  exact ⟨built_besideCommon.1, by decide, hfound, hsame⟩

end Yolo
end Detection
