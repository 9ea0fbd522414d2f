/-
# The thresholds that regions are held to

Every mode of decoding compares the score of a region with the threshold of a class.  Where the
network has chosen the class, it is the class of the object.  Where the decoder chooses it, the
scores do not count the background while the classes of the objects do, and the threshold is
looked up by the position of the score: it is that of the class before.

## Main definitions

* `ClassSettings.HasThresholds`: no threshold is missing.
* `Mode.judgedClass`: the class whose threshold an object is held to.
* `HasScores`: no region of a feature pyramid has a missing score.
-/
import Detection.Proofs.FasterRcnn.Regions

namespace Detection

/-! ## Thresholds -/

namespace ClassSettings

/-- Neither the common threshold nor that of a class is missing. -/
structure HasThresholds (c : ClassSettings) : Prop where
  isNaN_common : c.scoreThreshold.isNaN = false
  isNaN_of_mem : ∀ threshold ∈ c.classThresholds, threshold.isNaN = false

lemma HasThresholds.isNaN_thresholdOf {c : ClassSettings} (h : c.HasThresholds) (classId : ℕ) :
    (c.thresholdOf classId).isNaN = false := by
  unfold thresholdOf
  cases hthreshold : c.classThresholds[classId]? with
  | none => exact h.isNaN_common
  | some threshold => exact h.isNaN_of_mem threshold (List.mem_of_getElem? hthreshold)

end ClassSettings

namespace FasterRcnn

/-- The class whose threshold an object of a class is held to. -/
def Mode.judgedClass (mode : Mode) (classId : ℕ) : ℕ :=
  match mode with
  | .perClass => classId - 1
  | .suppressed => classId
  | .pyramid => classId

/-- No region of a feature pyramid has a missing score. -/
def HasScores (boxes : Array Float32) : Prop :=
  ∀ region score, boxes[region * pyramidBoxWidth + 4]? = some score → score.isNaN = false

/-! ## The objects of one mode -/

section Regions

variable {d : Detector} {extent : Extent} {outputs : List Tensor} {objects : List DetectedObject}
  {o : DetectedObject} (hthresholds : d.settings.classes.HasThresholds)

include hthresholds

/-- The best score of a region exceeds the threshold of the class before that of the object. -/
lemma exists_threshold_lt_of_mem_perClassObjects
    (h : d.perClassObjects outputs extent = .ok objects) (ho : o ∈ objects) :
    ∃ k < d.settings.scoredClasses, o.classId = k + 1 ∧
      d.settings.classes.thresholdOf k < o.confidence := by
  obtain ⟨hclasses, boxes, scores, region, given, hregion, hclass, hconfidence⟩ :=
    exists_region_of_mem_perClassObjects h ho
  obtain ⟨k, hk, hgiven, hthere, hexceeds⟩ := perClassObject?_eq_some hclasses hregion
  rw [hclass, hconfidence]
  refine ⟨k, hk, hgiven, ?_⟩
  by_contra hnot
  exact hexceeds ((Float32.not_lt (hthresholds.isNaN_thresholdOf k) hthere).1 hnot)

omit hthresholds in
/-- The score of a suppressed region reaches the threshold of its class. -/
lemma threshold_le_of_mem_suppressedObjects (h : d.suppressedObjects outputs = .ok objects)
    (ho : o ∈ objects) : d.settings.classes.thresholdOf o.classId ≤ o.confidence := by
  obtain ⟨count, -, ⟨-, rfl⟩ | ⟨boxes, scores, classIds, found, -, -, hfound, rfl⟩⟩ :=
    suppressedObjects_eq_ok h
  · cases ho
  · obtain ⟨region, -, hregion⟩ := exists_region_of_mem hfound ho
    obtain ⟨x, threshold, -, -, -, hthreshold, -, hreaches⟩ :=
      (suppressedObject?_iff hregion o.classId o.confidence).1 ⟨o, rfl, rfl, rfl⟩
    rw [ClassSettings.thresholdOf, hthreshold]
    exact hreaches

/-- The score of a region of a feature pyramid is not below the threshold of its class. -/
lemma threshold_le_of_mem_pyramidObjects
    (hscores : ∀ output boxes, tensorAt outputs d.settings.countOutput = .ok output →
      output.data = .float boxes → HasScores boxes)
    (h : d.pyramidObjects outputs extent = .ok objects) (ho : o ∈ objects) :
    d.settings.classes.thresholdOf o.classId ≤ o.confidence := by
  obtain ⟨boxes, classIds, region, ⟨output, houtput, hdata⟩, hregion⟩ :=
    exists_region_of_mem_pyramidObjects h ho
  obtain ⟨hscore, hreaches⟩ := pyramidObject?_eq_some hregion
  have hthere := hscores output boxes (tensorAt_eq_ok_iff.2 houtput) hdata region _ hscore
  exact (Float32.not_lt hthere (hthresholds.isNaN_thresholdOf _)).1 hreaches

/-! ## All modes -/

/-- **Objects are held to the threshold of the class they are judged as.**  Where no threshold
and no score is missing, every object that decoding gives reaches the threshold of the class it
is judged as.  So it reaches the threshold of its own class, too, if the network has chosen the
class, or if no scored class has a higher threshold than the one before it. -/
theorem isHeldToThreshold_decode
    (hscores : d.settings.mode = .pyramid → ∀ output boxes,
      tensorAt outputs d.settings.countOutput = .ok output → output.data = .float boxes →
        HasScores boxes)
    (h : d.decode outputs extent = .ok objects) :
    (∀ o ∈ objects, d.settings.classes.thresholdOf (d.settings.mode.judgedClass o.classId) ≤
        o.confidence) ∧
      ((d.settings.mode = .perClass → ∀ k < d.settings.scoredClasses,
          d.settings.classes.thresholdOf (k + 1) ≤ d.settings.classes.thresholdOf k) →
        ∀ o ∈ objects, d.settings.classes.thresholdOf o.classId ≤ o.confidence) := by
  obtain ⟨-, -, h⟩ := exists_of_bind_eq_ok h
  cases hmode : d.settings.mode with
  | perClass =>
    rw [hmode] at h
    constructor
    · intro o ho
      obtain ⟨k, -, hclass, hlt⟩ := exists_threshold_lt_of_mem_perClassObjects hthresholds h ho
      rw [hclass]
      exact Float32.le_of_lt hlt
    · intro hfalling o ho
      obtain ⟨k, hk, hclass, hlt⟩ := exists_threshold_lt_of_mem_perClassObjects hthresholds h ho
      rw [hclass]
      exact Float32.le_trans (hfalling rfl k hk) (Float32.le_of_lt hlt)
  | suppressed =>
    rw [hmode] at h
    have hreaches : ∀ o ∈ objects, d.settings.classes.thresholdOf o.classId ≤ o.confidence :=
      fun o ho => threshold_le_of_mem_suppressedObjects h ho
    exact ⟨hreaches, fun _ => hreaches⟩
  | pyramid =>
    rw [hmode] at h
    have hreaches : ∀ o ∈ objects, d.settings.classes.thresholdOf o.classId ≤ o.confidence :=
      fun o ho => threshold_le_of_mem_pyramidObjects hthresholds (hscores hmode) h ho
    exact ⟨hreaches, fun _ => hreaches⟩

end Regions

/-- Settings in which the last class has the highest threshold. -/
def risingThresholds : Detection.Settings :=
  .ofList [("CLASS_NUM", "3"), ("SEPARATE_SCORE_THRESH", "0.25,0.25,0.75")]

/-- One region with the second of two scored classes for its best, which is class 2. -/
def oneRegion : List Tensor :=
  [⟨[1], .float #[1.0]⟩,
    ⟨[1, 1, 2, 4], .float #[0.0, 0.0, 0.0, 0.0, 32.0, 32.0, 64.0, 64.0]⟩,
    ⟨[1, 1, 2], .float #[0.0, 0.5]⟩, .zeros [1]]

/-- The object of that region. -/
def objectOfRegion : DetectedObject :=
  ⟨⟨0.25, 0.25, 0.5, 0.5⟩, 0.5, 2⟩

/-- The detector of those settings. -/
def risingDetector : Detector where
  settings :=
    { classes := ⟨3, 0.3, [0.25, 0.25, 0.75], true⟩
      overlapThreshold := 0.45
      mode := .perClass
      scoredClasses := 2
      countOutput := 0
      boxOutput := 1
      scoreOutput := 2
      suppressedScoreOutput := 1
      suppressedBoxOutput := 2
      suppressedClassOutput := 3 }

lemma decode_oneRegion :
    risingDetector.decode oneRegion ⟨128, 128, 128, 128⟩ = .ok [objectOfRegion] := by
  decide +kernel

lemma hasThresholds_risingDetector : risingDetector.settings.classes.HasThresholds :=
  ⟨rfl, by decide⟩

theorem isHeldToThreshold_oneRegion :
    risingDetector.decode oneRegion ⟨128, 128, 128, 128⟩ = .ok [objectOfRegion] ∧
      risingDetector.settings.classes.HasThresholds ∧
      ∀ o ∈ [objectOfRegion], risingDetector.settings.classes.thresholdOf
        (Mode.perClass.judgedClass o.classId) ≤ o.confidence := by
  refine ⟨decode_oneRegion, hasThresholds_risingDetector, ?_⟩
  exact (isHeldToThreshold_decode hasThresholds_risingDetector
    (fun hmode => absurd hmode (by decide)) decode_oneRegion).1

/-- Whether all numbers of a tensor are there. -/
def isComplete (t : Tensor) : Bool :=
  match t.data with
  | .float values => values.all fun x => !x.isNaN
  | .integer _ => true

/-- The score reaches the threshold of class 1, but not that of class 2. -/
theorem not_isHeldToThreshold_oneRegion :
    ¬ ∀ (c : Detection.Settings) (s : Settings) (d : Detector) (outputs : List Tensor)
        (extent : Extent) (objects : List DetectedObject),
      Settings.ofSettings c = .ok s → Detector.build s (outputs.map (·.shape)) = .ok d →
        s.classes.HasThresholds → outputs.all isComplete →
        d.decode outputs extent = .ok objects →
          ∀ o ∈ objects, d.settings.classes.thresholdOf o.classId ≤ o.confidence := by
  intro hall
  have hle := hall risingThresholds risingDetector.settings risingDetector oneRegion
    ⟨128, 128, 128, 128⟩ [objectOfRegion] rfl rfl
    hasThresholds_risingDetector (by decide +kernel) decode_oneRegion objectOfRegion
    (List.mem_singleton.2 rfl)
  have hnot : ¬ (0.75 : Float32) ≤ 0.5 := by decide
  exact hnot hle

end FasterRcnn
end Detection
