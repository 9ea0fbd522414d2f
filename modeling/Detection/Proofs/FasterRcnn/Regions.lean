/-
# Where objects come from

Every object that decoding gives is that of a region.  For each mode of decoding it is said here
once what has been read when it succeeds, and what a region must show to have an object.

## Main definitions

* `CountsRegions`: the number of regions that the outputs tell.
* `HoldsNumbers`: the numbers that an output holds.
-/
import Detection.FasterRcnn.Decoder
import Detection.Proofs.Box.Suppression
import Detection.Proofs.Choice
import Detection.Proofs.Tensor

namespace Detection
namespace FasterRcnn

/-! ## What is read of the outputs -/

/-- The output with the number of detections tells a number of regions. -/
def CountsRegions (s : Settings) (outputs : List Tensor) (count : ℕ) : Prop :=
  ∃ output, outputs[s.countOutput]? = some output ∧ detectionCount output = .ok count

/-- The output of an index holds numbers. -/
def HoldsNumbers (outputs : List Tensor) (index : ℕ) (values : Array Float32) : Prop :=
  ∃ output, outputs[index]? = some output ∧ output.data = .float values

lemma HoldsNumbers.unique {outputs : List Tensor} {index : ℕ} {values values' : Array Float32}
    (h : HoldsNumbers outputs index values) (h' : HoldsNumbers outputs index values') :
    values = values' := by
  obtain ⟨output, houtput, hdata⟩ := h
  obtain ⟨output', houtput', hdata'⟩ := h'
  rw [houtput] at houtput'
  cases houtput'
  rw [hdata] at hdata'
  exact TensorData.float.inj hdata'

lemma CountsRegions.unique {s : Settings} {outputs : List Tensor} {count count' : ℕ}
    (h : CountsRegions s outputs count) (h' : CountsRegions s outputs count') :
    count = count' := by
  obtain ⟨output, houtput, hcount⟩ := h
  obtain ⟨output', houtput', hcount'⟩ := h'
  rw [houtput] at houtput'
  cases houtput'
  rw [hcount] at hcount'
  exact Except.ok.inj hcount'

lemma holdsNumbers_of_floatsCovering {outputs : List Tensor} {index last : ℕ} {output : Tensor}
    {values : Array Float32} (houtput : tensorAt outputs index = .ok output)
    (h : output.floatsCovering last = .ok values) : HoldsNumbers outputs index values :=
  ⟨output, tensorAt_eq_ok_iff.1 houtput, (Tensor.floatsCovering_eq_ok_iff.1 h).1⟩

/-! ## The object of a region -/

section Region

variable {d : Detector} {extent : Extent} {region : ℕ} {o : DetectedObject}

lemma bestAbove_zero (scores : List Float32) (hne : scores ≠ []) :
    (bestAbove 0.0 scores).1.getD 0 < scores.length ∧
      (bestAbove 0.0 scores).2.isNaN = false := by
  rcases bestAbove_cases 0.0 scores with ⟨heq, -⟩ | ⟨k, hk, hbest, heq⟩
  · rw [heq]
    exact ⟨List.length_pos_of_ne_nil hne, by decide⟩
  · rw [heq]
    exact ⟨hk, (Float32.lt_iff.1 hbest.above).2.1⟩

/-- Where classes are scored apart, an object has a class behind that of the threshold that its
score is compared with. -/
lemma perClassObject?_eq_some {boxes scores : Array Float32}
    (hclasses : d.settings.scoredClasses ≠ 0)
    (h : d.perClassObject? extent boxes scores region = .ok (some o)) :
    ∃ k < d.settings.scoredClasses, o.classId = k + 1 ∧ o.confidence.isNaN = false ∧
      ¬ o.confidence ≤ d.settings.classes.thresholdOf k := by
  unfold Detector.perClassObject? at h
  obtain ⟨regionScores, hscores, h⟩ := exists_of_bind_eq_ok h
  have hlength : regionScores.length = d.settings.scoredClasses := by
    rw [length_of_mapM_eq_ok hscores, List.length_range]
  have hne : regionScores ≠ [] := by
    rintro rfl
    exact hclasses hlength.symm
  obtain ⟨hindex, hthere⟩ := bestAbove_zero regionScores hne
  dsimp only at h
  split at h
  · cases h
  · rename_i hexceeds
    obtain ⟨corners, -, h⟩ := exists_of_bind_eq_ok h
    cases h
    exact ⟨_, hlength ▸ hindex, rfl, hthere, hexceeds⟩

/-- A suppressed region has an object of a class exactly if its class number is above zero and
counts as that class, and its score reaches the threshold of the class. -/
lemma suppressedObject?_iff {boxes scores classIds : Array Float32}
    {found : Option DetectedObject}
    (h : d.suppressedObject? boxes scores classIds region = .ok found) (c : ℕ) (y : Float32) :
    (∃ o, found = some o ∧ o.classId = c ∧ o.confidence = y) ↔
      ∃ x threshold, classIds[region]? = some x ∧ ¬ x ≤ 0.0 ∧ countOf x = c ∧
        d.settings.classes.classThresholds[c]? = some threshold ∧
        scores[region]? = some y ∧ threshold ≤ y := by
  unfold Detector.suppressedObject? at h
  obtain ⟨classNumber, hclass, h⟩ := exists_of_bind_eq_ok h
  rw [element_eq_ok_iff] at hclass
  split at h
  · rename_i hbackground
    cases h
    simp [hclass, hbackground]
  · rename_i hforeground
    obtain ⟨score, hscore, h⟩ := exists_of_bind_eq_ok h
    rw [element_eq_ok_iff] at hscore
    simp only [hclass, hscore, Option.some.injEq]
    split at h
    · rename_i hunknown
      cases h
      constructor
      · rintro ⟨o, hnone, -⟩
        cases hnone
      · rintro ⟨x, threshold, rfl, -, rfl, hknown, -⟩
        rw [hunknown] at hknown
        cases hknown
    · rename_i threshold hknown
      split at h
      · rename_i hreaches
        obtain ⟨corners, -, h⟩ := exists_of_bind_eq_ok h
        cases h
        constructor
        · rintro ⟨o, ho, rfl, rfl⟩
          cases ho
          exact ⟨classNumber, threshold, rfl, hforeground, rfl, hknown, rfl, hreaches⟩
        · rintro ⟨x, threshold', rfl, -, rfl, -, rfl, -⟩
          exact ⟨_, rfl, rfl, rfl⟩
      · rename_i hmisses
        cases h
        constructor
        · rintro ⟨o, hnone, -⟩
          cases hnone
        · rintro ⟨x, threshold', rfl, -, rfl, hknown', rfl, hreaches⟩
          rw [hknown] at hknown'
          cases hknown'
          exact absurd hreaches hmisses

/-- An object of a feature pyramid has a score that is not below the threshold of its class. -/
lemma pyramidObject?_eq_some {boxes : Array Float32} {classIds : Array Int64}
    (h : d.pyramidObject? extent boxes classIds region = .ok (some o)) :
    boxes[region * pyramidBoxWidth + 4]? = some o.confidence ∧
      ¬ o.confidence < d.settings.classes.thresholdOf o.classId := by
  unfold Detector.pyramidObject? at h
  obtain ⟨classNumber, -, h⟩ := exists_of_bind_eq_ok h
  dsimp only at h
  split at h
  · cases h
  · obtain ⟨score, hscore, h⟩ := exists_of_bind_eq_ok h
    split at h
    · cases h
    · rename_i hreaches
      obtain ⟨left, -, h⟩ := exists_of_bind_eq_ok h
      obtain ⟨top, -, h⟩ := exists_of_bind_eq_ok h
      obtain ⟨right, -, h⟩ := exists_of_bind_eq_ok h
      obtain ⟨bottom, -, h⟩ := exists_of_bind_eq_ok h
      cases h
      exact ⟨element_eq_ok_iff.1 hscore, hreaches⟩

end Region

/-! ## The objects of all regions -/

lemma exists_region_of_mem {f : ℕ → Except Fault (Option DetectedObject)} {count : ℕ}
    {found : List (Option DetectedObject)} (h : (List.range count).mapM f = .ok found)
    {o : DetectedObject} (ho : o ∈ found.filterMap id) :
    ∃ region < count, f region = .ok (some o) := by
  obtain ⟨found?, hmem, rfl⟩ := List.mem_filterMap.1 ho
  obtain ⟨region, hregion, heq⟩ := exists_of_mem_of_mapM_eq_ok h hmem
  exact ⟨region, List.mem_range.1 hregion, heq⟩

section Regions

variable {d : Detector} {extent : Extent} {outputs : List Tensor} {objects : List DetectedObject}
  {o : DetectedObject}

/-- Where classes are scored apart, suppression has the last word, but it keeps the class and the
score of what it leaves. -/
lemma exists_region_of_mem_perClassObjects
    (h : d.perClassObjects outputs extent = .ok objects) (ho : o ∈ objects) :
    d.settings.scoredClasses ≠ 0 ∧ ∃ boxes scores region given,
      d.perClassObject? extent boxes scores region = .ok (some given) ∧
        o.classId = given.classId ∧ o.confidence = given.confidence := by
  unfold Detector.perClassObjects at h
  dsimp only at h
  split at h
  · cases h
  obtain ⟨countOutput, -, h⟩ := exists_of_bind_eq_ok h
  obtain ⟨count, -, h⟩ := exists_of_bind_eq_ok h
  split at h
  · cases h
    cases ho
  rename_i hsome
  obtain ⟨boxOutput, -, h⟩ := exists_of_bind_eq_ok h
  obtain ⟨lastBox, -, h⟩ := exists_of_bind_eq_ok h
  obtain ⟨boxes, -, h⟩ := exists_of_bind_eq_ok h
  obtain ⟨scoreOutput, -, h⟩ := exists_of_bind_eq_ok h
  obtain ⟨lastScore, -, h⟩ := exists_of_bind_eq_ok h
  obtain ⟨scores, -, h⟩ := exists_of_bind_eq_ok h
  obtain ⟨found, hfound, h⟩ := exists_of_bind_eq_ok h
  obtain ⟨given, hgiven, hkept⟩ := DetectedObject.exists_of_mem_suppress h ho
  obtain ⟨region, -, hregion⟩ := exists_region_of_mem hfound hgiven
  exact ⟨fun hnone => hsome (.inr hnone), boxes, scores, region, given, hregion, hkept⟩

/-- Where the network has suppressed overlaps itself, the objects are those of the regions that
are counted, if there are any. -/
lemma suppressedObjects_eq_ok (h : d.suppressedObjects outputs = .ok objects) :
    ∃ count, CountsRegions d.settings outputs count ∧
      (count = 0 ∧ objects = [] ∨ ∃ boxes scores classIds found,
        HoldsNumbers outputs d.settings.suppressedScoreOutput scores ∧
        HoldsNumbers outputs d.settings.suppressedClassOutput classIds ∧
        (List.range count).mapM (d.suppressedObject? boxes scores classIds) = .ok found ∧
        objects = found.filterMap id) := by
  unfold Detector.suppressedObjects at h
  dsimp only at h
  split at h
  · cases h
  obtain ⟨countOutput, houtput, h⟩ := exists_of_bind_eq_ok h
  obtain ⟨count, hcount, h⟩ := exists_of_bind_eq_ok h
  refine ⟨count, ⟨countOutput, tensorAt_eq_ok_iff.1 houtput, hcount⟩, ?_⟩
  split at h
  · rename_i hnone
    cases h
    exact .inl ⟨hnone, rfl⟩
  right
  obtain ⟨boxOutput, -, h⟩ := exists_of_bind_eq_ok h
  obtain ⟨lastBox, -, h⟩ := exists_of_bind_eq_ok h
  obtain ⟨boxes, -, h⟩ := exists_of_bind_eq_ok h
  obtain ⟨scoreOutput, hscoreOutput, h⟩ := exists_of_bind_eq_ok h
  obtain ⟨scores, hscores, h⟩ := exists_of_bind_eq_ok h
  obtain ⟨classOutput, hclassOutput, h⟩ := exists_of_bind_eq_ok h
  obtain ⟨classIds, hclassIds, h⟩ := exists_of_bind_eq_ok h
  obtain ⟨found, hfound, h⟩ := exists_of_bind_eq_ok h
  cases h
  exact ⟨boxes, scores, classIds, found, holdsNumbers_of_floatsCovering hscoreOutput hscores,
    holdsNumbers_of_floatsCovering hclassOutput hclassIds, hfound, rfl⟩

lemma exists_region_of_mem_pyramidObjects (h : d.pyramidObjects outputs extent = .ok objects)
    (ho : o ∈ objects) :
    ∃ boxes classIds region, HoldsNumbers outputs d.settings.countOutput boxes ∧
      d.pyramidObject? extent boxes classIds region = .ok (some o) := by
  unfold Detector.pyramidObjects at h
  dsimp only at h
  split at h
  · cases h
  obtain ⟨boxOutput, houtput, h⟩ := exists_of_bind_eq_ok h
  split at h
  · cases h
    cases ho
  obtain ⟨lastBox, -, h⟩ := exists_of_bind_eq_ok h
  obtain ⟨boxes, hboxes, h⟩ := exists_of_bind_eq_ok h
  obtain ⟨classOutput, -, h⟩ := exists_of_bind_eq_ok h
  obtain ⟨classIds, -, h⟩ := exists_of_bind_eq_ok h
  obtain ⟨found, hfound, h⟩ := exists_of_bind_eq_ok h
  cases h
  obtain ⟨region, -, hregion⟩ := exists_region_of_mem hfound ho
  exact ⟨boxes, classIds, region, holdsNumbers_of_floatsCovering houtput hboxes, hregion⟩

end Regions

end FasterRcnn
end Detection
