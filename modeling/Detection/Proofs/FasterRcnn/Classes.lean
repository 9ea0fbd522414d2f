/-
# The classes that objects get

Where the decoder chooses the class of a region, it chooses among the scored classes and then
counts the background in.  Where the network has chosen it, the class comes as a number that may
be anything: it is taken for the background if it is not above zero, and its integer part is
taken for the class otherwise.  So a number above zero that is below one is not taken for the
background, but its class is that of the background all the same; and so is a missing number.

## Main definitions

* `ShowsRegion`: the outputs show a class number and a score for a region.

The main result is `forall_one_le_classId_iff`.
-/
import Detection.Proofs.FasterRcnn.Regions
import Detection.Proofs.Number.Truncation
import Detection.Proofs.Settings.Reading

namespace Detection
namespace FasterRcnn

/-! ## What settings say about classes -/

section Settings

variable {c : Detection.Settings} {s : Settings}

lemma classes_of_ofSettings (h : Settings.ofSettings c = .ok s) :
    ClassSettings.ofSettings c = .ok s.classes := by
  obtain ⟨classes, hclasses, h⟩ := exists_of_bind_eq_ok h
  cases h
  exact hclasses

/-- If the decoder chooses the classes, all but the background are scored. -/
lemma scoredClasses_of_ofSettings (h : Settings.ofSettings c = .ok s)
    (hmode : s.mode = .perClass) : s.scoredClasses = s.classes.classCount - 1 := by
  obtain ⟨classes, -, h⟩ := exists_of_bind_eq_ok h
  cases h
  dsimp only at hmode ⊢
  split at hmode
  · cases hmode
  · split at hmode
    · cases hmode
    · rename_i hsuppressed
      rw [if_neg hsuppressed]

end Settings

/-! ## Suppressed regions -/

/-- The outputs of a network that has suppressed overlaps itself count a region, and show a class
number and a score for it. -/
structure ShowsRegion (s : Settings) (outputs : List Tensor) (region : ℕ) (x y : Float32) :
    Prop where
  counted : ∃ count, CountsRegions s outputs count ∧ region < count
  classNumber : ∃ classIds, HoldsNumbers outputs s.suppressedClassOutput classIds ∧
    classIds[region]? = some x
  score : ∃ scores, HoldsNumbers outputs s.suppressedScoreOutput scores ∧
    scores[region]? = some y

section Regions

variable {d : Detector} {extent : Extent} {outputs : List Tensor} {objects : List DetectedObject}

/-- There is an object of a class and a score exactly if a region is shown with that score and
with a class number above zero that counts as the class, and if the score reaches the threshold
of the class. -/
lemma exists_mem_suppressedObjects_iff (h : d.suppressedObjects outputs = .ok objects) (c : ℕ)
    (y : Float32) :
    (∃ o ∈ objects, o.classId = c ∧ o.confidence = y) ↔
      ∃ region x threshold, ShowsRegion d.settings outputs region x y ∧ ¬ x ≤ 0.0 ∧
        countOf x = c ∧ d.settings.classes.classThresholds[c]? = some threshold ∧
        threshold ≤ y := by
  obtain ⟨count, hcount, ⟨rfl, rfl⟩ |
    ⟨boxes, scores, classIds, found, hscores, hclassIds, hfound, rfl⟩⟩ :=
    suppressedObjects_eq_ok h
  · -- No region is counted, so none is shown.
    constructor
    · rintro ⟨o, hnone, -⟩
      cases hnone
    · rintro ⟨region, x, threshold, ⟨⟨count, hcount', hlt⟩, -, -⟩, -⟩
      rw [← hcount.unique hcount'] at hlt
      exact absurd hlt (Nat.not_lt_zero region)
  · constructor
    · rintro ⟨o, ho, hclass, hscore⟩
      obtain ⟨region, hlt, hregion⟩ := exists_region_of_mem hfound ho
      obtain ⟨x, threshold, hx, hforeground, hcountOf, hthreshold, hy, hreaches⟩ :=
        (suppressedObject?_iff hregion c y).1 ⟨o, rfl, hclass, hscore⟩
      exact ⟨region, x, threshold, ⟨⟨count, hcount, hlt⟩, ⟨classIds, hclassIds, hx⟩,
        ⟨scores, hscores, hy⟩⟩, hforeground, hcountOf, hthreshold, hreaches⟩
    · rintro ⟨region, x, threshold, ⟨⟨count', hcount', hlt⟩, ⟨classIds', hclassIds', hx⟩,
        ⟨scores', hscores', hy⟩⟩, hforeground, hcountOf, hthreshold, hreaches⟩
      rw [← hcount.unique hcount'] at hlt
      rw [← hclassIds.unique hclassIds'] at hx
      rw [← hscores.unique hscores'] at hy
      obtain ⟨found?, hmem, hregion⟩ := exists_mem_of_mapM_eq_ok hfound (List.mem_range.2 hlt)
      obtain ⟨o, rfl, hclass, hscore⟩ := (suppressedObject?_iff hregion c y).2
        ⟨x, threshold, hx, hforeground, hcountOf, hthreshold, hy, hreaches⟩
      exact ⟨o, List.mem_filterMap.2 ⟨some o, hmem, rfl⟩, hclass, hscore⟩

/-! ## All modes but the feature pyramid -/

lemma classId_of_mem_perClassObjects (h : d.perClassObjects outputs extent = .ok objects)
    {o : DetectedObject} (ho : o ∈ objects) :
    1 ≤ o.classId ∧ o.classId < d.settings.scoredClasses + 1 := by
  obtain ⟨hclasses, boxes, scores, region, given, hregion, hclass, -⟩ :=
    exists_region_of_mem_perClassObjects h ho
  obtain ⟨k, hk, hgiven, -⟩ := perClassObject?_eq_some hclasses hregion
  omega

lemma classId_lt_of_mem_suppressedObjects (h : d.suppressedObjects outputs = .ok objects)
    {o : DetectedObject} (ho : o ∈ objects) :
    o.classId < d.settings.classes.classThresholds.length := by
  obtain ⟨region, x, threshold, -, -, -, hthreshold, -⟩ :=
    (exists_mem_suppressedObjects_iff h o.classId o.confidence).1 ⟨o, ho, rfl, rfl⟩
  exact (List.getElem?_eq_some_iff.1 hthreshold).1

/-- The network makes objects of the background of class numbers above zero that are not one or
more. -/
lemma forall_one_le_classId_suppressedObjects (h : d.suppressedObjects outputs = .ok objects) :
    (∀ o ∈ objects, 1 ≤ o.classId) ↔
      ∀ region x y threshold, ShowsRegion d.settings outputs region x y → ¬ x ≤ 0.0 →
        d.settings.classes.classThresholds[0]? = some threshold → threshold ≤ y → 1.0 ≤ x := by
  constructor
  · intro hforeground region x y threshold hshows hpositive hthreshold hreaches
    by_contra hnot
    obtain ⟨o, ho, hclass, -⟩ := (exists_mem_suppressedObjects_iff h 0 y).2
      ⟨region, x, threshold, hshows, hpositive, countOf_eq_zero_iff.2 hnot, hthreshold, hreaches⟩
    have hone := hforeground o ho
    omega
  · intro hone o ho
    by_contra hnot
    obtain ⟨region, x, threshold, hshows, hpositive, hcountOf, hthreshold, hreaches⟩ :=
      (exists_mem_suppressedObjects_iff h 0 o.confidence).1 ⟨o, ho, by omega, rfl⟩
    exact countOf_eq_zero_iff.1 hcountOf (hone region x _ threshold hshows hpositive hthreshold
      hreaches)

end Regions

/-- **No object has an unknown class, and none is the background**, unless the network has chosen
the classes itself and shows a region that reaches the threshold of the background with a class
number that is neither at most zero nor at least one. -/
theorem forall_one_le_classId_iff {c : Detection.Settings} {s : Settings}
    (hs : Settings.ofSettings c = .ok s) (hmode : s.mode ≠ .pyramid) {outputs : List Tensor}
    {extent : Extent} {objects : List DetectedObject}
    (h : (Detector.mk s).decode outputs extent = .ok objects) :
    (∀ o ∈ objects, o.classId < s.classes.classCount) ∧
      ((∀ o ∈ objects, 1 ≤ o.classId) ↔ s.mode = .perClass ∨
        ∀ region x y threshold, ShowsRegion s outputs region x y → ¬ x ≤ 0.0 →
          s.classes.classThresholds[0]? = some threshold → threshold ≤ y → 1.0 ≤ x) := by
  have hlength := ClassSettings.length_classThresholds (classes_of_ofSettings hs)
  obtain ⟨-, -, h⟩ := exists_of_bind_eq_ok h
  cases hcase : s.mode with
  | perClass =>
    rw [hcase] at h
    have hclass : ∀ o ∈ objects, 1 ≤ o.classId ∧ o.classId < s.classes.classCount := by
      intro o ho
      have hbounds := classId_of_mem_perClassObjects h ho
      have hscored := scoredClasses_of_ofSettings hs hcase
      dsimp only at hbounds
      omega
    exact ⟨fun o ho => (hclass o ho).2, fun _ => .inl rfl, fun _ o ho => (hclass o ho).1⟩
  | suppressed =>
    rw [hcase] at h
    refine ⟨fun o ho => hlength ▸ classId_lt_of_mem_suppressedObjects h ho, ?_⟩
    rw [forall_one_le_classId_suppressedObjects h, or_iff_right (by decide)]
  | pyramid => exact absurd hcase hmode

/-- Settings of a network that suppresses overlaps itself and knows one class. -/
def oneKnownClass : Detection.Settings :=
  .ofList [("CLASS_NUM", "2"), ("NMS_FINISHED", "true")]

/-- What these settings say. -/
def knowsOneClass : Settings where
  classes := ⟨2, 0.3, [0.3, 0.3], true⟩
  overlapThreshold := 0.45
  mode := .suppressed
  scoredClasses := 2
  countOutput := 0
  boxOutput := 1
  scoreOutput := 2
  suppressedScoreOutput := 1
  suppressedBoxOutput := 2
  suppressedClassOutput := 3

/-- One region with a score of one half and a class number. -/
def regionOfNumber (x : Float32) : List Tensor :=
  [⟨[1], .float #[1.0]⟩, ⟨[1, 1], .float #[0.5]⟩, ⟨[1, 1, 4], .float #[0.25, 0.25, 0.5, 0.5]⟩,
    ⟨[1, 1], .float #[x]⟩]

lemma ofSettings_oneKnownClass : Settings.ofSettings oneKnownClass = .ok knowsOneClass := by
  rfl

lemma decode_regionOfNumber_one :
    (Detector.mk knowsOneClass).decode (regionOfNumber 1.0) ⟨128, 128, 128, 128⟩ =
      .ok [⟨⟨0.25, 0.25, 0.5, 0.5⟩, 0.5, 1⟩] := by
  rfl

theorem forall_one_le_classId_regionOfNumber_one :
    Settings.ofSettings oneKnownClass = .ok knowsOneClass ∧ knowsOneClass.mode ≠ .pyramid ∧
      (Detector.mk knowsOneClass).decode (regionOfNumber 1.0) ⟨128, 128, 128, 128⟩ =
        .ok [⟨⟨0.25, 0.25, 0.5, 0.5⟩, 0.5, 1⟩] ∧
      ∀ region x y threshold, ShowsRegion knowsOneClass (regionOfNumber 1.0) region x y →
        ¬ x ≤ 0.0 → knowsOneClass.classes.classThresholds[0]? = some threshold →
          threshold ≤ y → 1.0 ≤ x := by
  refine ⟨ofSettings_oneKnownClass, by decide, decode_regionOfNumber_one, ?_⟩
  have hiff := (forall_one_le_classId_iff ofSettings_oneKnownClass (by decide)
    decode_regionOfNumber_one).2
  exact (hiff.1 (by simp)).resolve_left (by decide)

/-- The class number one half is not taken for the background, and then counts as class 0. -/
theorem not_one_le_classId_regionOfNumber_half :
    ¬ ∀ (c : Detection.Settings) (s : Settings) (d : Detector) (outputs : List Tensor)
        (extent : Extent) (objects : List DetectedObject),
      Settings.ofSettings c = .ok s → s.mode ≠ .pyramid →
        Detector.build s (outputs.map (·.shape)) = .ok d →
          d.decode outputs extent = .ok objects →
            ∀ o ∈ objects, 1 ≤ o.classId ∧ o.classId < s.classes.classCount := by
  intro hall
  have hbounds := hall oneKnownClass knowsOneClass ⟨knowsOneClass⟩ (regionOfNumber 0.5)
    ⟨128, 128, 128, 128⟩ [⟨⟨0.25, 0.25, 0.5, 0.5⟩, 0.5, 0⟩] ofSettings_oneKnownClass (by decide)
    rfl rfl _ (List.mem_singleton.2 rfl)
  exact absurd hbounds.1 (by decide)

end FasterRcnn
end Detection
