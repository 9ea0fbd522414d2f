/-
# The common threshold beside those of the classes

Settings can give each class a threshold of its own, but that does not take the common threshold
out of force: the best class of a candidate is looked for above the common threshold, and has to
exceed its own one after that.  So detectors that differ in the common threshold only show the
same of those objects that exceed both, and show the same altogether if no class has a threshold
below either.

## Main definitions

* `Detector.withScoreThreshold`: a detector with another common threshold.
* `Detector.above`: the objects that exceed the common threshold of a detector.
* `AgreesAbove`: two detectors show the same above the common thresholds of both.

The main result is `agree_built_of_get?_eq`.
-/
import Detection.Proofs.Box.Filtering
import Detection.Proofs.Yolo.Candidates
import Detection.Proofs.Yolo.Layouts

namespace Detection
namespace Yolo

def Settings.withScoreThreshold (s : Settings) (bound : Float32) : Settings :=
  { s with classes := { s.classes with scoreThreshold := bound } }

/-- The detector with another common threshold. -/
def Detector.withScoreThreshold (d : Detector) (bound : Float32) : Detector :=
  { d with settings := d.settings.withScoreThreshold bound }

/-- There are as many thresholds as classes. -/
def Detector.HasThresholds (d : Detector) : Prop :=
  d.settings.classes.classThresholds.length = d.settings.classes.classCount

/-- The objects whose confidence exceeds the common threshold. -/
def Detector.above (d : Detector) (objects : List DetectedObject) : List DetectedObject :=
  objects.filter fun o => d.settings.classes.scoreThreshold < o.confidence

lemma Detector.above_flatMap {α : Type} (d : Detector) (list : List α)
    (f : α → List DetectedObject) :
    d.above (list.flatMap f) = list.flatMap fun a => d.above (f a) :=
  List.filter_flatMap

/-! ## The best class -/

section Best

variable {d : Detector} {bound : Float32} {probabilities : List Float32} {best : ℕ × Float32}

lemma bestClass?_eq_some_iff :
    d.bestClass? probabilities = some best ↔
      bestAbove d.settings.classes.scoreThreshold probabilities = (some best.1, best.2) ∧
        ¬ best.2 ≤ d.settings.classes.thresholdOf best.1 := by
  obtain ⟨classId, probability⟩ := best
  unfold Detector.bestClass?
  dsimp only
  rcases bestAbove d.settings.classes.scoreThreshold probabilities with ⟨_ | k, p⟩
  · simp
  · dsimp only
    by_cases hle : p ≤ d.settings.classes.thresholdOf k
    · rw [if_pos hle]
      simp only [reduceCtorEq, Prod.mk.injEq, Option.some.injEq, false_iff, not_and, not_not]
      rintro ⟨rfl, rfl⟩
      exact hle
    · rw [if_neg hle]
      simp only [Prod.mk.injEq, Option.some.injEq, iff_self_and]
      rintro ⟨rfl, rfl⟩
      exact hle

/-- A class with a threshold of its own does not get the common one. -/
lemma thresholdOf_withScoreThreshold {classId : ℕ}
    (h : classId < d.settings.classes.classThresholds.length) :
    (d.withScoreThreshold bound).settings.classes.thresholdOf classId =
      d.settings.classes.thresholdOf classId := by
  have hget := List.getElem?_eq_getElem h
  unfold ClassSettings.thresholdOf
  change d.settings.classes.classThresholds[classId]?.getD bound = _
  rw [hget]
  rfl

/-- The best class stays the best above any bound that it exceeds. -/
lemma bestClass?_withScoreThreshold (hthresholds : d.HasThresholds)
    (hlength : probabilities.length = d.settings.classes.classCount)
    (h : d.bestClass? probabilities = some best) (hlt : bound < best.2) :
    (d.withScoreThreshold bound).bestClass? probabilities = some best := by
  obtain ⟨hbest, hclass⟩ := bestClass?_eq_some_iff.1 h
  have hknown : best.1 < d.settings.classes.classThresholds.length := by
    rw [hthresholds, ← hlength]
    exact (lt_of_bestAbove_eq_some hbest).1
  refine bestClass?_eq_some_iff.2 ⟨bestAbove_eq_some_of_lt hbest hlt, ?_⟩
  rwa [thresholdOf_withScoreThreshold hknown]

end Best

/-! ## Objects -/

section Objects

variable [Elementary] {d : Detector} {bound : Float32} {extent : Extent} {data : LayerData}
  {cell anchor : ℕ} {o : DetectedObject}

/-- An object exceeds the common threshold and that of its class. -/
lemma exceeds_of_objectAt?_eq_some (hthresholds : d.HasThresholds)
    (h : d.objectAt? extent data cell anchor = some o) :
    d.settings.classes.scoreThreshold < o.confidence ∧
      ∃ threshold ∈ d.settings.classes.classThresholds, ¬ o.confidence ≤ threshold := by
  obtain ⟨objectness, -, h⟩ := Option.bind_eq_some_iff.1 h
  obtain ⟨best, hbest, rfl⟩ := Option.map_eq_some_iff.1 h
  obtain ⟨habove, hclass⟩ := bestClass?_eq_some_iff.1 hbest
  obtain ⟨hknown, hlt⟩ := lt_of_bestAbove_eq_some habove
  have hknown' : best.1 < d.settings.classes.classThresholds.length := by
    rw [hthresholds]
    simpa [Detector.probabilities] using hknown
  refine ⟨hlt, d.settings.classes.classThresholds[best.1], List.getElem_mem hknown', ?_⟩
  unfold ClassSettings.thresholdOf at hclass
  rw [List.getElem?_eq_getElem hknown'] at hclass
  exact hclass

lemma objectAt?_withScoreThreshold (hthresholds : d.HasThresholds)
    (h : d.objectAt? extent data cell anchor = some o) (hlt : bound < o.confidence) :
    (d.withScoreThreshold bound).objectAt? extent data cell anchor = some o := by
  obtain ⟨objectness, hobjectness, h⟩ := Option.bind_eq_some_iff.1 h
  obtain ⟨best, hbest, rfl⟩ := Option.map_eq_some_iff.1 h
  have hbest' := bestClass?_withScoreThreshold hthresholds (by simp [Detector.probabilities])
    hbest hlt
  exact Option.bind_eq_some_iff.2 ⟨objectness, hobjectness,
    Option.map_eq_some_iff.2 ⟨best, hbest', rfl⟩⟩

/-- What exceeds both thresholds is found by both detectors. -/
lemma objectAt?_iff (hthresholds : d.HasThresholds) :
    d.objectAt? extent data cell anchor = some o ∧ bound < o.confidence ↔
      (d.withScoreThreshold bound).objectAt? extent data cell anchor = some o ∧
        d.settings.classes.scoreThreshold < o.confidence := by
  constructor
  · rintro ⟨h, hlt⟩
    exact ⟨objectAt?_withScoreThreshold hthresholds h hlt,
      (exceeds_of_objectAt?_eq_some hthresholds h).1⟩
  · rintro ⟨h, hlt⟩
    have hthresholds' : (d.withScoreThreshold bound).HasThresholds := hthresholds
    have h' : ((d.withScoreThreshold bound).withScoreThreshold
        d.settings.classes.scoreThreshold).objectAt? extent data cell anchor = some o :=
      objectAt?_withScoreThreshold hthresholds' h hlt
    exact ⟨h', (exceeds_of_objectAt?_eq_some hthresholds' h).1⟩

lemma above_objectsOf (hthresholds : d.HasThresholds) (bound : Float32) (extent : Extent)
    (data : LayerData) :
    (d.withScoreThreshold bound).above (d.objectsOf extent data) =
      d.above ((d.withScoreThreshold bound).objectsOf extent data) := by
  unfold Detector.above Detector.objectsOf
  rw [List.filter_filterMap, List.filter_filterMap]
  refine List.filterMap_congr fun place _ => Option.ext fun o => ?_
  simp only [Option.filter_eq_some_iff, decide_eq_true_eq]
  exact objectAt?_iff hthresholds

/-- If no class has a threshold below a bound, all objects exceed the bound. -/
lemma lt_confidence_of_forall_le (hthresholds : d.HasThresholds)
    (hle : ∀ threshold ∈ d.settings.classes.classThresholds, bound ≤ threshold)
    (h : d.objectAt? extent data cell anchor = some o) : bound < o.confidence := by
  obtain ⟨hlt, threshold, hmem, hnot⟩ := exceeds_of_objectAt?_eq_some hthresholds h
  have hthere := (Float32.lt_iff.1 hlt).2.1
  have hthere' := (Float32.le_iff.1 (hle threshold hmem)).2.1
  have hclass : threshold < o.confidence := by
    by_contra hnot'
    exact hnot ((Float32.not_lt hthere' hthere).1 hnot')
  exact Float32.lt_of_le_of_lt (hle threshold hmem) hclass

lemma objectsOf_withScoreThreshold (hthresholds : d.HasThresholds)
    (hle : ∀ threshold ∈ d.settings.classes.classThresholds,
      d.settings.classes.scoreThreshold ≤ threshold ∧ bound ≤ threshold)
    (extent : Extent) : (d.withScoreThreshold bound).objectsOf extent = d.objectsOf extent := by
  have hthresholds' : (d.withScoreThreshold bound).HasThresholds := hthresholds
  funext data
  refine List.filterMap_congr fun place _ => Option.ext fun o => ?_
  constructor
  · intro h
    have hlt := lt_confidence_of_forall_le hthresholds' (fun t ht => (hle t ht).1) h
    exact (objectAt?_iff hthresholds).2 ⟨h, hlt⟩ |>.1
  · intro h
    have hlt := lt_confidence_of_forall_le hthresholds (fun t ht => (hle t ht).2) h
    exact (objectAt?_iff hthresholds).1 ⟨h, hlt⟩ |>.1

end Objects

/-! ## Frames -/

section Frames

variable [Elementary] {d : Detector} {bound : Float32} {outputs : List Tensor} {extent : Extent}
  {objects : List DetectedObject}

/-- Two detectors show the same, apart from objects that do not exceed the common threshold of
the other one; and they show the same altogether, or fail alike, if no class has a threshold
below one of the common ones. -/
structure AgreesAbove (d d' : Detector) (outputs : List Tensor) (extent : Extent) : Prop where
  candidates : (d.candidates outputs extent).map d'.above =
    (d'.candidates outputs extent).map d.above
  decode : ∀ found found', d.decode outputs extent = .ok found →
    d'.decode outputs extent = .ok found' → d'.above found = d.above found'
  decode_eq : (∀ threshold ∈ d.settings.classes.classThresholds,
      d.settings.classes.scoreThreshold ≤ threshold ∧
        d'.settings.classes.scoreThreshold ≤ threshold) →
    d.decode outputs extent = d'.decode outputs extent

omit [Elementary] in
lemma checkShapes_withScoreThreshold (s : Settings) (shapes : List (List ℕ)) :
    (s.withScoreThreshold bound).checkShapes shapes = s.checkShapes shapes := by
  have heach : ∀ expected, (s.withScoreThreshold bound).checkEachShape expected shapes =
      s.checkEachShape expected shapes := by
    intro expected
    induction shapes with
    | nil => rfl
    | cons shape rest ih =>
      have hshape : (s.withScoreThreshold bound).checkShape expected shape =
          s.checkShape expected shape := rfl
      unfold Settings.checkEachShape
      rw [hshape, ih]
  have hexpected : (s.withScoreThreshold bound).cellChannels = s.cellChannels := rfl
  unfold Settings.checkShapes
  rw [hexpected]
  simp only [heach]
  rfl

/-- The common threshold has no say about the layers. -/
lemma layers_withScoreThreshold (outputs : List Tensor) (extent : Extent) :
    (d.withScoreThreshold bound).layers outputs extent = d.layers outputs extent := by
  have hshapes : ∀ shapes, (d.withScoreThreshold bound).settings.checkShapes shapes =
      d.settings.checkShapes shapes := checkShapes_withScoreThreshold d.settings
  have hdata : ∀ modelWidth, (d.withScoreThreshold bound).layerData modelWidth =
      d.layerData modelWidth := fun _ => rfl
  unfold Detector.layers
  rw [hshapes, hdata]

lemma isNaN_of_mem_candidates (hthresholds : d.HasThresholds)
    (h : d.candidates outputs extent = .ok objects) {o : DetectedObject} (ho : o ∈ objects) :
    o.confidence.isNaN = false := by
  rw [candidates_eq_map_layers] at h
  cases hlayers : d.layers outputs extent with
  | error fault =>
    rw [hlayers] at h
    cases h
  | ok layers =>
    rw [hlayers] at h
    cases h
    obtain ⟨data, -, hdata⟩ := List.mem_flatMap.1 ho
    obtain ⟨place, -, hplace⟩ := List.mem_filterMap.1 hdata
    exact (Float32.lt_iff.1 (exceeds_of_objectAt?_eq_some hthresholds hplace).1).2.1

lemma map_above_candidates (hthresholds : d.HasThresholds) (bound : Float32)
    (outputs : List Tensor) (extent : Extent) :
    (d.candidates outputs extent).map (d.withScoreThreshold bound).above =
      ((d.withScoreThreshold bound).candidates outputs extent).map d.above := by
  rw [candidates_eq_map_layers, candidates_eq_map_layers, layers_withScoreThreshold]
  cases d.layers outputs extent with
  | error fault =>
    show Except.error fault = Except.error fault
    rfl
  | ok layers =>
    have hlayers : (d.withScoreThreshold bound).above (layers.flatMap (d.objectsOf extent)) =
        d.above (layers.flatMap ((d.withScoreThreshold bound).objectsOf extent)) := by
      rw [Detector.above_flatMap, Detector.above_flatMap]
      exact List.flatMap_congr fun data _ => above_objectsOf hthresholds bound extent data
    exact congrArg Except.ok hlayers

/-- What is found of the objects above a mark is what is found of all, above the mark. -/
lemma suppress_above {found : List DetectedObject} (hthresholds : d.HasThresholds)
    (hobjects : d.candidates outputs extent = .ok objects)
    (hfound : d.decode outputs extent = .ok found) (d' : Detector) :
    DetectedObject.suppress d.variant.measure d.settings.overlapThreshold (d'.above objects) =
      .ok (d'.above found) := by
  unfold Detector.decode at hfound
  rw [hobjects, ok_bind] at hfound
  exact DetectedObject.suppress_filter
    (fun o ho => isNaN_of_mem_candidates hthresholds hobjects ho) hfound

theorem agreesAbove_withScoreThreshold (hthresholds : d.HasThresholds) (bound : Float32)
    (outputs : List Tensor) (extent : Extent) :
    AgreesAbove d (d.withScoreThreshold bound) outputs extent where
  candidates := map_above_candidates hthresholds bound outputs extent
  decode := by
    intro found found' hfound hfound'
    have hthresholds' : (d.withScoreThreshold bound).HasThresholds := hthresholds
    obtain ⟨objects, hobjects, -⟩ := exists_of_bind_eq_ok hfound
    obtain ⟨objects', hobjects', -⟩ := exists_of_bind_eq_ok hfound'
    have hsame := map_above_candidates hthresholds bound outputs extent
    rw [hobjects, hobjects'] at hsame
    have habove := Except.ok.inj hsame
    have hsuppressed := suppress_above hthresholds hobjects hfound (d.withScoreThreshold bound)
    have hsuppressed' := suppress_above hthresholds' hobjects' hfound' d
    rw [habove] at hsuppressed
    exact Except.ok.inj (hsuppressed.symm.trans hsuppressed')
  decode_eq := by
    intro hle
    have hobjects : (d.withScoreThreshold bound).objectsOf extent = d.objectsOf extent :=
      objectsOf_withScoreThreshold hthresholds hle extent
    have hcandidates : (d.withScoreThreshold bound).candidates outputs extent =
        d.candidates outputs extent := by
      rw [candidates_eq_map_layers, candidates_eq_map_layers, layers_withScoreThreshold]
      rw [hobjects]
    unfold Detector.decode
    rw [hcandidates]
    rfl

end Frames

/-! ## Settings -/

/-- The common threshold that settings tell, or the usual one. -/
def commonThreshold (c : Detection.Settings) : Float32 :=
  c.readOr "SCORE_THRESH" (0.3 : Float32) 0.0 1.0

/-- The detector that settings describe, if there is one: it may be told the shapes of the outputs
beforehand. -/
def built [Build] (c : Detection.Settings) (shapes : List (List ℕ)) : Except Fault Detector := do
  let s ← Settings.ofSettings c
  Detector.build s shapes

section Settings

variable {c c' : Detection.Settings}

/-- Where each class has a threshold of its own, nothing but the common threshold depends on what
settings tell about it. -/
lemma classes_of_get?_eq (hsame : ∀ key, key ≠ "SCORE_THRESH" → c.get? key = c'.get? key)
    (hseparate : (c.get? "SEPARATE_SCORE_THRESH").isSome) :
    ClassSettings.ofSettings c' = (ClassSettings.ofSettings c).map fun classes =>
      { classes with scoreThreshold := commonThreshold c' } := by
  have hthresholds : ∀ classCount, ClassSettings.readThresholds c classCount
        (c.readOr "SCORE_THRESH" (0.3 : Float32) 0.0 1.0) =
      ClassSettings.readThresholds c' classCount (commonThreshold c') := fun classCount =>
    ClassSettings.readThresholds_congr (hsame _ (by decide)) hseparate classCount _ _
  unfold ClassSettings.ofSettings
  rw [Settings.readOr_congr (hsame "CLASS_NUM" (by decide)),
    Settings.readBoolOr_congr (hsame "CHECK_MODEL" (by decide))]
  dsimp only
  rw [hthresholds]
  unfold commonThreshold
  cases ClassSettings.readThresholds c' (c'.readOr "CLASS_NUM" (80 : UInt64) 0 1000).toNat
      (c'.readOr "SCORE_THRESH" (0.3 : Float32) 0.0 1.0) with
  | error fault => rfl
  | ok thresholds => rfl

lemma ofSettings_of_get?_eq (hsame : ∀ key, key ≠ "SCORE_THRESH" → c.get? key = c'.get? key)
    (hseparate : (c.get? "SEPARATE_SCORE_THRESH").isSome) :
    Settings.ofSettings c' =
      (Settings.ofSettings c).map (·.withScoreThreshold (commonThreshold c')) := by
  have hlayout : ∀ version, Settings.readLayout c version = Settings.readLayout c' version := by
    intro version
    unfold Settings.readLayout
    rw [Settings.readWithin?_congr (hsame "MODEL_TYPE" (by decide))]
  have hsizes : ∀ count, Settings.readAnchorSizes c count = Settings.readAnchorSizes c' count := by
    intro count
    unfold Settings.readAnchorSizes
    rw [hsame "BIASES" (by decide)]
  unfold Settings.ofSettings
  rw [classes_of_get?_eq hsame hseparate,
    Settings.readOr_congr (hsame "BIASES_NUM" (by decide)),
    Settings.readOr_congr (hsame "YOLO_VERSION" (by decide)),
    Settings.readOr_congr (hsame "OBJECTNESS_THRESH" (by decide)),
    Settings.readOr_congr (hsame "IOU_THRESH" (by decide)),
    Settings.readOr_congr (hsame "ANCHOR_DIM" (by decide)),
    Settings.readOr_congr (hsame "YOLO_TYPE" (by decide)), hsame "FRAMEWORK" (by decide)]
  simp only [hlayout, hsizes]
  cases ClassSettings.ofSettings c with
  | error fault => rfl
  | ok classes =>
    cases Settings.readLayout c' (c'.readOr "YOLO_VERSION" (3 : UInt32) 0 16).toNat with
    | error fault => rfl
    | ok layout =>
      cases Settings.readAnchorSizes c' (c'.readOr "BIASES_NUM" (18 : UInt64) 0 100).toNat with
      | error fault => rfl
      | ok sizes => rfl

lemma build_withScoreThreshold (s : Settings) (bound : Float32) (shapes : List (List ℕ)) :
    Detector.build (s.withScoreThreshold bound) shapes =
      (Detector.build s shapes).map (·.withScoreThreshold bound) := by
  cases hvariant : Variant.select? s.version s.framework s.layout with
  | none =>
    have hvariant' : Variant.select? (s.withScoreThreshold bound).version
        (s.withScoreThreshold bound).framework (s.withScoreThreshold bound).layout = none :=
      hvariant
    unfold Detector.build
    rw [hvariant, hvariant']
    rfl
  | some v =>
    have hvariant' : Variant.select? (s.withScoreThreshold bound).version
        (s.withScoreThreshold bound).framework (s.withScoreThreshold bound).layout = some v :=
      hvariant
    rw [build_eq hvariant, build_eq hvariant', checkShapes_withScoreThreshold]
    change (if maxAnchors < s.anchorsPerCell then _ else
      if !shapes.isEmpty && s.classes.checksModel then _ else _) = _
    split
    · rfl
    · split
      · cases s.checkShapes shapes with
        | error fault => rfl
        | ok => rfl
      · rfl

/-- A detector that is built keeps its settings, and they name few enough anchors. -/
lemma settings_and_anchors_of_build_eq_ok [Build] {s : Settings} {shapes : List (List ℕ)}
    {d : Detector} (h : Detector.build s shapes = .ok d) :
    d.settings = s ∧ s.anchorsPerCell ≤ maxAnchors := by
  cases hvariant : Variant.select? s.version s.framework s.layout with
  | none =>
    unfold Detector.build at h
    rw [hvariant] at h
    cases h
  | some v =>
    rw [build_eq hvariant] at h
    split at h
    · cases h
    · rename_i hanchors
      refine ⟨?_, not_lt.1 hanchors⟩
      split at h
      · obtain ⟨-, -, h⟩ := exists_of_bind_eq_ok h
        cases h
        rfl
      · cases h
        rfl

lemma settings_of_build_eq_ok {s : Settings} {shapes : List (List ℕ)} {d : Detector}
    (h : Detector.build s shapes = .ok d) : d.settings = s :=
  (settings_and_anchors_of_build_eq_ok h).1

/-- With a threshold for each class, settings that tell another common threshold describe the
same detector with that threshold, or are refused alike. -/
lemma built_of_get?_eq (hsame : ∀ key, key ≠ "SCORE_THRESH" → c.get? key = c'.get? key)
    (hseparate : (c.get? "SEPARATE_SCORE_THRESH").isSome) (shapes : List (List ℕ)) :
    built c' shapes = (built c shapes).map (·.withScoreThreshold (commonThreshold c')) := by
  unfold built
  rw [ofSettings_of_get?_eq hsame hseparate]
  cases Settings.ofSettings c with
  | error fault => rfl
  | ok s => exact build_withScoreThreshold s (commonThreshold c') shapes

lemma hasThresholds_of_built_eq_ok {shapes : List (List ℕ)} {d : Detector}
    (h : built c shapes = .ok d) : d.HasThresholds := by
  obtain ⟨s, hs, h⟩ := exists_of_bind_eq_ok h
  obtain ⟨classes, hclasses, hs⟩ := exists_of_bind_eq_ok hs
  obtain ⟨layout, -, hs⟩ := exists_of_bind_eq_ok hs
  obtain ⟨sizes, -, hs⟩ := exists_of_bind_eq_ok hs
  have hlength := ClassSettings.length_classThresholds hclasses
  unfold Detector.HasThresholds
  rw [settings_of_build_eq_ok h]
  cases hs
  exact hlength

/-- **Thresholds for each class do not take the common one out of force.**  Settings that give
each class a threshold and differ in the common one only are refused alike, or describe detectors
that agree above both common thresholds. -/
theorem agree_built_of_get?_eq [Elementary]
    (hsame : ∀ key, key ≠ "SCORE_THRESH" → c.get? key = c'.get? key)
    (hseparate : (c.get? "SEPARATE_SCORE_THRESH").isSome) (shapes : List (List ℕ)) :
    Agree (fun d d' => ∀ outputs extent, AgreesAbove d d' outputs extent)
      (built c shapes) (built c' shapes) := by
  rw [built_of_get?_eq hsame hseparate]
  cases hbuilt : built c shapes with
  | error fault => exact Agree.error fault
  | ok d =>
    have hthresholds := hasThresholds_of_built_eq_ok hbuilt
    exact Agree.ok fun outputs extent =>
      agreesAbove_withScoreThreshold hthresholds (commonThreshold c') outputs extent

end Settings

/-- Settings of one class that has a threshold of its own, and a common threshold beside it. -/
def besideCommon (text : String) : Detection.Settings :=
  Table.insert (.ofList [("ANCHOR_DIM", "1"), ("BIASES", "10,13"), ("BIASES_NUM", "2"),
    ("CLASS_NUM", "1"), ("SEPARATE_SCORE_THRESH", "0.25"), ("YOLO_TYPE", "1"),
    ("YOLO_VERSION", "4")]) "SCORE_THRESH" text

lemma get?_besideCommon (text text' : String) (key : String) (hkey : key ≠ "SCORE_THRESH") :
    (besideCommon text).get? key = (besideCommon text').get? key := by
  simp [besideCommon, Table.get?_insert, hkey]

/-- One cell with an object that is surely there and whose class has the probability 0.375. -/
def oneCell : Tensor :=
  ⟨[1, 1, 1, 6], .float #[0.5, 0.5, 0.5, 0.5, 1.0, 0.375]⟩

/-- The detector of those settings. -/
def besideCommonDetector (bound : Float32) : Detector where
  settings :=
    { classes := ⟨1, bound, [0.25], true⟩
      objectnessThreshold := 0.3
      overlapThreshold := 0.45
      anchorsPerCell := 1
      anchorSizes := [10.0, 13.0]
      layerCount := 1
      version := 4
      layout := .channelsLast
      framework := .mindspore }
  variant := .activated

lemma built_besideCommon :
    built (besideCommon "0.25") [oneCell.shape] = .ok (besideCommonDetector 0.25) ∧
      built (besideCommon "0.5") [oneCell.shape] = .ok (besideCommonDetector 0.5) := by
  decide

theorem agree_built_besideCommon :
    (∀ key, key ≠ "SCORE_THRESH" →
        (besideCommon "0.25").get? key = (besideCommon "0.5").get? key) ∧
      ((besideCommon "0.25").get? "SEPARATE_SCORE_THRESH").isSome ∧
      built (besideCommon "0.25") [oneCell.shape] = .ok (besideCommonDetector 0.25) ∧
      Agree (fun d d' => ∀ outputs extent, @AgreesAbove coarseElementary d d' outputs extent)
        (built (besideCommon "0.25") [oneCell.shape])
        (built (besideCommon "0.5") [oneCell.shape]) := by
  have hsame := get?_besideCommon "0.25" "0.5"
  have hseparate : ((besideCommon "0.25").get? "SEPARATE_SCORE_THRESH").isSome := rfl
  exact ⟨hsame, hseparate, built_besideCommon.1,
    @agree_built_of_get?_eq _ _ coarseElementary hsame hseparate [oneCell.shape]⟩

/-- The object exceeds the threshold of its class and one of the common thresholds, but not the
other. -/
theorem not_decode_eq_besideCommon :
    ¬ ∀ [Elementary] (c c' : Detection.Settings) (shapes : List (List ℕ)) (d d' : Detector)
        (outputs : List Tensor) (extent : Extent),
      (∀ key, key ≠ "SCORE_THRESH" → c.get? key = c'.get? key) →
        (c.get? "SEPARATE_SCORE_THRESH").isSome →
          built c shapes = .ok d → built c' shapes = .ok d' →
            (∀ threshold ∈ d.settings.classes.classThresholds, threshold.isNaN = false) →
              d.decode outputs extent = d'.decode outputs extent := by
  intro hall
  have hequal := @hall coarseElementary (besideCommon "0.25") (besideCommon "0.5")
    [oneCell.shape] _ _ [oneCell] ⟨32, 32, 32, 32⟩ (get?_besideCommon "0.25" "0.5")
    rfl built_besideCommon.1 built_besideCommon.2 (by decide)
  have hshown : @Detector.decode coarseElementary _ (besideCommonDetector 0.25) [oneCell]
      ⟨32, 32, 32, 32⟩ = .ok [⟨⟨0.25, 0.25, 0.75, 0.75⟩, 0.375, 0⟩] := by
    decide +kernel
  have hhidden : @Detector.decode coarseElementary _ (besideCommonDetector 0.5) [oneCell]
      ⟨32, 32, 32, 32⟩ = .ok [] := rfl
  rw [hshown, hhidden] at hequal
  exact absurd hequal (by simp)

end Yolo
end Detection
