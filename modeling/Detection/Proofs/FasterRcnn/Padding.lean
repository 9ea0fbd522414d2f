/-
# What stands behind the last region

The outputs of a network have a fixed size, whatever is in the picture.  The regions are their
first rows; how many there are is told by an output of its own or, for a feature pyramid, by the
first extent of the rectangles.  Behind the last region an output may hold anything.  None of it
has an influence on the objects, nor on whether and how decoding fails: neither on the check of
the places of the objects, nor on their suppression.

## Main definitions

* `SameUpTo`: two buffers agree in the elements before an index, and have them.
* `Settings.regionCount`: the number of regions that outputs tell.
* `Settings.regionOutputs`: the outputs that are read region by region.
* `Settings.SameRegions`: two lists of outputs agree in all regions.

The main result is `decode_eq_of_sameRegions`.
-/
import Detection.Proofs.FasterRcnn.Thresholds

namespace Detection

/-! ## Buffers with the same first elements -/

/-- Two buffers have the elements before an index, and these are the same. -/
structure SameUpTo {α : Type} (n : ℕ) (values values' : Array α) : Prop where
  le_size : n ≤ values.size
  le_size' : n ≤ values'.size
  getElem?_eq : ∀ index < n, values[index]? = values'[index]?

/-- Two tensors have elements of one kind, and their buffers the same ones before an index. -/
inductive TensorData.SameUpTo (n : ℕ) : TensorData → TensorData → Prop where
  /-- Both hold numbers. -/
  | float {values values' : Array Float32} (h : Detection.SameUpTo n values values') :
      SameUpTo n (.float values) (.float values')
  /-- Both hold integers. -/
  | integer {values values' : Array Int64} (h : Detection.SameUpTo n values values') :
      SameUpTo n (.integer values) (.integer values')

section Buffers

variable {n index : ℕ} {output output' : Tensor}

lemma SameUpTo.element_eq {α : Type} {values values' : Array α} (h : SameUpTo n values values')
    (hindex : index < n) : element values index = element values' index := by
  unfold element
  rw [h.getElem?_eq index hindex, Array.getElem?_eq_getElem (hindex.trans_le h.le_size')]

lemma Tensor.floatsCovering_of_integer {values : Array Int64} (h : output.data = .integer values) :
    output.floatsCovering index = .error (.tensor .notFloat) := by
  unfold floatsCovering floats
  rw [h]
  rfl

lemma Tensor.integersCovering_of_float {values : Array Float32} (h : output.data = .float values) :
    output.integersCovering index = .error (.tensor .notInteger) := by
  unfold integersCovering integers
  rw [h]
  rfl

namespace TensorData.SameUpTo

lemma agree_floatsCovering (h : output.data.SameUpTo n output'.data) (hindex : index < n) :
    Agree (Detection.SameUpTo n) (output.floatsCovering index) (output'.floatsCovering index) := by
  generalize hdata : output.data = data, hdata' : output'.data = data' at h
  cases h with
  | float h =>
    rw [Tensor.floatsCovering_eq_ok_iff.2 ⟨hdata, hindex.trans_le h.le_size⟩,
      Tensor.floatsCovering_eq_ok_iff.2 ⟨hdata', hindex.trans_le h.le_size'⟩]
    exact Agree.ok h
  | integer h =>
    rw [Tensor.floatsCovering_of_integer hdata, Tensor.floatsCovering_of_integer hdata']
    exact Agree.error _

lemma agree_integersCovering (h : output.data.SameUpTo n output'.data) (hindex : index < n) :
    Agree (Detection.SameUpTo n) (output.integersCovering index)
      (output'.integersCovering index) := by
  generalize hdata : output.data = data, hdata' : output'.data = data' at h
  cases h with
  | float h =>
    rw [Tensor.integersCovering_of_float hdata, Tensor.integersCovering_of_float hdata']
    exact Agree.error _
  | integer h =>
    rw [Tensor.integersCovering_eq_ok_iff.2 ⟨hdata, hindex.trans_le h.le_size⟩,
      Tensor.integersCovering_eq_ok_iff.2 ⟨hdata', hindex.trans_le h.le_size'⟩]
    exact Agree.ok h

end TensorData.SameUpTo

/-- Of two lists that are equally long, an index finds a tensor in both or in neither. -/
lemma agree_tensorAt {tensors tensors' : List Tensor} (h : tensors.length = tensors'.length)
    (index : ℕ) :
    Agree (fun t t' => tensors[index]? = some t ∧ tensors'[index]? = some t')
      (tensorAt tensors index) (tensorAt tensors' index) := by
  unfold tensorAt
  by_cases hindex : index < tensors.length
  · rw [List.getElem?_eq_getElem hindex, List.getElem?_eq_getElem (h ▸ hindex)]
    exact Agree.ok ⟨rfl, rfl⟩
  · rw [List.getElem?_eq_none (not_lt.1 hindex), List.getElem?_eq_none (h ▸ not_lt.1 hindex), h]
    exact Agree.error _

end Buffers

namespace FasterRcnn

/-! ## Outputs with the same regions -/

namespace Settings

/-- How many regions outputs tell: the number is an output of its own, or the first extent of the
rectangles of a feature pyramid. -/
def regionCount (s : Settings) (outputs : List Tensor) : Except Fault ℕ := do
  let output ← tensorAt outputs s.countOutput
  match s.mode with
  | .perClass | .suppressed => detectionCount output
  | .pyramid => return output.shape.head?.getD 0

lemma regionCount_of_ne_pyramid {s : Settings} (h : s.mode ≠ .pyramid) (outputs : List Tensor) :
    s.regionCount outputs = tensorAt outputs s.countOutput >>= detectionCount := by
  unfold regionCount
  cases hmode : s.mode with
  | perClass => rfl
  | suppressed => rfl
  | pyramid => exact absurd hmode h

/-- The outputs that are read region by region, with the number of elements of a region. -/
def regionOutputs (s : Settings) : List (ℕ × ℕ) :=
  match s.mode with
  | .perClass => [(s.boxOutput, s.scoredClasses * boxWidth), (s.scoreOutput, s.scoredClasses)]
  | .suppressed =>
    [(s.suppressedBoxOutput, boxWidth), (s.suppressedScoreOutput, 1),
      (s.suppressedClassOutput, 1)]
  | .pyramid => [(s.countOutput, pyramidBoxWidth), (s.boxOutput, 1)]

/-- Two lists of outputs tell the same number of regions, and agree in the elements of these
regions. -/
structure SameRegions (s : Settings) (outputs outputs' : List Tensor) : Prop where
  length_eq : outputs.length = outputs'.length
  regionCount_eq : s.regionCount outputs = s.regionCount outputs'
  sameUpTo : ∀ count, s.regionCount outputs = .ok count →
    ∀ index width, (index, width) ∈ s.regionOutputs →
      ∀ output output', outputs[index]? = some output → outputs'[index]? = some output' →
        output.data.SameUpTo (count * width) output'.data

end Settings

/-! ## The object of a region -/

section Region

variable {d : Detector} {extent : Extent} {count region : ℕ}
  {boxes boxes' scores scores' : Array Float32}

lemma cornersAt_eq {n base : ℕ} (h : SameUpTo n boxes boxes') (hbase : base + 3 < n) :
    cornersAt boxes base = cornersAt boxes' base := by
  unfold cornersAt
  rw [h.element_eq (by omega), h.element_eq (by omega), h.element_eq (by omega),
    h.element_eq hbase]

lemma perClassObject?_eq (hclasses : 0 < d.settings.scoredClasses)
    (hboxes : SameUpTo (count * (d.settings.scoredClasses * boxWidth)) boxes boxes')
    (hscores : SameUpTo (count * d.settings.scoredClasses) scores scores')
    (hregion : region < count) :
    d.perClassObject? extent boxes scores region =
      d.perClassObject? extent boxes' scores' region := by
  have hnext : region * d.settings.scoredClasses + d.settings.scoredClasses ≤
      count * d.settings.scoredClasses := by
    rw [← Nat.succ_mul]
    exact Nat.mul_le_mul_right _ hregion
  have hread : ((List.range d.settings.scoredClasses).mapM fun c =>
      element scores (region * d.settings.scoredClasses + c)) =
        (List.range d.settings.scoredClasses).mapM fun c =>
          element scores' (region * d.settings.scoredClasses + c) := by
    refine mapM_congr fun c hc => hscores.element_eq ?_
    have hlt := List.mem_range.1 hc
    omega
  unfold Detector.perClassObject?
  dsimp only
  rw [hread]
  refine ((Agree.refl _).and_eq_ok.bind ?_).eq
  rintro regionScores _ ⟨hregionScores, rfl⟩
  -- The rectangle of the best class ends where the region ends, at the latest.
  have hlength : regionScores.length = d.settings.scoredClasses := by
    rw [length_of_mapM_eq_ok hregionScores, List.length_range]
  have hbest := (bestAbove_zero regionScores (List.ne_nil_of_length_pos (hlength ▸ hclasses))).1
  rw [hlength] at hbest
  rw [cornersAt_eq hboxes]
  · exact Agree.refl _
  · simp only [boxWidth, ← Nat.mul_assoc]
    omega

lemma suppressedObject?_eq {classIds classIds' : Array Float32}
    (hboxes : SameUpTo (count * boxWidth) boxes boxes')
    (hscores : SameUpTo (count * 1) scores scores')
    (hclassIds : SameUpTo (count * 1) classIds classIds') (hregion : region < count) :
    d.suppressedObject? boxes scores classIds region =
      d.suppressedObject? boxes' scores' classIds' region := by
  have hbase : region * boxWidth + 3 < count * boxWidth := by
    simp only [boxWidth]
    omega
  unfold Detector.suppressedObject?
  rw [hclassIds.element_eq (by omega), hscores.element_eq (by omega), cornersAt_eq hboxes hbase]

lemma pyramidObject?_eq {classIds classIds' : Array Int64}
    (hboxes : SameUpTo (count * pyramidBoxWidth) boxes boxes')
    (hclassIds : SameUpTo (count * 1) classIds classIds') (hregion : region < count) :
    d.pyramidObject? extent boxes classIds region =
      d.pyramidObject? extent boxes' classIds' region := by
  have hend : region * pyramidBoxWidth + 4 < count * pyramidBoxWidth := by
    simp only [pyramidBoxWidth]
    omega
  unfold Detector.pyramidObject?
  dsimp only
  rw [hclassIds.element_eq (by omega), hboxes.element_eq hend, hboxes.element_eq (by omega),
    hboxes.element_eq (by omega), hboxes.element_eq (by omega), hboxes.element_eq (by omega)]

end Region

/-! ## Decoding -/

lemma lt_of_lastIndex {count width last : ℕ} (h : lastIndex count width = .ok last) :
    last < count * width := by
  unfold lastIndex at h
  split at h
  · cases h
    omega
  · cases h

section Decoding

variable {d : Detector} {extent : Extent} {outputs outputs' : List Tensor}

/-- An output that is read region by region is found in both lists or in neither, and if it is
found it is the same in all regions. -/
lemma Settings.SameRegions.agree_tensorAt {s : Settings} (h : s.SameRegions outputs outputs')
    {count index width : ℕ} (hcount : s.regionCount outputs = .ok count)
    (hindex : (index, width) ∈ s.regionOutputs) :
    Agree (fun output output' => output.data.SameUpTo (count * width) output'.data)
      (tensorAt outputs index) (tensorAt outputs' index) := by
  refine (Detection.agree_tensorAt h.length_eq index).mono ?_
  rintro output output' ⟨houtput, houtput'⟩
  exact h.sameUpTo count hcount index width hindex output output' houtput houtput'

variable (h : d.settings.SameRegions outputs outputs')

include h

lemma perClassObjects_eq (hmode : d.settings.mode = .perClass) :
    d.perClassObjects outputs extent = d.perClassObjects outputs' extent := by
  have hcounts := Settings.regionCount_of_ne_pyramid (s := d.settings) (by rw [hmode]; nofun)
  have hboxRole : (d.settings.boxOutput, d.settings.scoredClasses * boxWidth) ∈
      d.settings.regionOutputs := by
    simp [Settings.regionOutputs, hmode]
  have hscoreRole : (d.settings.scoreOutput, d.settings.scoredClasses) ∈
      d.settings.regionOutputs := by
    simp [Settings.regionOutputs, hmode]
  unfold Detector.perClassObjects
  dsimp only
  rw [h.length_eq]
  split
  · rfl
  refine Agree.eq ?_
  rw [← bind_assoc, ← bind_assoc, ← hcounts, ← hcounts, ← h.regionCount_eq]
  refine Agree.bind_same fun count hcount => ?_
  split
  · exact Agree.refl _
  rename_i hsome
  refine (h.agree_tensorAt hcount hboxRole).bind fun boxOutput boxOutput' hsame => ?_
  refine Agree.bind_same fun lastBox hlastBox => ?_
  refine (hsame.agree_floatsCovering (lt_of_lastIndex hlastBox)).bind fun boxes boxes' hboxes => ?_
  refine (h.agree_tensorAt hcount hscoreRole).bind fun scoreOutput scoreOutput' hsame => ?_
  refine Agree.bind_same fun lastScore hlastScore => ?_
  refine (hsame.agree_floatsCovering (lt_of_lastIndex hlastScore)).bind
    fun scores scores' hscores => ?_
  rw [mapM_congr fun region hregion =>
    perClassObject?_eq (by omega) hboxes hscores (List.mem_range.1 hregion)]
  exact Agree.refl _

lemma suppressedObjects_eq (hmode : d.settings.mode = .suppressed) :
    d.suppressedObjects outputs = d.suppressedObjects outputs' := by
  have hcounts := Settings.regionCount_of_ne_pyramid (s := d.settings) (by rw [hmode]; nofun)
  have hboxRole : (d.settings.suppressedBoxOutput, boxWidth) ∈ d.settings.regionOutputs := by
    simp [Settings.regionOutputs, hmode]
  have hscoreRole : (d.settings.suppressedScoreOutput, 1) ∈ d.settings.regionOutputs := by
    simp [Settings.regionOutputs, hmode]
  have hclassRole : (d.settings.suppressedClassOutput, 1) ∈ d.settings.regionOutputs := by
    simp [Settings.regionOutputs, hmode]
  unfold Detector.suppressedObjects
  dsimp only
  rw [h.length_eq]
  split
  · rfl
  refine Agree.eq ?_
  rw [← bind_assoc, ← bind_assoc, ← hcounts, ← hcounts, ← h.regionCount_eq]
  refine Agree.bind_same fun count hcount => ?_
  split
  · exact Agree.refl _
  rename_i hsome
  refine (h.agree_tensorAt hcount hboxRole).bind fun boxOutput boxOutput' hsame => ?_
  refine Agree.bind_same fun lastBox hlastBox => ?_
  refine (hsame.agree_floatsCovering (lt_of_lastIndex hlastBox)).bind fun boxes boxes' hboxes => ?_
  refine (h.agree_tensorAt hcount hscoreRole).bind fun scoreOutput scoreOutput' hsame => ?_
  refine (hsame.agree_floatsCovering (by omega)).bind fun scores scores' hscores => ?_
  refine (h.agree_tensorAt hcount hclassRole).bind fun classOutput classOutput' hsame => ?_
  refine (hsame.agree_floatsCovering (by omega)).bind fun classIds classIds' hclassIds => ?_
  rw [mapM_congr fun region hregion =>
    suppressedObject?_eq hboxes hscores hclassIds (List.mem_range.1 hregion)]
  exact Agree.refl _

lemma pyramidObjects_eq (hmode : d.settings.mode = .pyramid) :
    d.pyramidObjects outputs extent = d.pyramidObjects outputs' extent := by
  have hcounts : ∀ outputs, d.settings.regionCount outputs =
      tensorAt outputs d.settings.countOutput >>= fun output =>
        .ok (output.shape.head?.getD 0) := by
    intro outputs
    simp only [Settings.regionCount, hmode]
    rfl
  have hboxRole : (d.settings.countOutput, pyramidBoxWidth) ∈ d.settings.regionOutputs := by
    simp [Settings.regionOutputs, hmode]
  have hclassRole : (d.settings.boxOutput, 1) ∈ d.settings.regionOutputs := by
    simp [Settings.regionOutputs, hmode]
  unfold Detector.pyramidObjects
  dsimp only
  rw [h.length_eq]
  split
  · rfl
  refine Agree.eq ?_
  -- The rectangles tell the number of regions themselves, by their shape.
  refine (agree_tensorAt h.length_eq d.settings.countOutput).bind ?_
  rintro boxOutput boxOutput' ⟨hfound, hfound'⟩
  have hcount : d.settings.regionCount outputs = .ok (boxOutput.shape.head?.getD 0) := by
    rw [hcounts, tensorAt_eq_ok_iff.2 hfound]
    rfl
  have hcount' : boxOutput'.shape.head?.getD 0 = boxOutput.shape.head?.getD 0 := by
    have heq := h.regionCount_eq
    rw [hcount, hcounts, tensorAt_eq_ok_iff.2 hfound'] at heq
    exact (Except.ok.inj heq).symm
  rw [hcount']
  generalize boxOutput.shape.head?.getD 0 = count at hcount ⊢
  split
  · exact Agree.refl _
  rename_i hsome
  have hsame := h.sameUpTo count hcount _ _ hboxRole _ _ hfound hfound'
  refine Agree.bind_same fun lastBox hlastBox => ?_
  refine (hsame.agree_floatsCovering (lt_of_lastIndex hlastBox)).bind fun boxes boxes' hboxes => ?_
  refine (h.agree_tensorAt hcount hclassRole).bind fun classOutput classOutput' hsame => ?_
  refine (hsame.agree_integersCovering (by omega)).bind fun classIds classIds' hclassIds => ?_
  rw [mapM_congr fun region hregion =>
    pyramidObject?_eq hboxes hclassIds (List.mem_range.1 hregion)]
  exact Agree.refl _

/-- **Only regions matter.**  If two lists of outputs tell the same number of regions and agree in
all that is shown of these regions, decoding has the same outcome for both: the same objects or
the same fault, whatever stands behind the last region. -/
theorem decode_eq_of_sameRegions (extent : Extent) :
    d.decode outputs extent = d.decode outputs' extent := by
  refine bind_congr fun _ => ?_
  cases hmode : d.settings.mode with
  | perClass => exact perClassObjects_eq h hmode
  | suppressed => exact suppressedObjects_eq h hmode
  | pyramid => exact pyramidObjects_eq h hmode

end Decoding

/-- One region, and behind it what looks like a better one that is off every picture. -/
def oneRegionPadded : List Tensor :=
  [⟨[1], .float #[1.0]⟩,
    ⟨[1, 2, 2, 4], .float #[0.0, 0.0, 0.0, 0.0, 32.0, 32.0, 64.0, 64.0,
      -1e9, -1e9, 1e9, 1e9, -1e9, -1e9, 1e9, 1e9]⟩,
    ⟨[1, 2, 2], .float #[0.0, 0.5, 1.0, 1.0]⟩, .zeros [1]]

theorem decode_oneRegionPadded :
    risingDetector.settings.SameRegions oneRegionPadded oneRegion ∧
      risingDetector.decode oneRegionPadded ⟨128, 128, 128, 128⟩ = .ok [objectOfRegion] := by
  have hcount : risingDetector.settings.regionCount oneRegionPadded = .ok 1 := rfl
  have hcount' : risingDetector.settings.regionCount oneRegion = .ok 1 := rfl
  have hsame : risingDetector.settings.SameRegions oneRegionPadded oneRegion := by
    refine ⟨rfl, hcount.trans hcount'.symm, ?_⟩
    intro count hcount'' index width hrole output output' houtput houtput'
    obtain rfl : 1 = count := Except.ok.inj (hcount.symm.trans hcount'')
    have hroles : (index, width) = (1, 8) ∨ (index, width) = (2, 2) := by
      simpa [Settings.regionOutputs, risingDetector, boxWidth] using hrole
    rcases hroles with hrole | hrole <;> cases hrole <;> cases houtput <;> cases houtput'
    · exact .float ⟨by decide, by decide, by decide⟩
    · exact .float ⟨by decide, by decide, by decide⟩
  exact ⟨hsame, (decode_eq_of_sameRegions hsame _).trans decode_oneRegion⟩

end FasterRcnn

end Detection
