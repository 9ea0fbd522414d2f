/-
# Addresses of regions

How many regions there are is told by the frame, and nothing ties the number to the buffers: it may
be so large that the regions could not be addressed.  Before the first region is decoded it is
checked that the last one can be addressed and is there.  Then everything can be addressed that
decoding reads of any region, and is there.

To say so, decoding is done once more with every address checked: each number that is computed as
an address has to fit into 64 bits, and each part that is taken of a buffer has to lie within it.
If any of this failed, the decoder would be at fault; it turns out that the outcome is the same.

## Main definitions

* `address`, `checkedElement`, `slice`: a checked address and what is found there.
* `Detector.checkedDecode`: decoding with every address checked.

The main result is `checkedDecode_eq_decode`.
-/
import Detection.Proofs.FasterRcnn.Classes
import Detection.Proofs.Faults
import Detection.Proofs.Settings.Ranges

namespace Detection
namespace FasterRcnn

/-! ## Checked addresses -/

/-- A number as an address, which has to fit into 64 bits. -/
def address (n : ℕ) : Except Fault ℕ :=
  if n < addressBound then .ok n else .error (.tensor (.outside addressBound n))

/-- The element of a buffer at a checked address. -/
def checkedElement {α : Type} (values : Array α) (index : ℕ) : Except Fault α := do
  element values (← address index)

/-- The part of a buffer from an index up to another one, which has to lie within the buffer. -/
def slice {α : Type} (values : Array α) (start stop : ℕ) : Except Fault (Array α) :=
  if start ≤ stop ∧ stop ≤ values.size then
    .ok (values.extract start stop)
  else
    .error (.tensor (.outside values.size stop))

section Buffers

variable {α : Type} {P : Fault → Prop} {values : Array α} {index start n : ℕ}

lemma address_of_lt (h : n < addressBound) : address n = .ok n :=
  if_pos h

lemma failsOnly_element (h : index < values.size) : FailsOnly P (element values index) := by
  rw [element_of_lt h]
  exact FailsOnly.ok _

lemma sameOutcome_checkedElement (hbound : index < addressBound) (h : index < values.size) :
    SameOutcome P (checkedElement values index) (element values index) := by
  rw [checkedElement, address_of_lt hbound]
  exact SameOutcome.refl (failsOnly_element h)

lemma slice_of_le (h : start + n ≤ values.size) :
    slice values start (start + n) = .ok (values.extract start (start + n)) :=
  if_pos ⟨Nat.le_add_right start n, h⟩

/-- The elements of a part are those of the buffer behind its start. -/
lemma element_extract (h : start + n ≤ values.size) (hindex : index < n) :
    element (values.extract start (start + n)) index = element values (start + index) := by
  have hlt : index < (values.extract start (start + n)).size := by
    rw [Array.size_extract]
    omega
  rw [element_of_lt hlt, element_of_lt (by omega), Array.getElem_extract]

lemma mapM_element (h : start + n ≤ values.size) :
    ((List.range n).mapM fun k => element values (start + k)) =
      .ok (values.extract start (start + n)).toList := by
  rw [mapM_eq_ok_iff, List.forall₂_iff_get]
  refine ⟨by simp only [List.length_range, Array.length_toList, Array.size_extract]; omega, ?_⟩
  intro k hk hk'
  simp only [List.get_eq_getElem, List.getElem_range, Array.getElem_toList, Array.getElem_extract]
  exact element_of_lt _

end Buffers

/-! ## Decoding with every address checked -/

/-- A rectangle whose ordinates come before its abscissae. -/
def checkedCornersAt (boxes : Array Float32) (base : ℕ) : Except Fault (Corners Float32) := do
  let top ← checkedElement boxes base
  let left ← checkedElement boxes (base + 1)
  let bottom ← checkedElement boxes (base + 2)
  let right ← checkedElement boxes (base + 3)
  return { left, top, right, bottom }

/-- The object of a region whose classes are scored apart. -/
def Detector.checkedPerClassObject? (d : Detector) (extent : Extent)
    (boxes scores : Array Float32) (region : ℕ) : Except Fault (Option DetectedObject) := do
  let classCount := d.settings.scoredClasses
  let start ← address (region * classCount)
  let stop ← address ((← address (region + 1)) * classCount)
  let regionScores ← slice scores start stop
  let best := bestAbove 0.0 regionScores.toList
  let classIndex := best.1.getD 0
  if best.2 ≤ d.settings.classes.thresholdOf classIndex then
    return none
  else
    let base ← address ((← address (start * boxWidth)) + (← address (classIndex * boxWidth)))
    let corners ← checkedCornersAt boxes base
    return some ⟨fractions extent corners, best.2, ← address (classIndex + 1)⟩

/-- The objects of regions whose classes are scored apart. -/
def Detector.checkedPerClassObjects (d : Detector) (outputs : List Tensor) (extent : Extent) :
    Except Fault (List DetectedObject) := do
  let s := d.settings
  if outputs.length < outputCount then
    throw (.region (.outputCount outputs.length outputCount))
  let count ← detectionCount (← tensorAt outputs s.countOutput)
  if count = 0 ∨ s.scoredClasses = 0 then
    return []
  let boxOutput ← tensorAt outputs s.boxOutput
  let width ← address (s.scoredClasses * boxWidth)
  let boxes ← boxOutput.floatsCovering (← lastIndex count width)
  let scoreOutput ← tensorAt outputs s.scoreOutput
  let scores ← scoreOutput.floatsCovering (← lastIndex count s.scoredClasses)
  let found ← (List.range count).mapM (d.checkedPerClassObject? extent boxes scores)
  DetectedObject.suppress .union s.overlapThreshold (found.filterMap id)

/-- The object of a suppressed region. -/
def Detector.checkedSuppressedObject? (d : Detector) (boxes scores classIds : Array Float32)
    (region : ℕ) : Except Fault (Option DetectedObject) := do
  let classNumber ← checkedElement classIds region
  if classNumber ≤ 0.0 then
    return none
  else
    let classId := countOf classNumber
    let score ← checkedElement scores region
    match d.settings.classes.classThresholds[classId]? with
    | none => return none
    | some threshold =>
      if threshold ≤ score then
        let base ← address (region * boxWidth)
        return some ⟨← checkedCornersAt boxes base, score, classId⟩
      else
        return none

/-- The objects of suppressed regions. -/
def Detector.checkedSuppressedObjects (d : Detector) (outputs : List Tensor) :
    Except Fault (List DetectedObject) := do
  let s := d.settings
  if outputs.length < outputCount then
    throw (.region (.outputCount outputs.length outputCount))
  let count ← detectionCount (← tensorAt outputs s.countOutput)
  if count = 0 then
    return []
  let boxOutput ← tensorAt outputs s.suppressedBoxOutput
  let boxes ← boxOutput.floatsCovering (← lastIndex count boxWidth)
  let scores ← (← tensorAt outputs s.suppressedScoreOutput).floatsCovering (count - 1)
  let classIds ← (← tensorAt outputs s.suppressedClassOutput).floatsCovering (count - 1)
  let found ← (List.range count).mapM (d.checkedSuppressedObject? boxes scores classIds)
  return found.filterMap id

/-- The object of a region of a feature pyramid. -/
def Detector.checkedPyramidObject? (d : Detector) (extent : Extent) (boxes : Array Float32)
    (classIds : Array Int64) (region : ℕ) : Except Fault (Option DetectedObject) := do
  let classNumber := (← checkedElement classIds region).toInt
  if classNumber < 0 ∨ lastPyramidClass < classNumber then
    return none
  else
    let classId := classNumber.toNat
    let start ← address (region * pyramidBoxWidth)
    let stop ← address ((← address (region + 1)) * pyramidBoxWidth)
    let entry ← slice boxes start stop
    let score ← checkedElement entry 4
    if score < d.settings.classes.thresholdOf classId then
      return none
    else
      let left ← checkedElement entry 0
      let top ← checkedElement entry 1
      let right ← checkedElement entry 2
      let bottom ← checkedElement entry 3
      return some ⟨fractions extent { left, top, right, bottom }, score, classId⟩

/-- The objects of the regions of a feature pyramid. -/
def Detector.checkedPyramidObjects (d : Detector) (outputs : List Tensor) (extent : Extent) :
    Except Fault (List DetectedObject) := do
  let s := d.settings
  if outputs.length ≠ pyramidOutputCount then
    throw (.region (.pyramidOutputCount outputs.length pyramidOutputCount))
  let boxOutput ← tensorAt outputs s.countOutput
  let count := boxOutput.shape.head?.getD 0
  if count = 0 then
    return []
  let boxes ← boxOutput.floatsCovering (← lastIndex count pyramidBoxWidth)
  let classIds ← (← tensorAt outputs s.boxOutput).integersCovering (count - 1)
  let found ← (List.range count).mapM (d.checkedPyramidObject? extent boxes classIds)
  return found.filterMap id

/-- The objects that the outputs of a network show, found with every address checked. -/
def Detector.checkedDecode (d : Detector) (outputs : List Tensor) (extent : Extent) :
    Except Fault (List DetectedObject) := do
  extent.checkModel
  match d.settings.mode with
  | .perClass => d.checkedPerClassObjects outputs extent
  | .suppressed => d.checkedSuppressedObjects outputs
  | .pyramid => d.checkedPyramidObjects outputs extent

/-! ## The object of a region -/

section Region

variable {P : Fault → Prop} {d : Detector} {extent : Extent} {boxes scores : Array Float32}
  {count region base : ℕ}

lemma sameOutcome_cornersAt (hbound : base + 3 < addressBound) (h : base + 3 < boxes.size) :
    SameOutcome P (checkedCornersAt boxes base) (cornersAt boxes base) := by
  refine (sameOutcome_checkedElement (by omega) (by omega)).bind fun top _ => ?_
  refine (sameOutcome_checkedElement (by omega) (by omega)).bind fun left _ => ?_
  refine (sameOutcome_checkedElement (by omega) (by omega)).bind fun bottom _ => ?_
  refine (sameOutcome_checkedElement (by omega) (by omega)).bind fun right _ => ?_
  exact SameOutcome.ok _

/-- The rows of a table that can be addressed begin and end at addresses. -/
lemma address_row {rows row width : ℕ} (hbound : rows * width < addressBound) (hwidth : 0 < width)
    (hrow : row < rows) :
    row * width + width ≤ rows * width ∧ address (row * width) = .ok (row * width) ∧
      address (row + 1) = .ok (row + 1) ∧
        address ((row + 1) * width) = .ok (row * width + width) := by
  have hnext : row * width + width ≤ rows * width := by
    rw [← Nat.succ_mul]
    exact Nat.mul_le_mul_right width hrow
  have hrows : rows ≤ rows * width := Nat.le_mul_of_pos_right rows hwidth
  refine ⟨hnext, address_of_lt (by omega), address_of_lt (by omega), ?_⟩
  rw [Nat.succ_mul]
  exact address_of_lt (by omega)

lemma sameOutcome_perClassObject? (hclasses : 0 < d.settings.scoredClasses)
    (hbound : count * (d.settings.scoredClasses * boxWidth) < addressBound)
    (hboxes : count * (d.settings.scoredClasses * boxWidth) ≤ boxes.size)
    (hscores : count * d.settings.scoredClasses ≤ scores.size) (hregion : region < count) :
    SameOutcome P (d.checkedPerClassObject? extent boxes scores region)
      (d.perClassObject? extent boxes scores region) := by
  simp only [boxWidth, ← Nat.mul_assoc] at hbound hboxes
  have hrows : count * d.settings.scoredClasses < addressBound := by omega
  obtain ⟨hnext, hstart, hregions, hstop⟩ := address_row hrows hclasses hregion
  have hslice := slice_of_le (hnext.trans hscores)
  have hread := mapM_element (hnext.trans hscores)
  have hlength : (scores.extract (region * d.settings.scoredClasses) (region *
      d.settings.scoredClasses + d.settings.scoredClasses)).toList.length =
        d.settings.scoredClasses := by
    rw [Array.length_toList, Array.size_extract]
    omega
  have hbest := (bestAbove_zero _ (List.ne_nil_of_length_pos (hlength ▸ hclasses))).1
  simp only [Detector.checkedPerClassObject?, Detector.perClassObject?, hstart, hregions, hstop,
    hslice, hread, ok_bind]
  rw [hlength] at hbest
  generalize bestAbove 0.0 _ = best at hbest ⊢
  refine SameOutcome.ite (fun _ => SameOutcome.ok _) fun hexceeds => ?_
  -- The rectangle of the best class ends where the region ends, at the latest.
  have hbase : region * d.settings.scoredClasses * 4 + best.1.getD 0 * 4 + 3 <
      count * d.settings.scoredClasses * 4 := by
    omega
  simp only [boxWidth]
  rw [address_of_lt (by omega), ok_bind, address_of_lt (by omega), ok_bind,
    address_of_lt (by omega), ok_bind]
  refine (sameOutcome_cornersAt (by omega) (by omega)).bind fun corners _ => ?_
  rw [address_of_lt (by omega), ok_bind]
  exact SameOutcome.ok _

lemma sameOutcome_suppressedObject? {classIds : Array Float32}
    (hbound : count * boxWidth < addressBound) (hboxes : count * boxWidth ≤ boxes.size)
    (hscores : count ≤ scores.size) (hclassIds : count ≤ classIds.size) (hregion : region < count) :
    SameOutcome P (d.checkedSuppressedObject? boxes scores classIds region)
      (d.suppressedObject? boxes scores classIds region) := by
  simp only [boxWidth] at hbound hboxes
  refine (sameOutcome_checkedElement (by omega) (by omega)).bind fun classNumber _ => ?_
  refine SameOutcome.ite (fun _ => SameOutcome.ok _) fun hbackground => ?_
  refine (sameOutcome_checkedElement (by omega) (by omega)).bind fun score _ => ?_
  cases d.settings.classes.classThresholds[countOf classNumber]? with
  | none => exact SameOutcome.ok _
  | some threshold =>
    dsimp only
    refine SameOutcome.ite (fun _ => ?_) fun _ => SameOutcome.ok _
    simp only [boxWidth]
    rw [address_of_lt (by omega), ok_bind]
    refine (sameOutcome_cornersAt (by omega) (by omega)).bind fun corners _ => ?_
    exact SameOutcome.ok _

lemma sameOutcome_pyramidObject? {classIds : Array Int64}
    (hbound : count * pyramidBoxWidth < addressBound)
    (hboxes : count * pyramidBoxWidth ≤ boxes.size) (hclassIds : count ≤ classIds.size)
    (hregion : region < count) :
    SameOutcome P (d.checkedPyramidObject? extent boxes classIds region)
      (d.pyramidObject? extent boxes classIds region) := by
  obtain ⟨hnext, hstart, hregions, hstop⟩ := address_row hbound (by decide) hregion
  have hslice := slice_of_le (hnext.trans hboxes)
  have hentry : ∀ k < pyramidBoxWidth, SameOutcome P
      (checkedElement (boxes.extract (region * pyramidBoxWidth)
        (region * pyramidBoxWidth + pyramidBoxWidth)) k)
      (element boxes (region * pyramidBoxWidth + k)) := by
    intro k hk
    rw [← element_extract (hnext.trans hboxes) hk]
    refine sameOutcome_checkedElement (hk.trans (by decide)) ?_
    rw [Array.size_extract]
    omega
  refine (sameOutcome_checkedElement ?_ (by omega)).bind fun classNumber _ => ?_
  · simp only [pyramidBoxWidth] at hbound
    omega
  dsimp only
  refine SameOutcome.ite (fun _ => SameOutcome.ok _) fun hknown => ?_
  rw [hstart, ok_bind, hregions, ok_bind, hstop, ok_bind, hslice, ok_bind]
  refine (hentry 4 (by decide)).bind fun score _ => ?_
  refine SameOutcome.ite (fun _ => SameOutcome.ok _) fun hbelow => ?_
  refine (hentry 0 (by decide)).bind fun left _ => ?_
  refine (hentry 1 (by decide)).bind fun top _ => ?_
  refine (hentry 2 (by decide)).bind fun right _ => ?_
  refine (hentry 3 (by decide)).bind fun bottom _ => ?_
  exact SameOutcome.ok _

end Region

/-! ## The number of regions -/

lemma failsOnly_detectionCount (t : Tensor) : FailsOnly Fault.IsOfInput (detectionCount t) := by
  unfold detectionCount
  split
  · refine t.failsOnly_floats.ofInput.bind fun values h => ?_
    exact (failsOnly_element (Tensor.floats_eq_ok_iff.1 h).2).bind fun x _ => FailsOnly.ok _
  · refine t.failsOnly_integers.ofInput.bind fun values h => ?_
    exact (failsOnly_element (Tensor.integers_eq_ok_iff.1 h).2).bind fun n _ => FailsOnly.ok _

lemma failsOnly_lastIndex (count width : ℕ) :
    FailsOnly Fault.IsOfInput (lastIndex count width) := by
  rw [lastIndex]
  split <;> simp

/-- A table whose last index is found can be addressed, and a buffer that covers this index holds
the table. -/
lemma lt_of_lastIndex_eq_ok {count width last : ℕ} (h : lastIndex count width = .ok last) :
    count * width < addressBound ∧ ∀ n, last < n → count * width ≤ n := by
  rw [lastIndex] at h
  split at h
  · rename_i hfits
    cases h
    exact ⟨hfits.2, fun n hn => by omega⟩
  · cases h

section Decoding

variable {d : Detector} {outputs : List Tensor} {extent : Extent}

lemma sameOutcome_floatsCovering (t : Tensor) (index : ℕ) :
    SameOutcome Fault.IsOfInput (t.floatsCovering index) (t.floatsCovering index) :=
  SameOutcome.refl (t.failsOnly_floatsCovering index).ofInput

lemma sameOutcome_perClassObjects (hwidth : d.settings.scoredClasses * boxWidth < addressBound) :
    SameOutcome Fault.IsOfInput (d.checkedPerClassObjects outputs extent)
      (d.perClassObjects outputs extent) := by
  unfold Detector.checkedPerClassObjects Detector.perClassObjects
  dsimp only
  refine SameOutcome.ite (fun _ => SameOutcome.throw_bind (Fault.isOfInput_region _) _ _) ?_
  intro _
  refine (SameOutcome.refl (failsOnly_tensorAt _ _)).bind fun countOutput _ => ?_
  refine (SameOutcome.refl (failsOnly_detectionCount countOutput)).bind fun count _ => ?_
  refine SameOutcome.ite (fun _ => SameOutcome.ok _) fun hsome => ?_
  rw [address_of_lt hwidth]
  refine (SameOutcome.refl (failsOnly_tensorAt _ _)).bind fun boxOutput _ => ?_
  rw [ok_bind]
  refine (SameOutcome.refl (failsOnly_lastIndex _ _)).bind fun lastBox hlastBox => ?_
  refine (sameOutcome_floatsCovering boxOutput lastBox).bind fun boxes hboxes => ?_
  refine (SameOutcome.refl (failsOnly_tensorAt _ _)).bind fun scoreOutput _ => ?_
  refine (SameOutcome.refl (failsOnly_lastIndex _ _)).bind fun lastScore hlastScore => ?_
  refine (sameOutcome_floatsCovering scoreOutput lastScore).bind fun scores hscores => ?_
  -- The last rectangle and the last score are there, so those of all regions are.
  obtain ⟨hbound, hroom⟩ := lt_of_lastIndex_eq_ok hlastBox
  have hboxes := hroom _ (Tensor.floatsCovering_eq_ok_iff.1 hboxes).2
  obtain ⟨-, hroom'⟩ := lt_of_lastIndex_eq_ok hlastScore
  have hscores := hroom' _ (Tensor.floatsCovering_eq_ok_iff.1 hscores).2
  refine (SameOutcome.mapM fun region hregion => ?_).bind fun found _ => ?_
  · exact sameOutcome_perClassObject? (by omega) hbound hboxes hscores (List.mem_range.1 hregion)
  · exact SameOutcome.refl (DetectedObject.failsOnly_suppress _ _ _)

lemma sameOutcome_suppressedObjects :
    SameOutcome Fault.IsOfInput (d.checkedSuppressedObjects outputs)
      (d.suppressedObjects outputs) := by
  unfold Detector.checkedSuppressedObjects Detector.suppressedObjects
  dsimp only
  refine SameOutcome.ite (fun _ => SameOutcome.throw_bind (Fault.isOfInput_region _) _ _) ?_
  intro _
  refine (SameOutcome.refl (failsOnly_tensorAt _ _)).bind fun countOutput _ => ?_
  refine (SameOutcome.refl (failsOnly_detectionCount countOutput)).bind fun count _ => ?_
  refine SameOutcome.ite (fun _ => SameOutcome.ok _) fun hsome => ?_
  refine (SameOutcome.refl (failsOnly_tensorAt _ _)).bind fun boxOutput _ => ?_
  refine (SameOutcome.refl (failsOnly_lastIndex _ _)).bind fun lastBox hlastBox => ?_
  refine (sameOutcome_floatsCovering boxOutput lastBox).bind fun boxes hboxes => ?_
  refine (SameOutcome.refl (failsOnly_tensorAt _ _)).bind fun scoreOutput _ => ?_
  refine (sameOutcome_floatsCovering scoreOutput _).bind fun scores hscores => ?_
  refine (SameOutcome.refl (failsOnly_tensorAt _ _)).bind fun classOutput _ => ?_
  refine (sameOutcome_floatsCovering classOutput _).bind fun classIds hclassIds => ?_
  obtain ⟨hbound, hroom⟩ := lt_of_lastIndex_eq_ok hlastBox
  have hboxes := hroom _ (Tensor.floatsCovering_eq_ok_iff.1 hboxes).2
  have hscores := (Tensor.floatsCovering_eq_ok_iff.1 hscores).2
  have hclassIds := (Tensor.floatsCovering_eq_ok_iff.1 hclassIds).2
  refine (SameOutcome.mapM fun region hregion => ?_).bind fun found _ => SameOutcome.ok _
  exact sameOutcome_suppressedObject? hbound hboxes (by omega) (by omega) (List.mem_range.1 hregion)

lemma sameOutcome_pyramidObjects :
    SameOutcome Fault.IsOfInput (d.checkedPyramidObjects outputs extent)
      (d.pyramidObjects outputs extent) := by
  unfold Detector.checkedPyramidObjects Detector.pyramidObjects
  dsimp only
  refine SameOutcome.ite (fun _ => SameOutcome.throw_bind (Fault.isOfInput_region _) _ _) ?_
  intro _
  refine (SameOutcome.refl (failsOnly_tensorAt _ _)).bind fun boxOutput _ => ?_
  refine SameOutcome.ite (fun _ => SameOutcome.ok _) fun hsome => ?_
  refine (SameOutcome.refl (failsOnly_lastIndex _ _)).bind fun lastBox hlastBox => ?_
  refine (sameOutcome_floatsCovering boxOutput lastBox).bind fun boxes hboxes => ?_
  refine (SameOutcome.refl (failsOnly_tensorAt _ _)).bind fun classOutput _ => ?_
  have hreading := (classOutput.failsOnly_integersCovering
    (boxOutput.shape.head?.getD 0 - 1)).ofInput
  refine (SameOutcome.refl hreading).bind fun classIds hclassIds => ?_
  obtain ⟨hbound, hroom⟩ := lt_of_lastIndex_eq_ok hlastBox
  have hboxes := hroom _ (Tensor.floatsCovering_eq_ok_iff.1 hboxes).2
  have hclassIds := (Tensor.integersCovering_eq_ok_iff.1 hclassIds).2
  refine (SameOutcome.mapM fun region hregion => ?_).bind fun found _ => SameOutcome.ok _
  exact sameOutcome_pyramidObject? hbound hboxes (by omega) (List.mem_range.1 hregion)

/-- Where the rectangles of one region can be addressed, so can all that is read. -/
lemma sameOutcome_decode (hwidth : d.settings.scoredClasses * boxWidth < addressBound)
    (outputs : List Tensor) (extent : Extent) :
    SameOutcome Fault.IsOfInput (d.checkedDecode outputs extent) (d.decode outputs extent) := by
  refine (SameOutcome.refl extent.failsOnly_checkModel).bind fun _ _ => ?_
  cases d.settings.mode with
  | perClass => exact sameOutcome_perClassObjects hwidth
  | suppressed => exact sameOutcome_suppressedObjects
  | pyramid => exact sameOutcome_pyramidObjects

end Decoding

/-! ## Settings -/

/-- Settings never name more classes than can be addressed. -/
lemma classCount_le_of_ofSettings {c : Detection.Settings} {classes : ClassSettings}
    (h : ClassSettings.ofSettings c = .ok classes) : classes.classCount ≤ 1000 := by
  obtain ⟨thresholds, -, h⟩ := exists_of_bind_eq_ok h
  cases h
  dsimp only
  exact UInt64.le_iff_toNat_le.1 (UInt64.not_lt.1 (c.not_lt_readOr "CLASS_NUM" (by decide)))

lemma scoredClasses_le_of_ofSettings {c : Detection.Settings} {s : Settings}
    (h : Settings.ofSettings c = .ok s) : s.scoredClasses ≤ s.classes.classCount := by
  obtain ⟨classes, -, h⟩ := exists_of_bind_eq_ok h
  cases h
  dsimp only
  split <;> omega

/-- **Regions are never read outside of a buffer.**  For settings that could be read, decoding with
every address checked has the same outcome as decoding without, whatever the outputs are: all
numbers computed as addresses fit into 64 bits, and all that is read lies within the buffers.  So
decoding gives objects, or it fails because of what was given. -/
theorem checkedDecode_eq_decode {c : Detection.Settings} {s : Settings}
    (h : Settings.ofSettings c = .ok s) (outputs : List Tensor) (extent : Extent) :
    (Detector.mk s).checkedDecode outputs extent = (Detector.mk s).decode outputs extent ∧
      FailsOnly Fault.IsOfInput ((Detector.mk s).decode outputs extent) := by
  have hclasses := classCount_le_of_ofSettings (classes_of_ofSettings h)
  have hscored := scoredClasses_le_of_ofSettings h
  have hwidth : s.scoredClasses * boxWidth < addressBound := by
    simp only [boxWidth, addressBound, UInt64.size]
    omega
  have hsame := sameOutcome_decode (d := ⟨s⟩) hwidth outputs extent
  exact ⟨hsame.eq, hsame.failsOnly⟩

/-- Outputs that tell of more regions than could be addressed. -/
def countlessRegions : List Tensor :=
  [⟨[1], .float #[1e30]⟩, ⟨[1, 1], .float #[0.5]⟩, ⟨[1, 1, 4], .float #[0.25, 0.25, 0.5, 0.5]⟩,
    ⟨[1, 1], .float #[1.0]⟩]

theorem checkedDecode_countlessRegions :
    Settings.ofSettings oneKnownClass = .ok knowsOneClass ∧
      (Detector.mk knowsOneClass).checkedDecode countlessRegions ⟨128, 128, 128, 128⟩ =
        .error (.region (.detectionCount 0x7fffffffffffffff)) ∧
      (Fault.region (.detectionCount 0x7fffffffffffffff)).IsOfInput := by
  have hdecode : (Detector.mk knowsOneClass).decode countlessRegions ⟨128, 128, 128, 128⟩ =
      .error (.region (.detectionCount 0x7fffffffffffffff)) := by
    decide +kernel
  obtain ⟨heq, hfails⟩ := checkedDecode_eq_decode ofSettings_oneKnownClass countlessRegions
    ⟨128, 128, 128, 128⟩
  exact ⟨ofSettings_oneKnownClass, heq.trans hdecode, hfails _ hdecode⟩

end FasterRcnn
end Detection
