/-
# When outputs are found

The outputs of a network are known by their positions.  Decoding counts them and looks up those
that the mode needs; whatever else goes wrong with a frame goes wrong with the elements of an
output that has been found.

## Main definitions

* `Fault.IsOfOutputs`: a fault says that there are too few outputs, too many, or not the one.
* `FindsOutputs`: a computation fails with no such fault.

The main results are `findsOutputs_perClassObjects`, `findsOutputs_suppressedObjects` and
`findsOutputs_pyramidObjects`.
-/
import Detection.Proofs.FasterRcnn.Regions
import Detection.Proofs.Faults

namespace Detection

/-! ## Faults of outputs -/

/-- A fault says that there are too few outputs or too many, or that one is missing. -/
def Fault.IsOfOutputs : Fault → Prop
  | .region (.outputCount _ _) => True
  | .region (.pyramidOutputCount _ _) => True
  | .tensor (.missing _ _) => True
  | _ => False

/-- A computation does not fail because of outputs that are missing. -/
def FindsOutputs {α : Type} (x : Except Fault α) : Prop :=
  FailsOnly (fun fault => ¬ fault.IsOfOutputs) x

/-- An output is found exactly if there are that many. -/
lemma findsOutputs_tensorAt_iff {tensors : List Tensor} {index : ℕ} :
    FindsOutputs (tensorAt tensors index) ↔ index < tensors.length := by
  unfold FindsOutputs tensorAt
  by_cases hindex : index < tensors.length
  · simp [hindex]
  · rw [List.getElem?_eq_none (Nat.le_of_not_lt hindex)]
    simp [hindex, Fault.IsOfOutputs]

/-! ### Reading elements -/

lemma findsOutputs_element {α : Type} (values : Array α) (index : ℕ) :
    FindsOutputs (element values index) := by
  unfold FindsOutputs element
  split <;> simp [Fault.IsOfOutputs]

/-- A fault of reading is none of the outputs. -/
lemma FindsOutputs.of_failsOnly {α : Type} {x : Except Fault α}
    (h : FailsOnly Fault.IsOfReading x) : FindsOutputs x := by
  refine h.mono fun fault hreading houtputs => ?_
  unfold Fault.IsOfReading at hreading
  split at hreading
  all_goals first | exact hreading | exact houtputs

lemma findsOutputs_floatsCovering (t : Tensor) (index : ℕ) :
    FindsOutputs (t.floatsCovering index) :=
  FindsOutputs.of_failsOnly (t.failsOnly_floatsCovering index)

lemma findsOutputs_integersCovering (t : Tensor) (index : ℕ) :
    FindsOutputs (t.integersCovering index) :=
  FindsOutputs.of_failsOnly (t.failsOnly_integersCovering index)

namespace FasterRcnn

/-! ### Reading regions -/

section Region

variable {d : Detector} {extent : Extent}

lemma findsOutputs_detectionCount (t : Tensor) : FindsOutputs (detectionCount t) := by
  unfold detectionCount
  split
  · refine (FindsOutputs.of_failsOnly t.failsOnly_floats).bind fun values _ => ?_
    exact (findsOutputs_element values 0).bind fun x _ => FailsOnly.ok _
  · refine (FindsOutputs.of_failsOnly t.failsOnly_integers).bind fun values _ => ?_
    exact (findsOutputs_element values 0).bind fun n _ => FailsOnly.ok _

lemma findsOutputs_lastIndex (count width : ℕ) : FindsOutputs (lastIndex count width) := by
  unfold FindsOutputs lastIndex
  split <;> simp [Fault.IsOfOutputs]

lemma findsOutputs_cornersAt (boxes : Array Float32) (base : ℕ) :
    FindsOutputs (cornersAt boxes base) := by
  refine (findsOutputs_element boxes base).bind fun top _ => ?_
  refine (findsOutputs_element boxes _).bind fun left _ => ?_
  refine (findsOutputs_element boxes _).bind fun bottom _ => ?_
  exact (findsOutputs_element boxes _).bind fun right _ => FailsOnly.ok _

lemma findsOutputs_perClassObject? (boxes scores : Array Float32) (region : ℕ) :
    FindsOutputs (d.perClassObject? extent boxes scores region) := by
  refine (FailsOnly.mapM fun c _ => findsOutputs_element scores _).bind fun regionScores _ => ?_
  dsimp only
  split
  · exact FailsOnly.ok _
  · exact (findsOutputs_cornersAt boxes _).bind fun corners _ => FailsOnly.ok _

lemma findsOutputs_suppressedObject? (boxes scores classIds : Array Float32) (region : ℕ) :
    FindsOutputs (d.suppressedObject? boxes scores classIds region) := by
  refine (findsOutputs_element classIds region).bind fun classNumber _ => ?_
  split
  · exact FailsOnly.ok _
  · refine (findsOutputs_element scores region).bind fun score _ => ?_
    split
    · exact FailsOnly.ok _
    · split
      · exact (findsOutputs_cornersAt boxes _).bind fun corners _ => FailsOnly.ok _
      · exact FailsOnly.ok _

lemma findsOutputs_pyramidObject? (boxes : Array Float32) (classIds : Array Int64)
    (region : ℕ) : FindsOutputs (d.pyramidObject? extent boxes classIds region) := by
  refine (findsOutputs_element classIds region).bind fun classNumber _ => ?_
  dsimp only
  split
  · exact FailsOnly.ok _
  · refine (findsOutputs_element boxes _).bind fun score _ => ?_
    split
    · exact FailsOnly.ok _
    · refine (findsOutputs_element boxes _).bind fun left _ => ?_
      refine (findsOutputs_element boxes _).bind fun top _ => ?_
      refine (findsOutputs_element boxes _).bind fun right _ => ?_
      exact (findsOutputs_element boxes _).bind fun bottom _ => FailsOnly.ok _

lemma findsOutputs_suppress (measure : OverlapMeasure) (threshold : Float32)
    (objects : List DetectedObject) :
    FindsOutputs (DetectedObject.suppress measure threshold objects) := by
  unfold FindsOutputs DetectedObject.suppress
  split <;> simp [Fault.IsOfOutputs]

end Region

/-! ### The modes -/

section Decoding

variable {d : Detector} {outputs : List Tensor} {extent : Extent}

lemma findsOutputs_perClassObjects (hcount : outputCount ≤ outputs.length)
    (hcounts : d.settings.countOutput < outputs.length)
    (hboxes : d.settings.boxOutput < outputs.length)
    (hscores : d.settings.scoreOutput < outputs.length) :
    FindsOutputs (d.perClassObjects outputs extent) := by
  unfold Detector.perClassObjects
  dsimp only
  rw [if_neg hcount.not_gt]
  refine (findsOutputs_tensorAt_iff.2 hcounts).bind fun countOutput _ => ?_
  refine (findsOutputs_detectionCount countOutput).bind fun count _ => ?_
  split
  · exact FailsOnly.ok _
  · refine (findsOutputs_tensorAt_iff.2 hboxes).bind fun boxOutput _ => ?_
    refine (findsOutputs_lastIndex _ _).bind fun lastBox _ => ?_
    refine (findsOutputs_floatsCovering boxOutput lastBox).bind fun boxes _ => ?_
    refine (findsOutputs_tensorAt_iff.2 hscores).bind fun scoreOutput _ => ?_
    refine (findsOutputs_lastIndex _ _).bind fun lastScore _ => ?_
    refine (findsOutputs_floatsCovering scoreOutput lastScore).bind fun scores _ => ?_
    refine (FailsOnly.mapM fun region _ => findsOutputs_perClassObject? boxes scores
      region).bind fun found _ => ?_
    exact findsOutputs_suppress _ _ _

lemma findsOutputs_suppressedObjects (hcount : outputCount ≤ outputs.length)
    (hcounts : d.settings.countOutput < outputs.length)
    (hboxes : d.settings.suppressedBoxOutput < outputs.length)
    (hscores : d.settings.suppressedScoreOutput < outputs.length)
    (hclasses : d.settings.suppressedClassOutput < outputs.length) :
    FindsOutputs (d.suppressedObjects outputs) := by
  unfold Detector.suppressedObjects
  dsimp only
  rw [if_neg hcount.not_gt]
  refine (findsOutputs_tensorAt_iff.2 hcounts).bind fun countOutput _ => ?_
  refine (findsOutputs_detectionCount countOutput).bind fun count _ => ?_
  split
  · exact FailsOnly.ok _
  · refine (findsOutputs_tensorAt_iff.2 hboxes).bind fun boxOutput _ => ?_
    refine (findsOutputs_lastIndex _ _).bind fun lastBox _ => ?_
    refine (findsOutputs_floatsCovering boxOutput lastBox).bind fun boxes _ => ?_
    refine (findsOutputs_tensorAt_iff.2 hscores).bind fun scoreOutput _ => ?_
    refine (findsOutputs_floatsCovering scoreOutput _).bind fun scores _ => ?_
    refine (findsOutputs_tensorAt_iff.2 hclasses).bind fun classOutput _ => ?_
    refine (findsOutputs_floatsCovering classOutput _).bind fun classIds _ => ?_
    refine (FailsOnly.mapM fun region _ => findsOutputs_suppressedObject? boxes scores classIds
      region).bind fun found _ => ?_
    exact FailsOnly.ok _

lemma findsOutputs_pyramidObjects (hcount : outputs.length = pyramidOutputCount)
    (hboxes : d.settings.countOutput < outputs.length)
    (hclasses : d.settings.boxOutput < outputs.length) :
    FindsOutputs (d.pyramidObjects outputs extent) := by
  unfold Detector.pyramidObjects
  dsimp only
  rw [if_neg (not_not.2 hcount)]
  refine (findsOutputs_tensorAt_iff.2 hboxes).bind fun boxOutput _ => ?_
  split
  · exact FailsOnly.ok _
  · refine (findsOutputs_lastIndex _ _).bind fun lastBox _ => ?_
    refine (findsOutputs_floatsCovering boxOutput lastBox).bind fun boxes _ => ?_
    refine (findsOutputs_tensorAt_iff.2 hclasses).bind fun classOutput _ => ?_
    refine (findsOutputs_integersCovering classOutput _).bind fun classIds _ => ?_
    refine (FailsOnly.mapM fun region _ => findsOutputs_pyramidObject? boxes classIds
      region).bind fun found _ => ?_
    exact FailsOnly.ok _

end Decoding

end FasterRcnn
end Detection
