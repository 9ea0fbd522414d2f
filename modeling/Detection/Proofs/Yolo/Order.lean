/-
# The order of the outputs

Which anchors belong to an output is told by the width of its grid, not by where it stands among
the outputs, and each output is checked on its own.  So outputs in another order have the same
layers and the same candidates, in another order; and suppression looks at the order of candidates
only between those of one class and one confidence.

The main result is `decode_eq_ok_of_perm`.
-/
import Detection.Proofs.Box.Ties
import Detection.Proofs.Number.Rank
import Detection.Proofs.Yolo.Candidates
import Detection.Proofs.Yolo.Grids

namespace Detection

namespace DetectedObject

variable {measure : OverlapMeasure} {threshold : Float32} {objects objects' : List DetectedObject}

/-- Objects may come in any order if no two of one class have one confidence. -/
lemma suppress_eq_of_perm
    (hdistinct : objects.Pairwise fun a b => a.classId = b.classId → a.confidence ≠ b.confidence)
    (hperm : objects.Perm objects') :
    suppress measure threshold objects = suppress measure threshold objects' := by
  have hplaces : (objects.all fun o => o.corners.toList.all isOnPicture) =
      objects'.all fun o => o.corners.toList.all isOnPicture :=
    hperm.all_eq
  have hsymm : Std.Symm fun a b : DetectedObject =>
      a.classId = b.classId → a.confidence ≠ b.confidence :=
    ⟨fun a b hab hclass => (hab hclass.symm).symm⟩
  have hboxes : Box.suppress measure threshold (objects.map toBox) =
      Box.suppress measure threshold (objects'.map toBox) := by
    refine Box.suppressBy_eq_of_perm ?_ (hperm.map toBox)
    simp only [List.forall_mem_map]
    rintro a ha b hb ⟨-, -, hclass, hrank⟩
    by_contra hne
    -- Different boxes are those of different objects, and equal ranks are equal confidences.
    have hobjects : a ≠ b := fun hab => hne (congrArg toBox hab)
    exact hdistinct.forall ha hb hobjects hclass (Float32.rank_inj.1 hrank)
  rw [suppress, suppress, hplaces, hboxes]

end DetectedObject

namespace Yolo

variable {s : Settings} {shapes shapes' : List (List ℕ)}

lemma Settings.checkShapes_eq_ok_of_perm (h : s.checkShapes shapes = .ok ())
    (hperm : shapes.Perm shapes') : s.checkShapes shapes' = .ok () := by
  obtain ⟨hcount, expected, hexpected, heach⟩ := Settings.checkShapes_eq_ok_iff.1 h
  refine Settings.checkShapes_eq_ok_iff.2 ⟨hperm.length_eq ▸ hcount, expected, hexpected, ?_⟩
  intro shape hshape
  exact heach shape (hperm.mem_iff.2 hshape)

section

variable [Elementary] {d : Detector} {extent : Extent} {outputs outputs' : List Tensor}

/-- Outputs in another order have the same layers, in another order. -/
lemma exists_perm_layers {layers : List LayerData} (h : d.layers outputs extent = .ok layers)
    (hperm : outputs.Perm outputs') :
    ∃ layers', d.layers outputs' extent = .ok layers' ∧ layers.Perm layers' := by
  obtain ⟨_, hmodel, h⟩ := exists_of_bind_eq_ok h
  obtain ⟨_, hshapes, hlayers⟩ := exists_of_bind_eq_ok h
  obtain ⟨layers', hlayers', hperm'⟩ := exists_perm_of_mapM_eq_ok hlayers hperm
  have hshapes' := Settings.checkShapes_eq_ok_of_perm hshapes (hperm.map (·.shape))
  refine ⟨layers', ?_, hperm'⟩
  rw [Detector.layers, hmodel, ok_bind, hshapes', ok_bind, hlayers']

/-- Outputs in another order have the same candidates, in another order. -/
theorem exists_perm_candidates {objects : List DetectedObject}
    (h : d.candidates outputs extent = .ok objects) (hperm : outputs.Perm outputs') :
    ∃ objects', d.candidates outputs' extent = .ok objects' ∧ objects.Perm objects' := by
  rw [candidates_eq_map_layers] at h
  cases hlayers : d.layers outputs extent with
  | error fault =>
    rw [hlayers] at h
    cases h
  | ok layers =>
    rw [hlayers] at h
    cases h
    obtain ⟨layers', hlayers', hperm'⟩ := exists_perm_layers hlayers hperm
    refine ⟨layers'.flatMap (d.objectsOf extent), ?_, hperm'.flatMap_right _⟩
    rw [candidates_eq_map_layers, hlayers']
    rfl

end

/-- **The order of the outputs does not matter.**  If outputs can be decoded and no two of their
candidates have one class and one confidence, then they can be decoded in any order, to the same
objects in the same order. -/
theorem decode_eq_ok_of_perm [Elementary] (d : Detector) (extent : Extent)
    (outputs outputs' : List Tensor) (found : List DetectedObject)
    (hdistinct : ∀ objects, d.candidates outputs extent = .ok objects →
      objects.Pairwise fun a b => a.classId = b.classId → a.confidence ≠ b.confidence)
    (hfound : d.decode outputs extent = .ok found) (hperm : outputs.Perm outputs') :
    d.decode outputs' extent = .ok found := by
  obtain ⟨objects, hobjects, hsuppress⟩ := exists_of_bind_eq_ok hfound
  obtain ⟨objects', hobjects', hperm'⟩ := exists_perm_candidates hobjects hperm
  rw [Detector.decode, hobjects', ok_bind, ← hsuppress]
  exact (DetectedObject.suppress_eq_of_perm (hdistinct objects hobjects) hperm').symm

/-! ## Two layers -/

/-- A detector of one class, with two layers of one anchor each. -/
def twoLayerDetector : Detector where
  settings :=
    { classes := ⟨1, 0.25, [0.25], true⟩
      objectnessThreshold := 0.25
      overlapThreshold := 0.5
      anchorsPerCell := 1
      anchorSizes := [10.0, 13.0, 16.0, 30.0]
      layerCount := 2
      version := 4
      layout := .channelsLast
      framework := .mindspore }
  variant := .activated

/-- A tensor of one cell with an object in the upper left of the picture. -/
def upperLeft : Tensor :=
  ⟨[1, 1, 1, 6], .float #[0.25, 0.25, 0.25, 0.25, 0.5, 1.0]⟩

/-- A tensor of one cell with a likelier object in the lower right of the picture. -/
def lowerRight : Tensor :=
  ⟨[1, 1, 1, 6], .float #[0.75, 0.75, 0.25, 0.25, 0.875, 1.0]⟩

/-- The two objects, the likelier one first. -/
def lowerRightUpperLeft : List DetectedObject :=
  [⟨⟨0.625, 0.625, 0.875, 0.875⟩, 0.875, 0⟩, ⟨⟨0.125, 0.125, 0.375, 0.375⟩, 0.5, 0⟩]

lemma candidates_lowerRight_upperLeft :
    @Detector.candidates coarseElementary _ twoLayerDetector [lowerRight, upperLeft]
      ⟨32, 32, 32, 32⟩ = .ok lowerRightUpperLeft := by
  decide

lemma decode_lowerRight_upperLeft :
    @Detector.decode coarseElementary _ twoLayerDetector [lowerRight, upperLeft]
      ⟨32, 32, 32, 32⟩ = .ok lowerRightUpperLeft := by
  have hclasses : Box.classes (lowerRightUpperLeft.map DetectedObject.toBox) = [0] := by
    decide
  have hranked : Box.prioritised (·.score)
        (Box.ofClass 0 (lowerRightUpperLeft.map DetectedObject.toBox)) =
      Box.ofClass 0 (lowerRightUpperLeft.map DetectedObject.toBox) :=
    Box.prioritised_eq_self (by decide)
  have hkept : Box.suppress .distance 0.5 (lowerRightUpperLeft.map DetectedObject.toBox) =
      lowerRightUpperLeft.map DetectedObject.toBox := by
    rw [Box.suppress, Box.suppressBy_eq, hclasses, List.flatMap_singleton, Box.keptOfClass, hranked]
    decide
  unfold Detector.decode
  rw [candidates_lowerRight_upperLeft, ok_bind, DetectedObject.suppress, if_pos (by decide)]
  change Except.ok ((Box.suppress .distance 0.5 _).map DetectedObject.ofBox) = _
  rw [hkept]
  decide

/-- The objects come in the same order, whichever output comes first. -/
theorem decode_upperLeft_lowerRight :
    (∀ objects, @Detector.candidates coarseElementary _ twoLayerDetector [lowerRight, upperLeft]
        ⟨32, 32, 32, 32⟩ = .ok objects →
          objects.Pairwise fun a b => a.classId = b.classId → a.confidence ≠ b.confidence) ∧
      [lowerRight, upperLeft].Perm [upperLeft, lowerRight] ∧
      @Detector.decode coarseElementary _ twoLayerDetector [upperLeft, lowerRight]
        ⟨32, 32, 32, 32⟩ = .ok lowerRightUpperLeft := by
  have hdistinct : ∀ objects, @Detector.candidates coarseElementary _ twoLayerDetector
      [lowerRight, upperLeft] ⟨32, 32, 32, 32⟩ = .ok objects →
        objects.Pairwise fun a b => a.classId = b.classId → a.confidence ≠ b.confidence := by
    intro objects hobjects
    rw [candidates_lowerRight_upperLeft] at hobjects
    cases hobjects
    decide
  have hperm : [lowerRight, upperLeft].Perm [upperLeft, lowerRight] := List.Perm.swap _ _ _
  exact ⟨hdistinct, hperm, @decode_eq_ok_of_perm coarseElementary twoLayerDetector
    ⟨32, 32, 32, 32⟩ _ _ _ hdistinct decode_lowerRight_upperLeft hperm⟩

end Yolo
end Detection
