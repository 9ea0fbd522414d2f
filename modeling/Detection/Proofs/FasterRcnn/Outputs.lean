/-
# Models that are admitted and frames that are decoded

When a detector is built, it is checked how many outputs there are and whether one of the positions
is among them; when a frame is decoded, the number is checked again, and every position that the
mode needs is looked up.  The two checks do not agree: a network whose classes are scored apart is
admitted with one output less than decoding takes, and in every mode there are positions that only
decoding looks at.

## Main definitions

* `Settings.uncheckedOutputs`: the positions that are not checked when a detector is built.
* `IsFrameOf`: outputs have given shapes, full buffers and elements of the right kind.
* `Settings.frameOfOnes`: such outputs that are full of ones, so that there is something to
  decode.

The main result is `forall_findsOutputs_decode`: for which of the models that are admitted all
outputs are found.
-/
import Detection.Proofs.FasterRcnn.Lookups

namespace Detection
namespace FasterRcnn

/-! ## Models that are admitted -/

/-- The outputs whose positions are not checked when a detector is built. -/
def Settings.uncheckedOutputs (s : Settings) : List ℕ :=
  match s.mode with
  | .perClass => [s.countOutput, s.scoreOutput]
  | .suppressed => [s.countOutput, s.suppressedScoreOutput, s.suppressedClassOutput]
  | .pyramid => [s.boxOutput]

section Admission

variable {s : Settings} {shapes : List (List ℕ)}

lemma shapeOf_eq_ok {key : String} {index : ℕ} {shape : List ℕ}
    (h : shapeOf shapes key index = .ok shape) : shapes[index]? = some shape := by
  unfold shapeOf at h
  split at h
  · rename_i shape' hshape
    cases h
    exact hshape
  · cases h

lemma checkPerClass_eq_ok (h : s.checkPerClass shapes = .ok ()) :
    outputCount - 1 ≤ shapes.length ∧ ∃ rows columns,
      shapes[s.boxOutput]? = some [rows, columns, s.scoredClasses, boxWidth] := by
  unfold Settings.checkPerClass at h
  split at h
  · cases h
  rename_i hcount
  obtain ⟨shape, hshape, h⟩ := exists_of_bind_eq_ok h
  split at h
  · rename_i hfits
    obtain ⟨hrank, hclasses, hwidth⟩ := hfits
    obtain ⟨rows, columns, classes, width, rfl⟩ := List.length_eq_four.1 hrank
    simp only [List.getD_cons_succ, List.getD_cons_zero] at hclasses hwidth
    subst hclasses hwidth
    exact ⟨Nat.le_of_not_lt hcount, rows, columns, shapeOf_eq_ok hshape⟩
  · cases h

lemma checkSuppressed_eq_ok (h : s.checkSuppressed shapes = .ok ()) :
    outputCount ≤ shapes.length ∧ ∃ rows columns,
      shapes[s.suppressedBoxOutput]? = some [rows, columns, boxWidth] := by
  unfold Settings.checkSuppressed at h
  split at h
  · cases h
  rename_i hcount
  obtain ⟨shape, hshape, h⟩ := exists_of_bind_eq_ok h
  split at h
  · rename_i hfits
    obtain ⟨hrank, hwidth⟩ := hfits
    obtain ⟨rows, columns, width, rfl⟩ := List.length_eq_three.1 hrank
    simp only [List.getD_cons_succ, List.getD_cons_zero] at hwidth
    subst hwidth
    exact ⟨Nat.le_of_not_lt hcount, rows, columns, shapeOf_eq_ok hshape⟩
  · cases h

lemma checkPyramid_eq_ok (h : s.checkPyramid shapes = .ok ()) :
    shapes.length = pyramidOutputCount ∧ ∃ rows,
      shapes[s.countOutput]? = some [rows, pyramidBoxWidth] := by
  unfold Settings.checkPyramid at h
  split at h
  · cases h
  rename_i hcount
  obtain ⟨shape, hshape, h⟩ := exists_of_bind_eq_ok h
  split at h
  · rename_i hfits
    obtain ⟨hrank, hwidth⟩ := hfits
    obtain ⟨rows, width, rfl⟩ := List.length_eq_two.1 hrank
    simp only [List.getD_cons_succ, List.getD_cons_zero] at hwidth
    subst hwidth
    exact ⟨Decidable.not_not.1 hcount, rows, shapeOf_eq_ok hshape⟩
  · cases h

lemma checkShapes_of_build {d : Detector} (hne : shapes ≠ [])
    (h : Detector.build s shapes = .ok d) : s.checkShapes shapes = .ok () ∧ d = ⟨s⟩ := by
  unfold Detector.build at h
  rw [if_neg (by simpa using hne)] at h
  split at h
  · cases h
  · rename_i hcheck
    cases h
    exact ⟨hcheck, rfl⟩

end Admission

/-! ## Frames of a model -/

/-- Outputs have given shapes, their buffers are full, and they hold integers where a feature
pyramid has its classes and numbers everywhere else. -/
structure IsFrameOf (s : Settings) (shapes : List (List ℕ)) (outputs : List Tensor) : Prop where
  shapes_eq : outputs.map (·.shape) = shapes
  full : ∀ t ∈ outputs, t.size = t.elementCount
  kind : ∀ index t, outputs[index]? = some t →
    ((∃ values, t.data = .integer values) ↔ s.mode = .pyramid ∧ index = s.boxOutput)

/-! ### A frame of ones -/

/-- An output that is full of ones. -/
def Settings.ones (s : Settings) (index : ℕ) (shape : List ℕ) : Tensor :=
  if s.mode = .pyramid ∧ index = s.boxOutput then
    ⟨shape, .integer (Array.replicate (extentProduct shape) 1)⟩
  else
    ⟨shape, .float (Array.replicate (extentProduct shape) 1.0)⟩

/-- The outputs of given shapes that are full of ones. -/
def Settings.frameOfOnes (s : Settings) (shapes : List (List ℕ)) : List Tensor :=
  shapes.mapIdx s.ones

section Ones

variable {s : Settings} {shapes : List (List ℕ)}

lemma isFrameOf_frameOfOnes (s : Settings) (shapes : List (List ℕ)) :
    IsFrameOf s shapes (s.frameOfOnes shapes) where
  shapes_eq := by
    refine List.ext_getElem (by simp [Settings.frameOfOnes]) fun index _ _ => ?_
    simp only [Settings.frameOfOnes, Settings.ones, List.getElem_map, List.getElem_mapIdx]
    split <;> rfl
  full := by
    intro t ht
    obtain ⟨index, hindex, rfl⟩ := List.mem_mapIdx.1 ht
    simp only [Settings.ones]
    split <;> simp [Tensor.size, Tensor.elementCount]
  kind := by
    intro index t ht
    simp only [Settings.frameOfOnes, List.getElem?_mapIdx, Option.map_eq_some_iff] at ht
    obtain ⟨shape, -, rfl⟩ := ht
    simp only [Settings.ones]
    split
    · rename_i hinteger
      exact ⟨fun _ => hinteger, fun _ => ⟨_, rfl⟩⟩
    · rename_i hnumber
      constructor
      · rintro ⟨values, hvalues⟩
        cases hvalues
      · exact fun hinteger => absurd hinteger hnumber

@[simp] lemma length_frameOfOnes : (s.frameOfOnes shapes).length = shapes.length := by
  simp [Settings.frameOfOnes]

lemma ones_of_not_integer {index : ℕ} (h : ¬ (s.mode = .pyramid ∧ index = s.boxOutput))
    (shape : List ℕ) :
    s.ones index shape = ⟨shape, .float (Array.replicate (extentProduct shape) 1.0)⟩ :=
  if_neg h

lemma ones_of_ne_pyramid (hmode : s.mode ≠ .pyramid) (index : ℕ) (shape : List ℕ) :
    s.ones index shape = ⟨shape, .float (Array.replicate (extentProduct shape) 1.0)⟩ :=
  ones_of_not_integer (fun h => hmode h.1) shape

/-- An output that is looked up among ones is there, and it is full of ones. -/
lemma exists_of_findsOutputs_frameOfOnes {α : Type} {index : ℕ} {f : Tensor → Except Fault α}
    (h : FindsOutputs (tensorAt (s.frameOfOnes shapes) index >>= f)) :
    ∃ shape ∈ shapes, shapes[index]? = some shape ∧ FindsOutputs (f (s.ones index shape)) := by
  have hindex : index < shapes.length := by
    simpa using findsOutputs_tensorAt_iff.1 (FailsOnly.bind_iff.1 h).1
  have hshape : shapes[index]? = some shapes[index] := List.getElem?_eq_getElem hindex
  refine ⟨shapes[index], List.getElem_mem hindex, hshape, ?_⟩
  refine (FailsOnly.bind_iff.1 h).2 _ (tensorAt_eq_ok_iff.2 ?_)
  simp [Settings.frameOfOnes, hshape]

/-- Ones count one detection. -/
lemma detectionCount_replicate {shape : List ℕ} {n : ℕ} (hn : 0 < n) :
    detectionCount ⟨shape, .float (Array.replicate n 1.0)⟩ = .ok 1 := by
  have hfloats : (Tensor.mk shape (.float (Array.replicate n 1.0))).floats =
      .ok (Array.replicate n 1.0) := by
    rw [Tensor.floats_eq_ok_iff]
    simpa using hn
  have hfirst : element (Array.replicate n (1.0 : Float32)) 0 = .ok 1.0 := by
    rw [element_eq_ok_iff, Array.getElem?_replicate, if_pos hn]
  have hone : (wholePart32 1.0).toNat = 1 := rfl
  unfold detectionCount
  dsimp only
  rw [hfloats]
  change (element (Array.replicate n 1.0) 0 >>= fun x => .ok (wholePart32 x).toNat) = _
  rw [hfirst]
  change Except.ok (wholePart32 1.0).toNat = _
  rw [hone]

lemma lastIndex_eq_ok {count width : ℕ} (hpos : 0 < count * width)
    (hlt : count * width < UInt64.size) : lastIndex count width = .ok (count * width - 1) :=
  if_pos ⟨hpos, hlt⟩

lemma lastIndex_one {width : ℕ} (hpos : 0 < width) (hlt : width < UInt64.size) :
    lastIndex 1 width = .ok (width - 1) := by
  have h : lastIndex 1 width = .ok (1 * width - 1) :=
    lastIndex_eq_ok (by omega) (by omega)
  rwa [Nat.one_mul] at h

lemma floatsCovering_replicate {shape : List ℕ} {n index : ℕ} (h : index < n) :
    (Tensor.mk shape (.float (Array.replicate n 1.0))).floatsCovering index =
      .ok (Array.replicate n 1.0) :=
  Tensor.floatsCovering_of_lt (by simpa using h)

/-! ### What decoding ones looks at -/

variable {extent : Extent}

lemma lt_of_findsOutputs_perClassObjects (hmode : s.mode = .perClass)
    (hfit : ∀ shape ∈ shapes, 0 < extentProduct shape ∧ extentProduct shape < UInt64.size)
    (hcheck : s.checkPerClass shapes = .ok ())
    (h : FindsOutputs ((Detector.mk s).perClassObjects (s.frameOfOnes shapes) extent)) :
    outputCount ≤ shapes.length ∧ s.countOutput < shapes.length ∧
      s.scoreOutput < shapes.length := by
  have hones := ones_of_ne_pyramid (s := s) (by simp [hmode])
  obtain ⟨-, rows, columns, hboxes⟩ := checkPerClass_eq_ok hcheck
  have hsize := hfit _ (List.mem_of_getElem? hboxes)
  have hproduct : extentProduct [rows, columns, s.scoredClasses, boxWidth] =
      rows * columns * (s.scoredClasses * boxWidth) := by
    simp [extentProduct, Nat.mul_assoc]
  rw [hproduct] at hsize
  have hregion : 0 < s.scoredClasses * boxWidth := Nat.pos_of_mul_pos_left hsize.1
  -- One region takes no more room than all of them.
  have hroom : s.scoredClasses * boxWidth ≤ rows * columns * (s.scoredClasses * boxWidth) :=
    Nat.le_mul_of_pos_left _ (Nat.pos_of_mul_pos_right hsize.1)
  unfold Detector.perClassObjects at h
  dsimp only at h
  by_cases hcount : (s.frameOfOnes shapes).length < outputCount
  · rw [if_pos hcount] at h
    exact absurd h (by simp [FindsOutputs, Fault.IsOfOutputs])
  rw [if_neg hcount] at h
  obtain ⟨countShape, hmem, hcounts, h⟩ := exists_of_findsOutputs_frameOfOnes h
  rw [hones, detectionCount_replicate (hfit countShape hmem).1, FindsOutputs,
    FailsOnly.ok_bind_iff,
    if_neg (by simp [(Nat.pos_of_mul_pos_right hregion).ne'])] at h
  obtain ⟨boxShape, -, hboxes', h⟩ := exists_of_findsOutputs_frameOfOnes h
  cases hboxes.symm.trans hboxes'
  rw [hones, lastIndex_one hregion (hroom.trans_lt hsize.2), FindsOutputs,
    FailsOnly.ok_bind_iff, hproduct, floatsCovering_replicate (by omega),
    FailsOnly.ok_bind_iff] at h
  obtain ⟨scoreShape, -, hscores, -⟩ := exists_of_findsOutputs_frameOfOnes h
  simp only [length_frameOfOnes, Nat.not_lt] at hcount
  exact ⟨hcount, (List.getElem?_eq_some_iff.1 hcounts).1, (List.getElem?_eq_some_iff.1 hscores).1⟩

lemma lt_of_findsOutputs_suppressedObjects (hmode : s.mode = .suppressed)
    (hfit : ∀ shape ∈ shapes, 0 < extentProduct shape ∧ extentProduct shape < UInt64.size)
    (hcheck : s.checkSuppressed shapes = .ok ())
    (h : FindsOutputs ((Detector.mk s).suppressedObjects (s.frameOfOnes shapes))) :
    s.countOutput < shapes.length ∧ s.suppressedScoreOutput < shapes.length ∧
      s.suppressedClassOutput < shapes.length := by
  have hones := ones_of_ne_pyramid (s := s) (by simp [hmode])
  obtain ⟨hlength, rows, columns, hboxes⟩ := checkSuppressed_eq_ok hcheck
  have hsize := (hfit _ (List.mem_of_getElem? hboxes)).1
  have hproduct : extentProduct [rows, columns, boxWidth] = rows * columns * boxWidth := by
    simp [extentProduct]
  rw [hproduct] at hsize
  have hroom : boxWidth ≤ rows * columns * boxWidth :=
    Nat.le_mul_of_pos_left _ (Nat.pos_of_mul_pos_right hsize)
  have hregion : 0 < boxWidth := by decide
  unfold Detector.suppressedObjects at h
  dsimp only at h
  rw [if_neg (by simpa using hlength)] at h
  obtain ⟨countShape, hmem, hcounts, h⟩ := exists_of_findsOutputs_frameOfOnes h
  rw [hones, detectionCount_replicate (hfit countShape hmem).1, FindsOutputs,
    FailsOnly.ok_bind_iff, if_neg (by decide)] at h
  obtain ⟨boxShape, -, hboxes', h⟩ := exists_of_findsOutputs_frameOfOnes h
  cases hboxes.symm.trans hboxes'
  rw [hones, lastIndex_one hregion (by decide), FindsOutputs, FailsOnly.ok_bind_iff, hproduct,
    floatsCovering_replicate (by omega), FailsOnly.ok_bind_iff] at h
  obtain ⟨scoreShape, hmem, hscores, h⟩ := exists_of_findsOutputs_frameOfOnes h
  rw [hones, floatsCovering_replicate (hfit scoreShape hmem).1, FindsOutputs,
    FailsOnly.ok_bind_iff] at h
  obtain ⟨classShape, -, hclasses, -⟩ := exists_of_findsOutputs_frameOfOnes h
  exact ⟨(List.getElem?_eq_some_iff.1 hcounts).1, (List.getElem?_eq_some_iff.1 hscores).1,
    (List.getElem?_eq_some_iff.1 hclasses).1⟩

lemma lt_of_findsOutputs_pyramidObjects
    (hfit : ∀ shape ∈ shapes, 0 < extentProduct shape ∧ extentProduct shape < UInt64.size)
    (hcheck : s.checkPyramid shapes = .ok ())
    (h : FindsOutputs ((Detector.mk s).pyramidObjects (s.frameOfOnes shapes) extent)) :
    s.boxOutput < shapes.length := by
  obtain ⟨hlength, rows, hboxes⟩ := checkPyramid_eq_ok hcheck
  have hproduct : extentProduct [rows, pyramidBoxWidth] = rows * pyramidBoxWidth := by
    simp [extentProduct]
  have hsize := hfit _ (List.mem_of_getElem? hboxes)
  rw [hproduct] at hsize
  -- If the classes are looked up where the rectangles are, they are there.
  by_cases hsame : s.countOutput = s.boxOutput
  · rw [← hsame]
    exact (List.getElem?_eq_some_iff.1 hboxes).1
  unfold Detector.pyramidObjects at h
  dsimp only at h
  rw [if_neg (by simpa using hlength)] at h
  obtain ⟨boxShape, -, hboxes', h⟩ := exists_of_findsOutputs_frameOfOnes h
  cases hboxes.symm.trans hboxes'
  rw [ones_of_not_integer (by simp [hsame]), hproduct] at h
  split at h
  · rename_i hnone
    exact absurd hnone (Nat.pos_of_mul_pos_right hsize.1).ne'
  simp only [List.head?_cons, Option.getD_some] at h
  rw [lastIndex_eq_ok hsize.1 hsize.2, FindsOutputs, FailsOnly.ok_bind_iff,
    floatsCovering_replicate (by omega), FailsOnly.ok_bind_iff] at h
  obtain ⟨classShape, -, hclasses, -⟩ := exists_of_findsOutputs_frameOfOnes h
  exact (List.getElem?_eq_some_iff.1 hclasses).1

end Ones

/-! ## Which models can be decoded -/

section Models

variable {s : Settings} {shapes : List (List ℕ)} {d : Detector}

/-- A frame is decoded if its outputs are as many as decoding takes, and if the positions that
are not checked when the detector is built are positions of outputs. -/
lemma findsOutputs_decode (hchecks : s.classes.checksModel = true) (hne : shapes ≠ [])
    (hbuild : Detector.build s shapes = .ok d)
    (hcount : s.mode = .perClass → shapes.length ≠ outputCount - 1)
    (hunchecked : ∀ index ∈ s.uncheckedOutputs, index < shapes.length)
    {outputs : List Tensor} (hframe : IsFrameOf s shapes outputs) {extent : Extent}
    (hmodel : extent.modelWidth ≠ 0 ∧ extent.modelHeight ≠ 0) :
    FindsOutputs (d.decode outputs extent) := by
  obtain ⟨hcheck, rfl⟩ := checkShapes_of_build hne hbuild
  have hlength : outputs.length = shapes.length := by
    rw [← hframe.shapes_eq, List.length_map]
  have hmodel' : extent.checkModel = .ok () := if_neg (by simp [hmodel])
  unfold Settings.checkShapes at hcheck
  unfold Settings.uncheckedOutputs at hunchecked
  unfold Detector.decode
  rw [hmodel', FindsOutputs, FailsOnly.ok_bind_iff]
  rw [← hlength] at hcount hunchecked
  dsimp only
  cases hmode : s.mode with
  | perClass =>
    simp only [hmode, hchecks, if_true, List.forall_mem_cons] at hcheck hunchecked
    obtain ⟨hleast, rows, columns, hboxes⟩ := checkPerClass_eq_ok hcheck
    have hboxes' := (List.getElem?_eq_some_iff.1 hboxes).1
    have hmore := hcount hmode
    exact findsOutputs_perClassObjects (by omega) hunchecked.1 (hlength ▸ hboxes')
      hunchecked.2.1
  | suppressed =>
    simp only [hmode, hchecks, if_true, List.forall_mem_cons] at hcheck hunchecked
    obtain ⟨hleast, rows, columns, hboxes⟩ := checkSuppressed_eq_ok hcheck
    have hboxes' := (List.getElem?_eq_some_iff.1 hboxes).1
    exact findsOutputs_suppressedObjects (hlength ▸ hleast) hunchecked.1 (hlength ▸ hboxes')
      hunchecked.2.1 hunchecked.2.2.1
  | pyramid =>
    simp only [hmode, List.forall_mem_cons] at hcheck hunchecked
    obtain ⟨hexact, rows, hboxes⟩ := checkPyramid_eq_ok hcheck
    have hboxes' := (List.getElem?_eq_some_iff.1 hboxes).1
    exact findsOutputs_pyramidObjects (hlength ▸ hexact) (hlength ▸ hboxes') hunchecked.1

/-- If the frame of ones is decoded, then there are as many outputs as decoding takes, and all
positions are positions of outputs. -/
lemma lt_of_findsOutputs_decode (hchecks : s.classes.checksModel = true) (hne : shapes ≠ [])
    (hbuild : Detector.build s shapes = .ok d)
    (hfit : ∀ shape ∈ shapes, 0 < extentProduct shape ∧ extentProduct shape < UInt64.size)
    {extent : Extent} (hmodel : extent.modelWidth ≠ 0 ∧ extent.modelHeight ≠ 0)
    (h : FindsOutputs (d.decode (s.frameOfOnes shapes) extent)) :
    (s.mode = .perClass → shapes.length ≠ outputCount - 1) ∧
      ∀ index ∈ s.uncheckedOutputs, index < shapes.length := by
  obtain ⟨hcheck, rfl⟩ := checkShapes_of_build hne hbuild
  have hmodel' : extent.checkModel = .ok () := if_neg (by simp [hmodel])
  unfold Settings.checkShapes at hcheck
  unfold Settings.uncheckedOutputs
  unfold Detector.decode at h
  rw [hmodel', FindsOutputs, FailsOnly.ok_bind_iff] at h
  dsimp only at h
  cases hmode : s.mode with
  | perClass =>
    simp only [hmode, hchecks, if_true] at hcheck h
    obtain ⟨hcount, hcounts, hscores⟩ := lt_of_findsOutputs_perClassObjects hmode hfit hcheck h
    refine ⟨fun _ hequal => ?_, by simp [hcounts, hscores]⟩
    rw [hequal] at hcount
    exact absurd hcount (by decide)
  | suppressed =>
    simp only [hmode, hchecks, if_true] at hcheck h
    obtain ⟨hcounts, hscores, hclasses⟩ :=
      lt_of_findsOutputs_suppressedObjects hmode hfit hcheck h
    exact ⟨by simp, by simp [hcounts, hscores, hclasses]⟩
  | pyramid =>
    simp only [hmode] at hcheck h
    have hclasses := lt_of_findsOutputs_pyramidObjects hfit hcheck h
    exact ⟨by simp, by simp [hclasses]⟩

/-- **The outputs of an admitted model are found in every frame**, if there is one more than
the least number that is admitted where classes are scored apart, and if the positions that are
not checked beforehand are positions of outputs.  If all outputs have room for something,
nothing less will do. -/
theorem forall_findsOutputs_decode (hchecks : s.classes.checksModel = true) (hne : shapes ≠ [])
    (hbuild : Detector.build s shapes = .ok d) :
    ((s.mode = .perClass → shapes.length ≠ outputCount - 1) ∧
        (∀ index ∈ s.uncheckedOutputs, index < shapes.length) →
      ∀ outputs extent, IsFrameOf s shapes outputs →
        extent.modelWidth ≠ 0 ∧ extent.modelHeight ≠ 0 →
          FindsOutputs (d.decode outputs extent)) ∧
    ((∀ shape ∈ shapes, 0 < extentProduct shape ∧ extentProduct shape < UInt64.size) →
      (∀ outputs extent, IsFrameOf s shapes outputs →
        extent.modelWidth ≠ 0 ∧ extent.modelHeight ≠ 0 →
          FindsOutputs (d.decode outputs extent)) →
      (s.mode = .perClass → shapes.length ≠ outputCount - 1) ∧
        ∀ index ∈ s.uncheckedOutputs, index < shapes.length) := by
  constructor
  · rintro ⟨hcount, hunchecked⟩ outputs extent hframe hmodel
    exact findsOutputs_decode hchecks hne hbuild hcount hunchecked hframe hmodel
  · intro hfit hall
    have hunit : (1 : ℕ) ≠ 0 ∧ (1 : ℕ) ≠ 0 := ⟨Nat.one_ne_zero, Nat.one_ne_zero⟩
    exact lt_of_findsOutputs_decode hchecks hne hbuild hfit hunit
      (hall _ ⟨1, 1, 1, 1⟩ (isFrameOf_frameOfOnes s shapes) hunit)

end Models

/-- Settings of a network that scores two classes apart. -/
def twoScoredClasses : Detection.Settings :=
  .ofList [("CLASS_NUM", "3")]

/-- What these settings say. -/
def scoresTwoClasses : Settings where
  classes := ⟨3, 0.3, [0.3, 0.3, 0.3], true⟩
  overlapThreshold := 0.45
  mode := .perClass
  scoredClasses := 2
  countOutput := 0
  boxOutput := 1
  scoreOutput := 2
  suppressedScoreOutput := 1
  suppressedBoxOutput := 2
  suppressedClassOutput := 3

/-- The shapes of the outputs that have a role: a count, and the rectangles and scores of one
region. -/
def shapesOfRoles : List (List ℕ) :=
  [[1], [1, 1, 2, 4], [1, 1, 2]]

theorem findsOutputs_decode_shapesOfRoles :
    scoresTwoClasses.classes.checksModel = true ∧ shapesOfRoles ++ [[1]] ≠ [] ∧
      Detector.build scoresTwoClasses (shapesOfRoles ++ [[1]]) = .ok ⟨scoresTwoClasses⟩ ∧
      ∀ outputs extent, IsFrameOf scoresTwoClasses (shapesOfRoles ++ [[1]]) outputs →
        extent.modelWidth ≠ 0 ∧ extent.modelHeight ≠ 0 →
          FindsOutputs ((Detector.mk scoresTwoClasses).decode outputs extent) := by
  have hbuild : Detector.build scoresTwoClasses (shapesOfRoles ++ [[1]]) =
      .ok ⟨scoresTwoClasses⟩ := rfl
  refine ⟨rfl, by simp, hbuild, ?_⟩
  exact (forall_findsOutputs_decode rfl (by simp) hbuild).1 ⟨by decide, by decide⟩

/-- A model with the outputs that have a role and no more is admitted, and no frame of it is
decoded. -/
theorem not_findsOutputs_decode_shapesOfRoles :
    ¬ ∀ (c : Detection.Settings) (s : Settings) (shapes : List (List ℕ)) (d : Detector)
        (outputs : List Tensor) (extent : Extent),
      Settings.ofSettings c = .ok s → s.classes.checksModel = true → shapes ≠ [] →
        Detector.build s shapes = .ok d → IsFrameOf s shapes outputs →
          extent.modelWidth ≠ 0 ∧ extent.modelHeight ≠ 0 →
            FindsOutputs (d.decode outputs extent) := by
  intro hall
  have hbuild : Detector.build scoresTwoClasses shapesOfRoles = .ok ⟨scoresTwoClasses⟩ := rfl
  have hfinds := hall twoScoredClasses scoresTwoClasses shapesOfRoles ⟨scoresTwoClasses⟩
    (scoresTwoClasses.frameOfOnes shapesOfRoles) ⟨128, 128, 128, 128⟩ rfl rfl
    (by simp [shapesOfRoles]) hbuild (isFrameOf_frameOfOnes scoresTwoClasses shapesOfRoles)
    (by simp)
  have hfails : (Detector.mk scoresTwoClasses).decode
      (scoresTwoClasses.frameOfOnes shapesOfRoles) ⟨128, 128, 128, 128⟩ =
        .error (.region (.outputCount 3 4)) := rfl
  exact hfinds _ hfails trivial

end FasterRcnn
end Detection
