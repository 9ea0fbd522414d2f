/-
# Whose fault it is

What was given to a decoder can be wrong in many ways: tensors are missing or too short, there is
nothing in them or nothing of the right kind, sizes are zero, rectangles lie outside of every
picture.  The decoder itself is at fault only if it reads an element outside of a buffer.

## Main definitions

* `Fault.IsOfReading`: a fault says that a buffer is not what it is taken for.
* `Fault.IsOfInput`: a fault says that what was given does not fit.
* `Fault.IsOfInputOrSize`: a fault says so, or that something is too much to be counted.
-/
import Detection.Object
import Detection.Proofs.Outcome
import Detection.Proofs.Overflow
import Detection.Tensor
import Mathlib.Data.Nat.Notation

namespace Detection

/-! ## Kinds of fault -/

/-- A buffer is empty, holds elements of another kind, or does not reach far enough. -/
def Fault.IsOfReading : Fault → Prop
  | .tensor .empty => True
  | .tensor .notFloat => True
  | .tensor .notInteger => True
  | .tensor (.short _ _) => True
  | _ => False

/-- What was given is at fault: neither the decoder is, nor what was asked for. -/
def Fault.IsOfInput (fault : Fault) : Prop :=
  fault.kind = .parameter ∨ fault.kind = .buffer

@[simp] lemma Fault.isOfInput_yolo (fault : YoloFault) : (Fault.yolo fault).IsOfInput :=
  Or.inl rfl

@[simp] lemma Fault.isOfInput_region (fault : RegionFault) : (Fault.region fault).IsOfInput :=
  Or.inl rfl

lemma Fault.IsOfReading.isOfInput {fault : Fault} (h : fault.IsOfReading) : fault.IsOfInput := by
  unfold Fault.IsOfReading at h
  split at h
  all_goals first | exact h.elim | simp [Fault.IsOfInput, Fault.kind]

/-- What was given does not fit, or is too much to be counted in words. -/
def Fault.IsOfInputOrSize (fault : Fault) : Prop :=
  fault.IsOfInput ∨ fault.IsOverflow

@[simp] lemma Fault.isOfInputOrSize_yolo (fault : YoloFault) :
    (Fault.yolo fault).IsOfInputOrSize :=
  .inl (Fault.isOfInput_yolo fault)

lemma FailsOnly.ofInputOrSize {α : Type} {x : Except Fault α} (h : FailsOnly Fault.IsOfInput x) :
    FailsOnly Fault.IsOfInputOrSize x :=
  h.mono fun _ => .inl

lemma FailsOnly.ofSize {α : Type} {x : Except Fault α} (h : FailsOnly Fault.IsOverflow x) :
    FailsOnly Fault.IsOfInputOrSize x :=
  h.mono fun _ => .inr

lemma FailsOnly.ofInput {α : Type} {x : Except Fault α} (h : FailsOnly Fault.IsOfReading x) :
    FailsOnly Fault.IsOfInput x :=
  h.mono fun _ => Fault.IsOfReading.isOfInput

/-! ## Reading tensors -/

lemma failsOnly_covering {α : Type} (index : ℕ) (values : Array α) :
    FailsOnly Fault.IsOfReading (covering index values) := by
  unfold covering
  split <;> simp [Fault.IsOfReading]

/-- A tensor can only be missing. -/
lemma failsOnly_tensorAt (tensors : List Tensor) (index : ℕ) :
    FailsOnly Fault.IsOfInput (tensorAt tensors index) := by
  unfold tensorAt
  split <;> simp [Fault.IsOfInput, Fault.kind]

lemma Extent.failsOnly_checkModel (e : Extent) : FailsOnly Fault.IsOfInput e.checkModel := by
  unfold checkModel
  split <;> simp [Fault.IsOfInput, Fault.kind]

namespace Tensor

variable (t : Tensor) (index : ℕ)

lemma failsOnly_floats : FailsOnly Fault.IsOfReading t.floats := by
  unfold floats
  split
  · split <;> simp [Fault.IsOfReading]
  · simp [Fault.IsOfReading]

lemma failsOnly_integers : FailsOnly Fault.IsOfReading t.integers := by
  unfold integers
  split
  · split <;> simp [Fault.IsOfReading]
  · simp [Fault.IsOfReading]

lemma failsOnly_floatsCovering : FailsOnly Fault.IsOfReading (t.floatsCovering index) :=
  t.failsOnly_floats.bind fun values _ => failsOnly_covering index values

lemma failsOnly_integersCovering : FailsOnly Fault.IsOfReading (t.integersCovering index) :=
  t.failsOnly_integers.bind fun values _ => failsOnly_covering index values

end Tensor

/-! ## Objects -/

lemma DetectedObject.failsOnly_suppress (measure : OverlapMeasure) (threshold : Float32)
    (objects : List DetectedObject) :
    FailsOnly Fault.IsOfInput (suppress measure threshold objects) := by
  unfold suppress
  split <;> simp [Fault.IsOfInput, Fault.kind]

end Detection
