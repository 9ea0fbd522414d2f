/-
# When tensors can be read

Reading a tensor succeeds in one way only: it is there, its elements are of the kind asked for,
and the buffer reaches as far as will be read.
-/
import Detection.Proofs.Outcome
import Detection.Tensor

namespace Detection

/-! ## Buffers -/

lemma element_eq_ok_iff {α : Type} {values : Array α} {index : ℕ} {a : α} :
    element values index = .ok a ↔ values[index]? = some a := by
  unfold element
  cases values[index]? with
  | none => simp
  | some value => simp

lemma covering_eq_ok_iff {α : Type} {values covered : Array α} {index : ℕ} :
    covering index values = .ok covered ↔ values = covered ∧ index < values.size := by
  unfold covering
  split
  · rename_i hshort
    simp [hshort]
  · rename_i hlong
    simp only [Except.ok.injEq]
    exact ⟨fun h => ⟨h, Nat.lt_of_not_le hlong⟩, fun h => h.1⟩

/-- Of the elements of a tensor there has to be one. -/
lemma ite_isEmpty_eq_ok_iff {α : Type} {values all : Array α} {fault : Fault} :
    (if values.isEmpty then .error fault else .ok values) = Except.ok all ↔
      values = all ∧ 0 < all.size := by
  by_cases hempty : values.isEmpty
  · have hsize : values.size = 0 := by simpa using hempty
    simp only [hempty, if_true, reduceCtorEq, false_iff]
    rintro ⟨rfl, hpos⟩
    omega
  · have hsize : 0 < values.size := by
      rw [Array.size_pos_iff]
      simpa using hempty
    rw [if_neg hempty]
    simp only [Except.ok.injEq]
    exact ⟨fun h => ⟨h, h ▸ hsize⟩, fun h => h.1⟩

/-! ## Tensors -/

lemma tensorAt_eq_ok_iff {tensors : List Tensor} {index : ℕ} {t : Tensor} :
    tensorAt tensors index = .ok t ↔ tensors[index]? = some t := by
  unfold tensorAt
  cases tensors[index]? with
  | none => simp
  | some tensor => simp

namespace Tensor

variable {t : Tensor} {index : ℕ}

lemma floats_eq_ok_iff {values : Array Float32} :
    t.floats = .ok values ↔ t.data = .float values ∧ 0 < values.size := by
  unfold floats
  cases t.data with
  | float all => simp only [ite_isEmpty_eq_ok_iff, TensorData.float.injEq]
  | integer all => simp

lemma integers_eq_ok_iff {values : Array Int64} :
    t.integers = .ok values ↔ t.data = .integer values ∧ 0 < values.size := by
  unfold integers
  cases t.data with
  | integer all => simp only [ite_isEmpty_eq_ok_iff, TensorData.integer.injEq]
  | float all => simp

/-- Numbers are read as far as an index exactly if the buffer holds numbers and that many. -/
theorem floatsCovering_eq_ok_iff {values : Array Float32} :
    t.floatsCovering index = .ok values ↔ t.data = .float values ∧ index < values.size := by
  constructor
  · intro h
    obtain ⟨all, hall, h⟩ := exists_of_bind_eq_ok h
    obtain ⟨rfl, hlt⟩ := covering_eq_ok_iff.1 h
    exact ⟨(floats_eq_ok_iff.1 hall).1, hlt⟩
  · rintro ⟨hdata, hlt⟩
    have hall := floats_eq_ok_iff.2 ⟨hdata, Nat.zero_lt_of_lt hlt⟩
    unfold floatsCovering
    rw [hall]
    exact covering_eq_ok_iff.2 ⟨rfl, hlt⟩

lemma floatsCovering_of_lt {shape : List ℕ} {values : Array Float32}
    (h : index < values.size) :
    (Tensor.mk shape (.float values)).floatsCovering index = .ok values :=
  floatsCovering_eq_ok_iff.2 ⟨rfl, h⟩

/-- Integers are read as far as an index exactly if the buffer holds integers and that many. -/
theorem integersCovering_eq_ok_iff {values : Array Int64} :
    t.integersCovering index = .ok values ↔ t.data = .integer values ∧ index < values.size := by
  constructor
  · intro h
    obtain ⟨all, hall, h⟩ := exists_of_bind_eq_ok h
    obtain ⟨rfl, hlt⟩ := covering_eq_ok_iff.1 h
    exact ⟨(integers_eq_ok_iff.1 hall).1, hlt⟩
  · rintro ⟨hdata, hlt⟩
    have hall := integers_eq_ok_iff.2 ⟨hdata, Nat.zero_lt_of_lt hlt⟩
    unfold integersCovering
    rw [hall]
    exact covering_eq_ok_iff.2 ⟨rfl, hlt⟩

end Tensor

end Detection
