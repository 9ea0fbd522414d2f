/-
# The overlap of two boxes, either way round

How much two boxes overlap does not depend on which of them is named first.  The edges of what
they share may differ by the sign of a zero, and so may the shared area, but neither the
comparisons that end the calculation early nor the areas that are divided by can tell.  Hence
boxes that are left of one class do not overlap too much whichever of them is asked, although the
sieve has only ever asked the better one.

The main result is `alike_overlap_comm`.
-/
import Detection.Proofs.Box.Suppression
import Detection.Proofs.Number.Symmetry

namespace Detection
namespace Box

variable {measure : OverlapMeasure} {threshold : Float32} {a b : Box}

/-! ## The shared area -/

/-- Either both boxes are said to be apart, or the areas that they share are alike. -/
lemma sharedArea?_comm (a b : Box) :
    Option.Rel Float32.Alike (sharedArea? a b) (sharedArea? b a) := by
  have hleft := Float32.alike_greatest32_comm a.corners.left b.corners.left
  have hright := Float32.alike_least32_comm a.corners.right b.corners.right
  have htop := Float32.alike_greatest32_comm a.corners.top b.corners.top
  have hbottom := Float32.alike_least32_comm a.corners.bottom b.corners.bottom
  simp only [sharedArea?, Bool.or_eq_true, decide_eq_true_eq]
  have hapart := or_congr (hbottom.lt_iff htop) (hright.lt_iff hleft)
  split_ifs with h h' h'
  · exact .none
  · exact absurd (hapart.1 h) h'
  · exact absurd (hapart.2 h') h
  · exact .some ((hright.sub hleft).mul (hbottom.sub htop))

/-! ## What it is compared with -/

lemma enclosingDiagonal_comm (a b : Box) : enclosingDiagonal a b = enclosingDiagonal b a := by
  have hwidth := (Float32.alike_greatest32_comm a.corners.right b.corners.right).sub
    (Float32.alike_least32_comm a.corners.left b.corners.left)
  have hheight := (Float32.alike_greatest32_comm a.corners.bottom b.corners.bottom).sub
    (Float32.alike_least32_comm a.corners.top b.corners.top)
  simp only [enclosingDiagonal, square]
  rw [hwidth.mul_self, hheight.mul_self]

lemma centreDistance_comm (a b : Box) : centreDistance a b = centreDistance b a := by
  simp only [centreDistance, square]
  rw [Float32.mul_self_sub_comm a.x, Float32.mul_self_sub_comm a.y]

/-- What is divided by is no zero, so the ratios of what is alike are alike. -/
lemma alike_ratio {s t r r' : Float32} (hshared : Float32.Alike s t)
    (hreference : Float32.Alike r r') :
    Float32.Alike (if Scalar.isTiny r then 0.0 else s / r)
      (if Scalar.isTiny r' then 0.0 else t / r') := by
  rw [← hreference.isTiny_eq]
  split
  · exact .inl rfl
  · rename_i hproper
    obtain rfl := hreference.resolve_right fun hzero => hproper hzero.1.isTiny
    exact hshared.div_right r

lemma alike_overlapOfShared {s t : Float32} (h : Float32.Alike s t) :
    Float32.Alike (overlapOfShared measure a b s) (overlapOfShared measure b a t) := by
  have hunion : Float32.Alike (a.area + b.area - s) (b.area + a.area - t) := by
    rw [Float32.add_comm a.area]
    exact .sub (.inl rfl) h
  cases measure with
  | union => exact alike_ratio h hunion
  | larger => exact alike_ratio h (Float32.alike_greatest32_comm a.area b.area)
  | smaller => exact alike_ratio h (Float32.alike_least32_comm a.area b.area)
  | distance =>
    simp only [overlapOfShared]
    rw [enclosingDiagonal_comm a b, centreDistance_comm a b, ← hunion.isTiny_eq]
    split
    · exact .inl rfl
    · rename_i hproper
      rw [Bool.or_eq_true, not_or] at hproper
      obtain hsame := hunion.resolve_right fun hzero => hproper.1 hzero.1.isTiny
      rw [← hsame]
      exact (h.div_right _).sub (.inl rfl)

/-- The overlaps of two boxes either way round are alike. -/
theorem alike_overlap_comm (measure : OverlapMeasure) (a b : Box) :
    Float32.Alike (overlap measure a b) (overlap measure b a) := by
  have hshared := sharedArea?_comm a b
  unfold overlap
  generalize sharedArea? a b = shared at hshared ⊢
  generalize sharedArea? b a = shared' at hshared ⊢
  cases hshared with
  | none => exact .inl rfl
  | some h => exact alike_overlapOfShared h

/-- The sign of a zero may still depend on which of two boxes is named first. -/
example :
    let empty : Box := ⟨-0.0, 0.0, -0.0, 2.0, 0, 0.5⟩
    let proper : Box := ⟨-1.0, 0.0, 2.0, 2.0, 0, 0.5⟩
    overlap .larger empty proper = -0.0 ∧ overlap .larger proper empty = 0.0 := by
  decide

/-! ## Boxes that are left -/

/-- No two of some boxes that belong to one class overlap more than is allowed, whichever of the
two is named first. -/
def AreApart (measure : OverlapMeasure) (threshold : Float32) (boxes : List Box) : Prop :=
  ∀ i j, ∀ hi : i < boxes.length, ∀ hj : j < boxes.length, i ≠ j →
    boxes[i].classId = boxes[j].classId → ¬ threshold < overlap measure boxes[i] boxes[j]

lemma lt_overlap_comm :
    threshold < overlap measure a b ↔ threshold < overlap measure b a :=
  Float32.Alike.lt_iff (.inl rfl) (alike_overlap_comm measure a b)

/-- It is enough that no box overlaps a later one too much. -/
lemma areApart_of_pairwise {boxes : List Box}
    (h : boxes.Pairwise fun a b => a.classId = b.classId → ¬ threshold < overlap measure a b) :
    AreApart measure threshold boxes := by
  intro i j hi hj hne hclass
  rw [List.pairwise_iff_getElem] at h
  rcases Nat.lt_or_gt_of_ne hne with hlt | hgt
  · exact h i j hi hj hlt hclass
  · rw [lt_overlap_comm]
    exact h j i hj hi hgt hclass.symm

/-- **Overlap does not depend on the order of the boxes.**  Under every measure the overlaps of
two boxes either way round are both missing, or they compare equal, whatever numbers the boxes are
made of.  So although a box is only ever compared with those that were kept before it, no two
boxes of one class that suppression leaves overlap more than is allowed, whichever of them is
named first. -/
theorem overlap_comm_and_areApart_suppress :
    (∀ (measure : OverlapMeasure) (a b : Box),
      (overlap measure a b).isNaN = true ∧ (overlap measure b a).isNaN = true ∨
        (overlap measure a b == overlap measure b a) = true) ∧
      ∀ (measure : OverlapMeasure) (threshold : Float32) (boxes : List Box),
        AreApart measure threshold (suppress measure threshold boxes) ∧
          AreApart measure threshold (suppressByArea measure threshold boxes) := by
  constructor
  · intro measure a b
    exact (alike_overlap_comm measure a b).isNaN_or_beq
  · intro measure threshold boxes
    exact ⟨areApart_of_pairwise apart_suppressBy, areApart_of_pairwise apart_suppressBy⟩

end Box
end Detection
