/-
# How far the order of boxes matters

Suppression goes through one class after the other, and through the proper boxes of a class by
falling priority.  The order in which boxes are given decides between equals only.  So it does
not matter how the classes are interleaved, and where no two proper boxes of a class have one
priority, the order does not matter at all.

## Main definitions

* `IsTied`: two proper boxes of one class have one priority.

The main results are `suppressBy_congr` and, for scores, `suppress_eq_of_reordered`.
-/
import Detection.Proofs.Box.Suppression
import Mathlib.Data.List.Pairwise
import Mathlib.Data.List.Sort
import Mathlib.Order.Basic

namespace Detection
namespace Box

/-- Two proper boxes of one class have one priority. -/
def IsTied (priority : Box → Float32) (a b : Box) : Prop :=
  a.isDegenerate = false ∧ b.isDegenerate = false ∧ a.classId = b.classId ∧
    rank (priority a) = rank (priority b)

variable {priority : Box → Float32} {measure : OverlapMeasure} {threshold : Float32}
  {boxes boxes' : List Box}

instance : DecidableRel (IsTied priority) :=
  fun _ _ => inferInstanceAs (Decidable (_ ∧ _ ∧ _ ∧ _))

lemma IsTied.symm {a b : Box} (h : IsTied priority a b) : IsTied priority b a :=
  ⟨h.2.1, h.1, h.2.2.1.symm, h.2.2.2.symm⟩

/-! ## The order among equals -/

/-- A ranking depends on the order among boxes of one priority only. -/
lemma prioritised_congr (h : ∀ r : ℤ, boxes.filter (fun b => rank (priority b) = r) =
      boxes'.filter fun b => rank (priority b) = r) :
    prioritised priority boxes = prioritised priority boxes' := by
  have hranking := isRanking_prioritised priority boxes
  have hranking' := isRanking_prioritised priority boxes'
  refine eq_of_filter_rank_eq hranking.descending hranking'.descending ?_
  intro r
  rw [hranking.stable r, hranking'.stable r, h r]

lemma mem_classes_iff_exists {c : ℕ} : c ∈ classes boxes ↔ ∃ b, b ∈ ofClass c boxes := by
  simp only [mem_classes, mem_ofClass]

/-- What is left depends on the order among proper boxes of one class and one priority only. -/
theorem suppressBy_congr (h : ∀ c, ∀ r : ℤ,
      (ofClass c boxes).filter (fun b => rank (priority b) = r) =
        (ofClass c boxes').filter fun b => rank (priority b) = r) :
    suppressBy priority measure threshold boxes =
      suppressBy priority measure threshold boxes' := by
  have hclasses : classes boxes = classes boxes' := by
    refine (pairwise_classes boxes).eq_of_mem_iff (pairwise_classes boxes') ?_
    intro c
    rw [mem_classes_iff_exists, mem_classes_iff_exists]
    exact exists_congr (mem_iff_of_filter_rank_eq (h c))
  have hkept : keptOfClass priority measure threshold boxes =
      keptOfClass priority measure threshold boxes' := by
    funext c
    unfold keptOfClass
    rw [prioritised_congr (h c)]
  rw [suppressBy_eq, suppressBy_eq, hclasses, hkept]

/-! ## Reordered boxes -/

/-- Classes may be interleaved in any way. -/
lemma suppressBy_eq_of_interleaved
    (h : ∀ c, boxes.filter (fun b => b.classId == c) = boxes'.filter fun b => b.classId == c) :
    suppressBy priority measure threshold boxes =
      suppressBy priority measure threshold boxes' := by
  have hclass : ∀ c, ofClass c boxes = ofClass c boxes' := by
    intro c
    -- Whether a box is proper does not depend on where it stands.
    have hproper := congrArg (List.filter fun b => !b.isDegenerate) (h c)
    rwa [List.filter_filter, List.filter_filter] at hproper
  refine suppressBy_congr ?_
  intro c r
  rw [hclass c]

/-- Boxes may come in any order if only copies of one box are tied. -/
lemma suppressBy_eq_of_perm (hties : ∀ a ∈ boxes, ∀ b ∈ boxes, IsTied priority a b → a = b)
    (hperm : boxes.Perm boxes') :
    suppressBy priority measure threshold boxes =
      suppressBy priority measure threshold boxes' := by
  refine suppressBy_congr ?_
  intro c r
  have hequals : ((ofClass c boxes).filter fun b => rank (priority b) = r).Perm
      ((ofClass c boxes').filter fun b => rank (priority b) = r) :=
    (hperm.filter _).filter _
  -- Any order is as good as any other here, because the boxes are copies of one.
  have hany : ∀ list : List Box, list.Pairwise fun _ _ => True :=
    fun _ => List.pairwise_of_forall fun _ _ => trivial
  refine List.Perm.eq_of_pairwise ?_ (hany _) (hany _) hequals
  intro a b ha hb _ _
  obtain ⟨ha, hranka⟩ := List.mem_filter.1 ha
  obtain ⟨hb, hrankb⟩ := List.mem_filter.1 (hequals.mem_iff.2 hb)
  obtain ⟨ha, hpropera, hclassa⟩ := mem_ofClass.1 ha
  obtain ⟨hb, hproperb, hclassb⟩ := mem_ofClass.1 hb
  rw [decide_eq_true_iff] at hranka hrankb
  exact hties a ha b hb
    ⟨hpropera, hproperb, hclassa.trans hclassb.symm, hranka.trans hrankb.symm⟩

/-- **The order matters among equals only.**  Boxes whose classes are interleaved in another way
leave the same; and if no two boxes are tied, so do the boxes in any other order. -/
theorem suppress_eq_of_reordered (measure : OverlapMeasure) (threshold : Float32)
    (boxes boxes' : List Box) :
    ((∀ c, boxes.filter (fun b => b.classId == c) = boxes'.filter fun b => b.classId == c) →
        suppress measure threshold boxes = suppress measure threshold boxes') ∧
      ((boxes.Pairwise fun a b => ¬ IsTied (·.score) a b) → boxes.Perm boxes' →
        suppress measure threshold boxes = suppress measure threshold boxes') := by
  refine ⟨suppressBy_eq_of_interleaved, ?_⟩
  intro hdistinct hperm
  have hsymm : Std.Symm fun a b : Box => ¬ IsTied (·.score) a b :=
    ⟨fun a b hab hba => hab hba.symm⟩
  refine suppressBy_eq_of_perm ?_ hperm
  intro a ha b hb htied
  by_contra hne
  exact hdistinct.forall ha hb hne htied

/-- Two boxes of one class, and between them one of another class. -/
def mixed : List Box :=
  [.ofCorners ⟨0.0, 0.0, 16.0, 16.0⟩ 0 0.875, .ofCorners ⟨0.0, 0.0, 16.0, 16.0⟩ 1 0.75,
    .ofCorners ⟨8.0, 0.0, 24.0, 16.0⟩ 0 0.5]

/-- The same boxes, the one of another class in front. -/
def interleaved : List Box :=
  [.ofCorners ⟨0.0, 0.0, 16.0, 16.0⟩ 1 0.75, .ofCorners ⟨0.0, 0.0, 16.0, 16.0⟩ 0 0.875,
    .ofCorners ⟨8.0, 0.0, 24.0, 16.0⟩ 0 0.5]

lemma filter_mixed (c : ℕ) :
    mixed.filter (fun b => b.classId == c) = interleaved.filter fun b => b.classId == c := by
  match c with
  | 0 => simp [mixed, interleaved, ofCorners]
  | 1 => simp [mixed, interleaved, ofCorners]
  | c + 2 => simp [mixed, interleaved, ofCorners]

theorem suppress_eq_of_reordered_mixed :
    ((∀ c, mixed.filter (fun b => b.classId == c) = interleaved.filter fun b => b.classId == c) ∧
        suppress .union 0.25 mixed = suppress .union 0.25 interleaved) ∧
      (mixed.Pairwise fun a b => ¬ IsTied (·.score) a b) ∧ mixed.Perm mixed.reverse ∧
        suppress .union 0.25 mixed = suppress .union 0.25 mixed.reverse := by
  have hdistinct : mixed.Pairwise fun a b => ¬ IsTied (·.score) a b := by decide
  have hperm : mixed.Perm mixed.reverse := (List.reverse_perm mixed).symm
  exact ⟨⟨filter_mixed, (suppress_eq_of_reordered .union 0.25 mixed interleaved).1 filter_mixed⟩,
    hdistinct, hperm,
    (suppress_eq_of_reordered .union 0.25 mixed mixed.reverse).2 hdistinct hperm⟩

end Box
end Detection
