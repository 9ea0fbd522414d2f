/-
# Leaving out weak boxes

A box can suppress others of no higher priority only.  So the boxes above a mark can be selected
before suppression or after it, as long as the mark goes by priority: what is below it has no
say about what is above.

## Main definitions

* `IsUpward`: boxes have a property if boxes of no higher priority have it.

The main results are `suppressBy_filter` and, for objects, `suppress_filter`.
-/
import Detection.Proofs.Box.Suppression
import Detection.Proofs.Number.Rank
import Mathlib.Data.List.Sort

namespace Detection

lemma flatMap_filter_of_eq_nil {α β : Type} {p : α → Bool} {f : α → List β} {list : List α}
    (h : ∀ a ∈ list, ¬ p a → f a = []) : (list.filter p).flatMap f = list.flatMap f := by
  induction list with
  | nil => rfl
  | cons a rest ih =>
    have hrest := ih fun b hb => h b (List.mem_cons_of_mem a hb)
    by_cases ha : p a
    · simp [ha, hrest]
    · simp [ha, hrest, h a List.mem_cons_self ha]

namespace Box

variable {priority : Box → Float32} {measure : OverlapMeasure} {threshold : Float32}
  {boxes : List Box} {q : Box → Bool}

/-- With a box that has the property, all given boxes of no lower priority have it. -/
def IsUpward (priority : Box → Float32) (q : Box → Bool) (boxes : List Box) : Prop :=
  ∀ a ∈ boxes, ∀ b ∈ boxes, q a → rank (priority a) ≤ rank (priority b) → q b

lemma IsUpward.sublist {boxes' : List Box} (h : IsUpward priority q boxes)
    (hsub : boxes'.Sublist boxes) : IsUpward priority q boxes' := by
  intro a ha b hb
  exact h a (hsub.subset ha) b (hsub.subset hb)

/-- In a ranking, no box has the property after one that lacks it. -/
lemma IsUpward.pairwise_prioritised (h : IsUpward priority q boxes) :
    (prioritised priority boxes).Pairwise fun a b => q b → q a := by
  have hdescending := (isRanking_prioritised priority boxes).descending
  refine hdescending.imp_of_mem ?_
  intro a b ha hb hle hqb
  have ha' := (prioritised_perm boxes).mem_iff.1 ha
  have hb' := (prioritised_perm boxes).mem_iff.1 hb
  exact h b hb' a ha' hqb hle

lemma ofClass_filter (c : ℕ) : ofClass c (boxes.filter q) = (ofClass c boxes).filter q :=
  List.filter_comm _ _ boxes

lemma keptOfClass_filter (h : IsUpward priority q boxes) (c : ℕ) :
    keptOfClass priority measure threshold (boxes.filter q) c =
      (keptOfClass priority measure threshold boxes c).filter q := by
  have hclass : IsUpward priority q (ofClass c boxes) := h.sublist List.filter_sublist
  unfold keptOfClass filterOverlapping sieve
  rw [ofClass_filter, prioritised_filter, filter_sieveFrom_of_pairwise hclass.pairwise_prioritised]

/-- A class of which there is no proper box leaves nothing. -/
lemma keptOfClass_eq_nil {c : ℕ} (h : c ∉ classes boxes) :
    keptOfClass priority measure threshold boxes c = [] := by
  rw [List.eq_nil_iff_forall_not_mem]
  intro b hb
  have hmem := (prioritised_perm _).mem_iff.1 ((keptOfClass_sublist c).subset hb)
  obtain ⟨hb', hproper, hclass⟩ := mem_ofClass.1 hmem
  exact h (mem_classes.2 ⟨b, hb', hproper, hclass⟩)

/-- The classes of selected boxes are among the classes of all, in the same order. -/
lemma classes_filter :
    classes (boxes.filter q) =
      (classes boxes).filter fun c => decide (c ∈ classes (boxes.filter q)) := by
  have hsub : ∀ c ∈ classes (boxes.filter q), c ∈ classes boxes := by
    intro c hc
    obtain ⟨b, hb, hproper, hclass⟩ := mem_classes.1 hc
    exact mem_classes.2 ⟨b, List.mem_of_mem_filter hb, hproper, hclass⟩
  have hselected := pairwise_classes (boxes.filter q)
  have hall := (pairwise_classes boxes).filter fun c => decide (c ∈ classes (boxes.filter q))
  refine hselected.eq_of_mem_iff hall ?_
  intro c
  simp only [List.mem_filter, decide_eq_true_eq]
  exact ⟨fun hc => ⟨hsub c hc, hc⟩, fun hc => hc.2⟩

/-- **Boxes above a mark can be selected before suppression or after it.** -/
theorem suppressBy_filter (h : IsUpward priority q boxes) :
    suppressBy priority measure threshold (boxes.filter q) =
      (suppressBy priority measure threshold boxes).filter q := by
  rw [suppressBy_eq, suppressBy_eq, List.filter_flatMap, classes_filter]
  have hkept : ∀ c, (keptOfClass priority measure threshold boxes c).filter q =
      keptOfClass priority measure threshold (boxes.filter q) c :=
    fun c => (keptOfClass_filter h c).symm
  simp only [hkept]
  refine flatMap_filter_of_eq_nil fun c _ hc => ?_
  exact keptOfClass_eq_nil (by simpa using hc)

end Box

/-! ## Objects -/

namespace DetectedObject

/-- Objects whose confidence is above a mark can be selected before suppression or after it. -/
theorem suppress_filter {measure : OverlapMeasure} {threshold mark : Float32}
    {objects found : List DetectedObject} (hthere : ∀ o ∈ objects, o.confidence.isNaN = false)
    (h : suppress measure threshold objects = .ok found) :
    suppress measure threshold (objects.filter fun o => mark < o.confidence) =
      .ok (found.filter fun o => mark < o.confidence) := by
  have hupward : Box.IsUpward (·.score) (fun b => mark < b.score) (objects.map toBox) := by
    intro a _ b hb ha hle
    obtain ⟨o, ho, rfl⟩ := List.mem_map.1 hb
    simp only [decide_eq_true_eq] at ha ⊢
    exact Float32.lt_of_lt_of_rank_le ha hle (hthere o ho)
  have hboxes : (objects.filter fun o => mark < o.confidence).map toBox =
      (objects.map toBox).filter fun b => mark < b.score := by
    rw [List.filter_map]
    rfl
  have hfound : found.filter (fun o => mark < o.confidence) =
      ((Box.suppress measure threshold (objects.map toBox)).filter
        fun b => mark < b.score).map ofBox := by
    rw [eq_map_of_suppress_eq_ok h, List.filter_map]
    rfl
  have hplaces : objects.all fun o => o.corners.toList.all isOnPicture := by
    unfold suppress at h
    split at h
    · assumption
    · cases h
  unfold suppress
  rw [if_pos, hboxes, hfound]
  · exact congrArg (fun boxes => Except.ok (boxes.map ofBox)) (Box.suppressBy_filter hupward)
  · rw [List.all_eq_true] at hplaces ⊢
    intro o ho
    exact hplaces o (List.mem_of_mem_filter ho)

end DetectedObject

end Detection
