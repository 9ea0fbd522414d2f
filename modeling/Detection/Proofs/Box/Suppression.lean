/-
# What suppression leaves of candidate boxes

The proper boxes of each class are ranked by falling priority, equals in the order given, and
a sieve goes through the ranking.  So what is left of a class is the greedy choice from its
ranking, and what is left of all boxes is one such choice after the other.

## Main definitions

* `IsRanking`: a list holds given boxes by falling priority, equals in the order given.
* `IsSuppressed`: a list is what suppression has to leave of given boxes.

The main result is that both ways of suppressing, by score and by area, leave just that:
`isSuppressed_suppress_and_suppressByArea`.
-/
import Detection.Object
import Detection.Proofs.Box.Sieve
import Mathlib.Data.Int.Notation
import Mathlib.Data.List.Perm.Subperm

namespace Detection
namespace Box

/-! ## Rankings -/

/-- A list holds given boxes from the highest priority to the lowest, and boxes of one
priority in the order given. -/
structure IsRanking (priority : Box → Float32) (boxes ranking : List Box) : Prop where
  /-- No box is lost or added. -/
  perm : ranking.Perm boxes
  /-- No box stands before one of higher priority. -/
  descending : ranking.Pairwise fun a b => rank (priority b) ≤ rank (priority a)
  /-- Boxes of one priority keep their order. -/
  stable : ∀ r : ℤ, ranking.filter (fun b => rank (priority b) = r) =
    boxes.filter fun b => rank (priority b) = r

/-- The order by which boxes are ranked. -/
def precedes (priority : Box → Float32) (a b : Box) : Bool :=
  rank (priority b) ≤ rank (priority a)

variable {priority : Box → Float32} {measure : OverlapMeasure} {threshold : Float32}
  {boxes : List Box}

lemma precedes_trans (a b c : Box) (hab : precedes priority a b) (hbc : precedes priority b c) :
    precedes priority a c := by
  simp only [precedes, decide_eq_true_eq] at hab hbc ⊢
  omega

lemma precedes_total (a b : Box) : precedes priority a b || precedes priority b a := by
  simp only [precedes, Bool.or_eq_true, decide_eq_true_eq]
  omega

lemma prioritised_eq (boxes : List Box) :
    prioritised priority boxes = boxes.mergeSort (precedes priority) := rfl

lemma prioritised_perm (boxes : List Box) : (prioritised priority boxes).Perm boxes :=
  List.mergeSort_perm boxes _

/-- Boxes of one priority are in order already, so sorting leaves them a sublist; and a sublist
of the same length is all. -/
lemma filter_prioritised (boxes : List Box) (r : ℤ) :
    (prioritised priority boxes).filter (fun b => rank (priority b) = r) =
      boxes.filter fun b => rank (priority b) = r := by
  have hsorted : (boxes.filter fun b => rank (priority b) = r).Pairwise
      fun a b => precedes priority a b := by
    refine List.pairwise_of_forall_mem_list fun a ha b hb => ?_
    have ha' := (List.mem_filter.1 ha).2
    have hb' := (List.mem_filter.1 hb).2
    simp only [precedes, decide_eq_true_eq] at ha' hb' ⊢
    omega
  have hsub := (List.sublist_mergeSort precedes_trans precedes_total hsorted
    List.filter_sublist).filter fun b => rank (priority b) = r
  rw [List.filter_filter, ← prioritised_eq] at hsub
  simp only [Bool.and_self] at hsub
  exact (hsub.eq_of_length ((prioritised_perm boxes).filter _).length_eq.symm).symm

theorem isRanking_prioritised (priority : Box → Float32) (boxes : List Box) :
    IsRanking priority boxes (prioritised priority boxes) where
  perm := prioritised_perm boxes
  descending := by
    have h : (boxes.mergeSort (precedes priority)).Pairwise fun a b => precedes priority a b :=
      List.pairwise_mergeSort precedes_trans precedes_total boxes
    exact h.imp fun hab => by simpa [precedes] using hab
  stable := filter_prioritised boxes

lemma mem_iff_of_filter_rank_eq {list list' : List Box}
    (heq : ∀ r : ℤ, list.filter (fun b => rank (priority b) = r) =
      list'.filter fun b => rank (priority b) = r) (b : Box) : b ∈ list ↔ b ∈ list' := by
  have hb := congrArg (b ∈ ·) (heq (rank (priority b)))
  simpa using hb

/-- Two lists of falling priority that hold the same boxes of each priority, in the same order,
are the same. -/
lemma eq_of_filter_rank_eq {list list' : List Box}
    (h : list.Pairwise fun a b => rank (priority b) ≤ rank (priority a))
    (h' : list'.Pairwise fun a b => rank (priority b) ≤ rank (priority a))
    (heq : ∀ r : ℤ, list.filter (fun b => rank (priority b) = r) =
      list'.filter fun b => rank (priority b) = r) : list = list' := by
  induction list generalizing list' with
  | nil =>
    have hnil : ∀ b, b ∉ list' := by simpa using mem_iff_of_filter_rank_eq heq
    exact (List.eq_nil_iff_forall_not_mem.2 hnil).symm
  | cons a rest ih =>
    have hmem := mem_iff_of_filter_rank_eq heq
    cases list' with
    | nil => exact absurd List.mem_cons_self ((hmem a).not.2 (by simp))
    | cons a' rest' =>
      obtain ⟨hfirst, hrest⟩ := List.pairwise_cons.1 h
      obtain ⟨hfirst', hrest'⟩ := List.pairwise_cons.1 h'
      -- Each of the two first boxes is in both lists, so neither ranks below the other.
      have hrank : rank (priority a) = rank (priority a') := by
        refine Int.le_antisymm ?_ ?_
        · rcases List.mem_cons.1 ((hmem a).1 List.mem_cons_self) with rfl | ha
          · exact Int.le_refl _
          · exact hfirst' a ha
        · rcases List.mem_cons.1 ((hmem a').2 List.mem_cons_self) with rfl | ha'
          · exact Int.le_refl _
          · exact hfirst a' ha'
      have hsame : a = a' := by
        have hr := heq (rank (priority a))
        simp only [List.filter_cons, hrank, decide_true, if_true] at hr
        exact (List.cons.inj hr).1
      subst hsame
      have htail : ∀ r : ℤ, rest.filter (fun b => rank (priority b) = r) =
          rest'.filter fun b => rank (priority b) = r := by
        intro r
        have hr := heq r
        by_cases ha : rank (priority a) = r
        · simpa [ha] using hr
        · simpa [ha] using hr
      rw [ih hrest hrest' htail]

/-- There is one ranking only. -/
theorem IsRanking.unique {ranking ranking' : List Box} (h : IsRanking priority boxes ranking)
    (h' : IsRanking priority boxes ranking') : ranking = ranking' :=
  eq_of_filter_rank_eq h.descending h'.descending fun r => (h.stable r).trans (h'.stable r).symm

/-- Boxes of falling priority are ranked as they are. -/
lemma prioritised_eq_self
    (h : boxes.Pairwise fun a b => rank (priority b) ≤ rank (priority a)) :
    prioritised priority boxes = boxes :=
  (isRanking_prioritised priority boxes).unique ⟨List.Perm.refl boxes, h, fun _ => rfl⟩

/-- Leaving boxes out of a ranking gives the ranking of the others. -/
lemma IsRanking.filter {ranking : List Box} (h : IsRanking priority boxes ranking)
    (q : Box → Bool) : IsRanking priority (boxes.filter q) (ranking.filter q) where
  perm := h.perm.filter q
  descending := h.descending.filter q
  stable := by
    intro r
    rw [List.filter_comm, h.stable r, List.filter_comm]

lemma prioritised_filter (q : Box → Bool) (boxes : List Box) :
    prioritised priority (boxes.filter q) = (prioritised priority boxes).filter q :=
  (isRanking_prioritised priority _).unique ((isRanking_prioritised priority boxes).filter q)

/-! ## Boxes of one class -/

lemma mem_ofClass {c : ℕ} {b : Box} :
    b ∈ ofClass c boxes ↔ b ∈ boxes ∧ b.isDegenerate = false ∧ b.classId = c := by
  simp [ofClass]

lemma mem_classes {c : ℕ} :
    c ∈ classes boxes ↔ ∃ b ∈ boxes, b.isDegenerate = false ∧ b.classId = c := by
  simp only [classes, mem_ascending, List.mem_map, List.mem_filter, Bool.not_eq_true']
  exact exists_congr fun b => and_assoc

lemma pairwise_classes (boxes : List Box) : (classes boxes).Pairwise (· < ·) :=
  pairwise_ascending _

/-- The boxes of different classes, one class after the other, are all boxes of these classes. -/
lemma perm_flatMap_ofClass {list : List ℕ} (hnodup : list.Nodup) :
    (list.flatMap fun c => ofClass c boxes).Perm
      (boxes.filter fun b => !b.isDegenerate && list.contains b.classId) := by
  induction list with
  | nil => simp
  | cons c rest ih =>
    obtain ⟨hc, hrest⟩ := List.nodup_cons.1 hnodup
    have hsplit := List.filter_append_perm (fun b : Box => b.classId == c)
      (boxes.filter fun b => !b.isDegenerate && (c :: rest).contains b.classId)
    have hfirst : (boxes.filter fun b => !b.isDegenerate && (c :: rest).contains b.classId).filter
        (fun b => b.classId == c) = ofClass c boxes := by
      rw [List.filter_filter]
      refine List.filter_congr fun b _ => ?_
      by_cases h : b.classId = c
      · simp [h]
      · simp [beq_false_of_ne h]
    have hothers : (boxes.filter fun b => !b.isDegenerate && (c :: rest).contains b.classId).filter
        (fun b => !(b.classId == c)) =
        boxes.filter fun b => !b.isDegenerate && rest.contains b.classId := by
      rw [List.filter_filter]
      refine List.filter_congr fun b _ => ?_
      by_cases h : b.classId = c
      · simp [h, hc]
      · simp [h, beq_false_of_ne h]
    rw [hfirst, hothers] at hsplit
    rw [List.flatMap_cons]
    exact ((List.Perm.refl _).append (ih hrest)).trans hsplit

/-- Every proper box belongs to one of the classes. -/
lemma filter_classes (boxes : List Box) :
    (boxes.filter fun b => !b.isDegenerate && (classes boxes).contains b.classId) =
      boxes.filter fun b => !b.isDegenerate := by
  refine List.filter_congr fun b hb => ?_
  cases hdeg : b.isDegenerate with
  | true => rfl
  | false =>
    have hmem : b.classId ∈ classes boxes := mem_classes.2 ⟨b, hb, hdeg, rfl⟩
    simpa using hmem

/-! ## What is kept of a class -/

/-- What the sieve keeps of the proper boxes of a class. -/
def keptOfClass (priority : Box → Float32) (measure : OverlapMeasure) (threshold : Float32)
    (boxes : List Box) (c : ℕ) : List Box :=
  filterOverlapping measure threshold (prioritised priority (ofClass c boxes))

lemma suppressBy_eq :
    suppressBy priority measure threshold boxes =
      (classes boxes).flatMap (keptOfClass priority measure threshold boxes) := rfl

lemma keptOfClass_sublist (c : ℕ) :
    (keptOfClass priority measure threshold boxes c).Sublist
      (prioritised priority (ofClass c boxes)) :=
  sieveFrom_sublist _ _ _

lemma classId_of_mem_keptOfClass {c : ℕ} {b : Box}
    (h : b ∈ keptOfClass priority measure threshold boxes c) : b.classId = c := by
  have hmem := (prioritised_perm _).mem_iff.1 ((keptOfClass_sublist c).subset h)
  exact (mem_ofClass.1 hmem).2.2

/-- The kept boxes are among the proper ones, none more often than there. -/
lemma suppressBy_subperm :
    (suppressBy priority measure threshold boxes).Subperm
      (boxes.filter fun b => !b.isDegenerate) := by
  have hkept : (suppressBy priority measure threshold boxes).Subperm
      ((classes boxes).flatMap fun c => ofClass c boxes) := by
    rw [suppressBy_eq]
    generalize classes boxes = list
    induction list with
    | nil => exact List.Subperm.refl _
    | cons c rest ih =>
      rw [List.flatMap_cons, List.flatMap_cons]
      exact ((keptOfClass_sublist c).subperm.trans (prioritised_perm _).subperm).append ih
  have hall : ((classes boxes).flatMap fun c => ofClass c boxes).Perm _ :=
    perm_flatMap_ofClass ((pairwise_classes boxes).imp Nat.ne_of_lt)
  rw [filter_classes] at hall
  exact hkept.trans hall.subperm

/-- What holds between two kept boxes of a class, and between boxes of ascending classes, holds
throughout what is left. -/
lemma pairwise_suppressBy {R : Box → Box → Prop}
    (hsame : ∀ c, (keptOfClass priority measure threshold boxes c).Pairwise R)
    (hother : ∀ a b : Box, a.classId < b.classId → R a b) :
    (suppressBy priority measure threshold boxes).Pairwise R := by
  rw [suppressBy_eq, List.pairwise_flatMap]
  refine ⟨fun c _ => hsame c, (pairwise_classes boxes).imp fun hlt a ha b hb => ?_⟩
  refine hother a b ?_
  rwa [classId_of_mem_keptOfClass ha, classId_of_mem_keptOfClass hb]

/-! ## What is left of all boxes -/

/-- Boxes are the greedy choice from the ranking of a group: of each box of the ranking it is
chosen exactly if no chosen box before it overlaps it more than is allowed. -/
structure IsKept (priority : Box → Float32) (measure : OverlapMeasure) (threshold : Float32)
    (group kept : List Box) : Prop where
  /-- The choice is the only greedy one, and a box that is not chosen overlaps a chosen one
  before it more than is allowed. -/
  greedy : ∃ (ranking : List Box) (chosen : ℕ → Bool), IsRanking priority group ranking ∧
    kept = pick chosen ranking ∧
    IsGreedy (fun k b => threshold < overlap measure k b) ranking chosen ∧
    (∀ other, IsGreedy (fun k b => threshold < overlap measure k b) ranking other →
      other = chosen) ∧
    ∀ i, ∀ hi : i < ranking.length, chosen i = false →
      ∃ j, ∃ hj : j < i, chosen j ∧ threshold < overlap measure ranking[j] ranking[i]

lemma isKept_keptOfClass (c : ℕ) :
    IsKept priority measure threshold (ofClass c boxes)
      (keptOfClass priority measure threshold boxes c) := by
  obtain ⟨chosen, hgreedy, hkept⟩ := exists_isGreedy (excludes measure threshold)
    (prioritised priority (ofClass c boxes))
  refine ⟨_, chosen, isRanking_prioritised priority _, hkept, hgreedy,
    fun other hother => hother.unique hgreedy, fun i hi hc => ?_⟩
  obtain ⟨j, hj, hcj, hexcludes⟩ := hgreedy.exists_excludes hi hc
  exact ⟨j, hj, hcj, by simpa [excludes] using hexcludes⟩

/-- A list is what suppression by a priority has to leave of given boxes. -/
structure IsSuppressed (priority : Box → Float32) (measure : OverlapMeasure)
    (threshold : Float32) (boxes result : List Box) : Prop where
  /-- It holds what is kept of the proper boxes of each class, one class after the other in
  ascending order. -/
  by_class : ∃ (list : List ℕ) (kept : ℕ → List Box), list.Pairwise (· < ·) ∧
    (∀ c, c ∈ list ↔ ∃ b ∈ boxes, b.isDegenerate = false ∧ b.classId = c) ∧
    (∀ c, IsKept priority measure threshold (ofClass c boxes) (kept c)) ∧
    result = list.flatMap kept
  /-- Its boxes are among the proper ones given, none more often than there. -/
  subperm : result.Subperm (boxes.filter fun b => !b.isDegenerate)
  /-- Classes ascend, and priorities fall within a class. -/
  ordered : result.Pairwise fun a b =>
    a.classId < b.classId ∨ a.classId = b.classId ∧ rank (priority b) ≤ rank (priority a)
  /-- No box overlaps a later one of its class more than is allowed. -/
  apart : result.Pairwise fun a b =>
    a.classId = b.classId → ¬ threshold < overlap measure a b

lemma ordered_suppressBy :
    (suppressBy priority measure threshold boxes).Pairwise fun a b =>
      a.classId < b.classId ∨ a.classId = b.classId ∧ rank (priority b) ≤ rank (priority a) := by
  refine pairwise_suppressBy (fun c => ?_) fun a b hlt => Or.inl hlt
  have hsub : (keptOfClass priority measure threshold boxes c).Sublist
      (prioritised priority (ofClass c boxes)) := keptOfClass_sublist c
  have hdescending := (isRanking_prioritised priority (ofClass c boxes)).descending.sublist hsub
  refine hdescending.imp_of_mem fun ha hb hle => Or.inr ⟨?_, hle⟩
  rw [classId_of_mem_keptOfClass ha, classId_of_mem_keptOfClass hb]

lemma apart_suppressBy :
    (suppressBy priority measure threshold boxes).Pairwise fun a b =>
      a.classId = b.classId → ¬ threshold < overlap measure a b := by
  refine pairwise_suppressBy (fun c => ?_) fun a b hlt heq => absurd heq (Nat.ne_of_lt hlt)
  refine (pairwise_sieveFrom [] _).imp fun hab _ => ?_
  simpa [excludes] using hab

lemma isSuppressed_suppressBy :
    IsSuppressed priority measure threshold boxes
      (suppressBy priority measure threshold boxes) where
  by_class := ⟨classes boxes, keptOfClass priority measure threshold boxes,
    pairwise_classes boxes, fun _ => mem_classes, isKept_keptOfClass, suppressBy_eq⟩
  subperm := suppressBy_subperm
  ordered := ordered_suppressBy
  apart := apart_suppressBy

/-- **Suppression is the greedy choice.**  Whether the score or the area goes first, and for
every overlap measure and every threshold, even a missing one: what is left of boxes is, one
class after the other, the only greedy choice from the ranking of its proper boxes. -/
theorem isSuppressed_suppress_and_suppressByArea (measure : OverlapMeasure)
    (threshold : Float32) (boxes : List Box) :
    IsSuppressed (·.score) measure threshold boxes (suppress measure threshold boxes) ∧
      IsSuppressed area measure threshold boxes (suppressByArea measure threshold boxes) :=
  ⟨isSuppressed_suppressBy, isSuppressed_suppressBy⟩

/-- Suppression leaves proper boxes only. -/
lemma mem_of_mem_suppress {measure : OverlapMeasure} {threshold : Float32} {boxes : List Box}
    {b : Box} (h : b ∈ suppress measure threshold boxes) :
    b ∈ boxes ∧ b.isDegenerate = false := by
  have hmem := suppressBy_subperm.subset h
  simpa using hmem

end Box

/-! ## Objects -/

namespace DetectedObject

variable {measure : OverlapMeasure} {threshold : Float32} {objects result : List DetectedObject}

lemma eq_map_of_suppress_eq_ok (h : suppress measure threshold objects = .ok result) :
    result = (Box.suppress measure threshold (objects.map toBox)).map ofBox := by
  unfold suppress at h
  split at h
  · exact (Except.ok.inj h).symm
  · cases h

/-- An object that suppression leaves has the class and the confidence of a given one. -/
lemma exists_of_mem_suppress (h : suppress measure threshold objects = .ok result)
    {o : DetectedObject} (ho : o ∈ result) :
    ∃ given ∈ objects, o.classId = given.classId ∧ o.confidence = given.confidence := by
  rw [eq_map_of_suppress_eq_ok h] at ho
  obtain ⟨b, hb, rfl⟩ := List.mem_map.1 ho
  obtain ⟨given, hgiven, rfl⟩ := List.mem_map.1 (Box.mem_of_mem_suppress hb).1
  exact ⟨given, hgiven, rfl, rfl⟩

end DetectedObject

end Detection
