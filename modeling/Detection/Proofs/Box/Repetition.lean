/-
# Suppressing what suppression has left

What is left of a class is in the order of the ranking already, and none of it excludes what comes
later.  So suppressing once more ranks it as it is and drops nothing, whatever numbers the boxes,
the threshold and the priorities are.

The main results are `ofClass_suppressBy` and `suppress_idempotent`.
-/
import Detection.Proofs.Box.Removal

namespace Detection

/-- Where all lists but one are empty, their concatenation is that one. -/
lemma flatMap_eq_of_forall_ne {α β : Type} {f : α → List β} {list : List α} {a : α}
    (hnodup : list.Nodup) (ha : a ∈ list) (h : ∀ b ∈ list, b ≠ a → f b = []) :
    list.flatMap f = f a := by
  obtain ⟨front, back, rfl⟩ := List.append_of_mem ha
  have hfront : a ∉ front := fun hmem =>
    (List.nodup_append.1 hnodup).2.2 a hmem a List.mem_cons_self rfl
  have hback : a ∉ back := (List.nodup_cons.1 (List.nodup_append.1 hnodup).2.1).1
  have hnone : ∀ part : List α, a ∉ part → (∀ b ∈ part, b ∈ front ++ a :: back) →
      part.flatMap f = [] := by
    intro part hpart hsub
    rw [List.flatMap_eq_nil_iff]
    exact fun b hb => h b (hsub b hb) fun heq => hpart (heq ▸ hb)
  rw [List.flatMap_append, List.flatMap_cons, hnone front hfront (by simp +contextual),
    hnone back hback (by simp +contextual), List.nil_append, List.append_nil]

namespace Box

variable {priority : Box → Float32} {measure : OverlapMeasure} {threshold : Float32}
  {boxes : List Box} {c : ℕ}

lemma filterOverlapping_filterOverlapping (measure : OverlapMeasure) (threshold : Float32)
    (boxes : List Box) :
    filterOverlapping measure threshold (filterOverlapping measure threshold boxes) =
      filterOverlapping measure threshold boxes :=
  sieve_eq_self_iff.2 (pairwise_sieveFrom [] boxes)

/-- Of the proper boxes of one class that are left of another one there are none. -/
lemma ofClass_keptOfClass (c c' : ℕ) :
    ofClass c (keptOfClass priority measure threshold boxes c') =
      if c' = c then keptOfClass priority measure threshold boxes c' else [] := by
  have hkept : ∀ b ∈ keptOfClass priority measure threshold boxes c',
      b.isDegenerate = false ∧ b.classId = c' := fun b hb =>
    (mem_ofClass.1 ((prioritised_perm _).mem_iff.1 ((keptOfClass_sublist c').subset hb))).2
  split
  · rename_i heq
    subst heq
    refine List.filter_eq_self.2 fun b hb => ?_
    obtain ⟨hproper, hclass⟩ := hkept b hb
    simp [hproper, hclass]
  · rename_i hne
    refine List.filter_eq_nil_iff.2 fun b hb => ?_
    obtain ⟨-, hclass⟩ := hkept b hb
    simp [hclass, hne]

/-- The proper boxes of a class in what is left are those that are left of this class. -/
theorem ofClass_suppressBy (h : c ∈ classes boxes) :
    ofClass c (suppressBy priority measure threshold boxes) =
      keptOfClass priority measure threshold boxes c := by
  have hflat : ofClass c (suppressBy priority measure threshold boxes) =
      (classes boxes).flatMap fun c' =>
        ofClass c (keptOfClass priority measure threshold boxes c') := by
    rw [suppressBy_eq, ofClass, List.filter_flatMap]
    rfl
  have hnodup : (classes boxes).Nodup := (pairwise_classes boxes).imp Nat.ne_of_lt
  rw [hflat, flatMap_eq_of_forall_ne hnodup h, ofClass_keptOfClass, if_pos rfl]
  intro c' _ hne
  rw [ofClass_keptOfClass, if_neg hne]

/-- What is left of a class is ranked as it is, and nothing of it is dropped. -/
lemma filterOverlapping_prioritised_keptOfClass (c : ℕ) :
    filterOverlapping measure threshold
        (prioritised priority (keptOfClass priority measure threshold boxes c)) =
      keptOfClass priority measure threshold boxes c := by
  have hsub : (keptOfClass priority measure threshold boxes c).Sublist
      (prioritised priority (ofClass c boxes)) := keptOfClass_sublist c
  have hdescending := (isRanking_prioritised priority (ofClass c boxes)).descending.sublist hsub
  rw [prioritised_eq_self hdescending]
  exact filterOverlapping_filterOverlapping measure threshold _

theorem suppressBy_suppressBy (priority : Box → Float32) (measure : OverlapMeasure)
    (threshold : Float32) (boxes : List Box) :
    suppressBy priority measure threshold (suppressBy priority measure threshold boxes) =
      suppressBy priority measure threshold boxes := by
  have hsub : ∀ b ∈ suppressBy priority measure threshold boxes, b ∈ boxes := fun b hb =>
    List.mem_of_mem_filter (suppressBy_subperm.subset hb)
  rw [suppressBy_eq_flatMap_classes hsub]
  refine (List.flatMap_congr fun c hc => ?_).trans suppressBy_eq.symm
  rw [keptOfClass, ofClass_suppressBy hc]
  exact filterOverlapping_prioritised_keptOfClass c

/-- **Suppressing twice is suppressing once.**  Whether boxes are filtered in the order given, or
suppressed with the higher score or the larger area first: what is left passes the same treatment
as it is, the order included, under every measure and for every threshold. -/
theorem suppress_idempotent (measure : OverlapMeasure) (threshold : Float32) (boxes : List Box) :
    filterOverlapping measure threshold (filterOverlapping measure threshold boxes) =
        filterOverlapping measure threshold boxes ∧
      suppress measure threshold (suppress measure threshold boxes) =
        suppress measure threshold boxes ∧
      suppressByArea measure threshold (suppressByArea measure threshold boxes) =
        suppressByArea measure threshold boxes :=
  ⟨filterOverlapping_filterOverlapping measure threshold boxes,
    suppressBy_suppressBy (·.score) measure threshold boxes,
    suppressBy_suppressBy area measure threshold boxes⟩

end Box
end Detection
