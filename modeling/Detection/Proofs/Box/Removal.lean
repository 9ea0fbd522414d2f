/-
# Leaving out one box

Suppression goes through each class on its own, from higher priority to lower.  So a box has a
say only about boxes of its class that come after it, and a box that is dropped has no say at all:
only kept boxes exclude others.  Boxes are spoken of by their places in the list, because a box
may be there twice.

## Main definitions

* `Outranks`: the box at a place goes before the one at another place.
* `Ignores`: it does so, or the two are of different classes.
* `boxesAt`: the boxes at some of the places.
* `keptPlaces`: the places of the boxes that suppression keeps of these.

The main result is `suppress_eraseIdx`.
-/
import Detection.Proofs.Box.Filtering

namespace Detection
namespace Box

/-! ## Places by falling priority -/

section Places

variable (priority : Box → Float32) (boxes : List Box)

/-- The box at a place has the higher priority, or the same and stands before the other one. -/
def Outranks (i j : Fin boxes.length) : Prop :=
  rank (priority (boxes.get j)) < rank (priority (boxes.get i)) ∨
    rank (priority (boxes.get j)) = rank (priority (boxes.get i)) ∧ i < j

instance : DecidableRel (Outranks priority boxes) :=
  fun _ _ => inferInstanceAs (Decidable (_ ∨ _ ∧ _))

/-- The box at a place is of another class than the one at another place, or goes before it. -/
def Ignores (i j : Fin boxes.length) : Prop :=
  (boxes.get i).classId ≠ (boxes.get j).classId ∨ Outranks priority boxes i j

instance : DecidableRel (Ignores priority boxes) :=
  fun _ _ => inferInstanceAs (Decidable (_ ∨ _))

/-- The boxes at the places that have a property, in the order given. -/
def boxesAt (q : Fin boxes.length → Bool) : List Box :=
  ((List.finRange boxes.length).filter q).map boxes.get

/-- The places of the proper boxes of a class among these, each before those that it outranks. -/
def rankedPlaces (q : Fin boxes.length → Bool) (c : ℕ) : List (Fin boxes.length) :=
  ((List.finRange boxes.length).filter fun i =>
      q i && !(boxes.get i).isDegenerate && (boxes.get i).classId == c).mergeSort
    fun i j => !decide (Outranks priority boxes j i)

/-- The places of the boxes that suppression keeps of those that have a property. -/
def keptPlaces (measure : OverlapMeasure) (threshold : Float32) (q : Fin boxes.length → Bool) :
    List (Fin boxes.length) :=
  (classes boxes).flatMap fun c =>
    sieve (fun i j => excludes measure threshold (boxes.get i) (boxes.get j))
      (rankedPlaces priority boxes q c)

end Places

section

variable {priority : Box → Float32} {measure : OverlapMeasure} {threshold : Float32}
  {boxes : List Box} {q q' : Fin boxes.length → Bool} {c : ℕ} {i j k : Fin boxes.length}

lemma Outranks.asymm (h : Outranks priority boxes i j) : ¬ Outranks priority boxes j i := by
  simp only [Outranks, Fin.lt_def] at h ⊢
  omega

lemma Outranks.trans (hij : Outranks priority boxes i j) (hjk : Outranks priority boxes j k) :
    Outranks priority boxes i k := by
  simp only [Outranks, Fin.lt_def] at hij hjk ⊢
  omega

lemma outranks_of_not (hne : i ≠ j) (h : ¬ Outranks priority boxes j i) :
    Outranks priority boxes i j := by
  simp only [Outranks, Fin.lt_def] at h ⊢
  simp only [ne_eq, Fin.ext_iff] at hne
  omega

instance : Std.Antisymm (Outranks priority boxes) :=
  ⟨fun _ _ hij hji => absurd hji hij.asymm⟩

instance : Std.Irrefl (Outranks priority boxes) :=
  ⟨fun _ h => h.asymm h⟩

@[simp] lemma mem_rankedPlaces :
    i ∈ rankedPlaces priority boxes q c ↔
      q i ∧ (boxes.get i).isDegenerate = false ∧ (boxes.get i).classId = c := by
  simp [rankedPlaces, and_assoc]

lemma pairwise_rankedPlaces (priority : Box → Float32) (q : Fin boxes.length → Bool) (c : ℕ) :
    (rankedPlaces priority boxes q c).Pairwise (Outranks priority boxes) := by
  have hweak : (rankedPlaces priority boxes q c).Pairwise fun i j =>
      !decide (Outranks priority boxes j i) := by
    refine List.pairwise_mergeSort ?_ ?_ _
    · intro i j k hij hjk
      simp only [Outranks, Fin.lt_def, Bool.not_eq_true', decide_eq_false_iff_not] at hij hjk ⊢
      omega
    · intro i j
      simp only [Outranks, Fin.lt_def, Bool.or_eq_true, Bool.not_eq_true',
        decide_eq_false_iff_not]
      omega
  have hnodup : (rankedPlaces priority boxes q c).Nodup :=
    (List.mergeSort_perm _ _).nodup_iff.2 ((List.nodup_finRange _).filter _)
  refine (hweak.and hnodup).imp ?_
  rintro i j ⟨hij, hne⟩
  exact outranks_of_not hne (by simpa using hij)

/-- Leaving out places does not change the order of the others. -/
lemma rankedPlaces_filter (h : ∀ i, q' i → q i) :
    (rankedPlaces priority boxes q c).filter q' = rankedPlaces priority boxes q' c := by
  refine ((pairwise_rankedPlaces priority q c).filter q').eq_of_mem_iff
    (pairwise_rankedPlaces priority q' c) ?_
  intro i
  simp only [List.mem_filter, mem_rankedPlaces]
  constructor
  · rintro ⟨⟨-, hbox⟩, hi⟩
    exact ⟨hi, hbox⟩
  · rintro ⟨hi, hbox⟩
    exact ⟨⟨h i hi, hbox⟩, hi⟩

/-! ## Places and boxes -/

/-- The boxes at the ranked places are the ranking of the boxes. -/
lemma map_rankedPlaces (priority : Box → Float32) (q : Fin boxes.length → Bool) (c : ℕ) :
    (rankedPlaces priority boxes q c).map boxes.get =
      prioritised priority (ofClass c (boxesAt boxes q)) := by
  have hclass : ofClass c (boxesAt boxes q) =
      ((List.finRange boxes.length).filter fun i =>
        q i && !(boxes.get i).isDegenerate && (boxes.get i).classId == c).map boxes.get := by
    simp [ofClass, boxesAt, List.filter_map, List.filter_filter, Function.comp_def, Bool.and_comm,
      Bool.and_left_comm]
  rw [hclass]
  refine IsRanking.unique ⟨?_, ?_, ?_⟩ (isRanking_prioritised priority _)
  · exact (List.mergeSort_perm _ _).map boxes.get
  · rw [List.pairwise_map]
    refine (pairwise_rankedPlaces priority q c).imp ?_
    rintro i j (hlt | ⟨heq, -⟩)
    · exact hlt.le
    · exact heq.le
  · intro r
    -- Among boxes of one priority, outranking is standing before.
    have hascending : ((rankedPlaces priority boxes q c).filter fun i =>
        rank (priority (boxes.get i)) = r).Pairwise (· < ·) := by
      refine ((pairwise_rankedPlaces priority q c).filter _).imp_of_mem ?_
      intro i j hi hj hij
      simp only [List.mem_filter, decide_eq_true_eq] at hi hj
      rcases hij with hlt | ⟨-, hlt⟩
      · omega
      · exact hlt
    have hsame := hascending.eq_of_mem_iff
      (((List.pairwise_lt_finRange boxes.length).filter fun i =>
        q i && !(boxes.get i).isDegenerate && (boxes.get i).classId == c).filter fun i =>
          rank (priority (boxes.get i)) = r) (by simp [and_comm, and_left_comm])
    simpa [List.filter_map, Function.comp_def] using congrArg (List.map boxes.get) hsame

/-- A class of which no box is present leaves nothing. -/
lemma suppressBy_eq_flatMap_classes {sub : List Box} (h : ∀ b ∈ sub, b ∈ boxes) :
    suppressBy priority measure threshold sub =
      (classes boxes).flatMap (keptOfClass priority measure threshold sub) := by
  have hclasses : classes sub = (classes boxes).filter fun c => decide (c ∈ classes sub) := by
    refine (pairwise_classes sub).eq_of_mem_iff ((pairwise_classes boxes).filter _) ?_
    intro c
    simp only [List.mem_filter, decide_eq_true_eq]
    refine ⟨fun hc => ⟨?_, hc⟩, fun hc => hc.2⟩
    obtain ⟨b, hb, hproper, hclass⟩ := mem_classes.1 hc
    exact mem_classes.2 ⟨b, h b hb, hproper, hclass⟩
  rw [suppressBy_eq, hclasses]
  refine flatMap_filter_of_eq_nil ?_
  intro c _ hc
  exact keptOfClass_eq_nil (by simpa using hc)

/-- What suppression leaves of the boxes at some places are those at the kept ones. -/
theorem suppressBy_boxesAt (priority : Box → Float32) (measure : OverlapMeasure)
    (threshold : Float32) (boxes : List Box) (q : Fin boxes.length → Bool) :
    suppressBy priority measure threshold (boxesAt boxes q) =
      (keptPlaces priority boxes measure threshold q).map boxes.get := by
  have hsub : ∀ b ∈ boxesAt boxes q, b ∈ boxes := by
    intro b hb
    obtain ⟨i, -, rfl⟩ := List.mem_map.1 hb
    exact boxes.get_mem i
  rw [suppressBy_eq_flatMap_classes hsub, keptPlaces, List.map_flatMap]
  refine List.flatMap_congr fun c _ => ?_
  rw [keptOfClass, filterOverlapping, ← map_rankedPlaces]
  exact sieve_map boxes.get _

@[simp] lemma boxesAt_true (boxes : List Box) : boxesAt boxes (fun _ => true) = boxes := by
  simp [boxesAt]

/-- The boxes at all places but one are those that are left when it is left out. -/
lemma boxesAt_ne (boxes : List Box) (p : Fin boxes.length) :
    boxesAt boxes (fun i => i ≠ p) = boxes.eraseIdx p := by
  have hplaces : (List.finRange boxes.length).filter (fun i => decide (i ≠ p)) =
      (List.finRange boxes.length).eraseIdx p := by
    have hascending := List.pairwise_lt_finRange boxes.length
    refine (hascending.filter _).eq_of_mem_iff (hascending.sublist (List.eraseIdx_sublist _ _)) ?_
    intro i
    simp only [List.mem_filter, List.mem_finRange, true_and, decide_eq_true_eq,
      List.mem_eraseIdx_iff_getElem, List.getElem_finRange]
    constructor
    · intro hne
      exact ⟨i, by simp, fun h => hne (Fin.ext h), rfl⟩
    · rintro ⟨n, hn, hne, rfl⟩ h
      exact hne (congrArg Fin.val h)
  rw [boxesAt, hplaces, ← List.eraseIdx_map, List.map_get_finRange]

/-! ## Leaving out one place -/

variable {p : Fin boxes.length}

/-- In a ranking, the places that ignore another one come first. -/
lemma pairwise_ignores (priority : Box → Float32) (q : Fin boxes.length → Bool) (c : ℕ)
    (p : Fin boxes.length) :
    (rankedPlaces priority boxes q c).Pairwise fun i j =>
      decide (Ignores priority boxes j p) → decide (Ignores priority boxes i p) := by
  refine (pairwise_rankedPlaces priority q c).imp_of_mem ?_
  intro i j hi hj hij
  simp only [mem_rankedPlaces] at hi hj
  simp only [decide_eq_true_eq, Ignores, hi.2.2, hj.2.2]
  rintro (hclass | hjp)
  · exact .inl hclass
  · exact .inr (hij.trans hjp)

lemma ne_of_ignores (h : Ignores priority boxes i p) : i ≠ p := by
  rintro rfl
  rcases h with hclass | hrank
  · exact hclass rfl
  · exact hrank.asymm hrank

/-- What is kept of the places that ignore another one does not depend on it. -/
lemma filter_ignores_keptPlaces (priority : Box → Float32) (measure : OverlapMeasure)
    (threshold : Float32) (boxes : List Box) (p : Fin boxes.length) :
    (keptPlaces priority boxes measure threshold (· ≠ p)).filter (Ignores priority boxes · p) =
      (keptPlaces priority boxes measure threshold fun _ => true).filter
        (Ignores priority boxes · p) := by
  rw [keptPlaces, keptPlaces, List.filter_flatMap, List.filter_flatMap]
  refine List.flatMap_congr fun c _ => ?_
  rw [sieve, sieve, filter_sieveFrom_of_pairwise (pairwise_ignores priority _ c p),
    filter_sieveFrom_of_pairwise (pairwise_ignores priority _ c p),
    rankedPlaces_filter fun i hi => by simpa using ne_of_ignores (of_decide_eq_true hi),
    rankedPlaces_filter fun _ _ => rfl]

/-- A place that is not kept can be left out. -/
lemma keptPlaces_ne_of_not_mem (h : p ∉ keptPlaces priority boxes measure threshold fun _ => true) :
    (keptPlaces priority boxes measure threshold fun i => i ≠ p) =
      keptPlaces priority boxes measure threshold fun _ => true := by
  refine List.flatMap_congr fun c hc => ?_
  rw [← rankedPlaces_filter (q := fun _ => true) fun _ _ => rfl]
  refine sieveFrom_filter_of_forall ?_
  intro i hi
  rw [decide_eq_true_eq]
  rintro rfl
  exact h (List.mem_flatMap.2 ⟨c, hc, hi⟩)

end

/-- **A weaker box never affects a stronger one.**  Leaving out the box at a place changes nothing
of what suppression keeps of other classes, nor of what it keeps of boxes that outrank this one;
and if the box is dropped anyway, leaving it out changes nothing at all. -/
theorem suppress_eraseIdx (measure : OverlapMeasure) (threshold : Float32) (boxes : List Box)
    (p : Fin boxes.length) :
    suppress measure threshold boxes =
        (keptPlaces (·.score) boxes measure threshold fun _ => true).map boxes.get ∧
      suppress measure threshold (boxes.eraseIdx p) =
        (keptPlaces (·.score) boxes measure threshold (· ≠ p)).map boxes.get ∧
      (keptPlaces (·.score) boxes measure threshold (· ≠ p)).filter
          (Ignores (·.score) boxes · p) =
        (keptPlaces (·.score) boxes measure threshold fun _ => true).filter
          (Ignores (·.score) boxes · p) ∧
      (p ∉ keptPlaces (·.score) boxes measure threshold (fun _ => true) →
        suppress measure threshold (boxes.eraseIdx p) = suppress measure threshold boxes) := by
  have hall := suppressBy_boxesAt (·.score) measure threshold boxes fun _ => true
  have hothers := suppressBy_boxesAt (·.score) measure threshold boxes (· ≠ p)
  rw [boxesAt_true] at hall
  rw [boxesAt_ne] at hothers
  refine ⟨hall, hothers, filter_ignores_keptPlaces _ measure threshold boxes p, ?_⟩
  intro hdropped
  rw [suppress, suppress, hothers, hall, keptPlaces_ne_of_not_mem hdropped]

/-- Three boxes in a row, each of which overlaps the next one only. -/
def overlappingRow : List Box :=
  [.ofCorners ⟨0.0, 0.0, 16.0, 16.0⟩ 0 0.875, .ofCorners ⟨8.0, 0.0, 24.0, 16.0⟩ 0 0.75,
    .ofCorners ⟨16.0, 0.0, 32.0, 16.0⟩ 0 0.5]

lemma keptPlaces_overlappingRow :
    keptPlaces (·.score) overlappingRow .union 0.25 (fun _ => true) =
      [⟨0, by decide⟩, ⟨2, by decide⟩] := by
  have hclasses : classes overlappingRow = [0] := rfl
  -- The boxes of the row fall in priority as they are.
  have hranked : rankedPlaces (·.score) overlappingRow (fun _ => true) 0 =
      (List.finRange overlappingRow.length).filter fun i =>
        !(overlappingRow.get i).isDegenerate && (overlappingRow.get i).classId == 0 :=
    List.mergeSort_of_pairwise (by decide)
  rw [keptPlaces, hclasses, List.flatMap_singleton, hranked]
  rfl

/-- The second box is dropped, and so the third one is kept with it or without it. -/
theorem suppress_eraseIdx_overlappingRow :
    (⟨1, by decide⟩ : Fin overlappingRow.length) ∉
        keptPlaces (·.score) overlappingRow .union 0.25 (fun _ => true) ∧
      suppress .union 0.25 overlappingRow =
        [.ofCorners ⟨0.0, 0.0, 16.0, 16.0⟩ 0 0.875, .ofCorners ⟨16.0, 0.0, 32.0, 16.0⟩ 0 0.5] ∧
      suppress .union 0.25 (overlappingRow.eraseIdx 1) =
        suppress .union 0.25 overlappingRow := by
  have hdropped : (⟨1, by decide⟩ : Fin overlappingRow.length) ∉
      keptPlaces (·.score) overlappingRow .union 0.25 (fun _ => true) := by
    rw [keptPlaces_overlappingRow]
    decide
  obtain ⟨hall, -, -, hsame⟩ :=
    suppress_eraseIdx .union 0.25 overlappingRow ⟨1, by decide⟩
  rw [keptPlaces_overlappingRow] at hall
  exact ⟨hdropped, hall, hsame hdropped⟩

end Box
end Detection
