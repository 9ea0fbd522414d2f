/-
# The best of several scores

Going through scores and keeping the best so far finds the first of the greatest scores above
a bound, if any score exceeds the bound.  This holds with missing scores, too: they exceed
nothing and nothing exceeds them.

## Main definitions

* `IsFirstBest`: a position holds the first of the greatest scores above a bound.
* `IsMaximum`: a position is the first to attain the maximum of the scores that are not missing.

The main result is `bestAbove_eq_some_iff`.
-/
import Detection.Choice
import Detection.Proofs.Number.Order

namespace Detection

/-- A position holds the first of the greatest of several scores above a bound. -/
structure IsFirstBest (bound : Float32) (scores : List Float32) (k : ℕ) : Prop where
  /-- It is a position of the list. -/
  lt_length : k < scores.length
  /-- Its score exceeds the bound. -/
  above : bound < scores[k]
  /-- No score exceeds it. -/
  greatest : ∀ score ∈ scores, ¬ scores[k] < score
  /-- No score before it is as great. -/
  first : ∀ j, ∀ hj : j < k, ¬ scores[k] ≤ scores[j]

variable {bound score : Float32} {scores : List Float32} {k : ℕ}

/-- A score in front that exceeds the bound, but is exceeded itself. -/
lemma IsFirstBest.cons_of_lt (hscore : bound < score) (h : IsFirstBest score scores k) :
    IsFirstBest bound (score :: scores) (k + 1) where
  lt_length := by simpa using h.lt_length
  above := Float32.lt_trans hscore h.above
  greatest := by
    intro other hother
    rcases List.mem_cons.1 hother with rfl | hother
    · exact fun hlt => Float32.not_le_of_lt h.above (Float32.le_of_lt hlt)
    · exact h.greatest other hother
  first := by
    intro j hj
    cases j with
    | zero => exact Float32.not_le_of_lt h.above
    | succ j => exact h.first j (by omega)

/-- A score in front that does not exceed the bound. -/
lemma IsFirstBest.cons_of_not_lt (hscore : ¬ bound < score) (h : IsFirstBest bound scores k) :
    IsFirstBest bound (score :: scores) (k + 1) where
  lt_length := by simpa using h.lt_length
  above := h.above
  greatest := by
    intro other hother
    rcases List.mem_cons.1 hother with rfl | hother
    · exact fun hlt => hscore (Float32.lt_trans h.above hlt)
    · exact h.greatest other hother
  first := by
    intro j hj
    cases j with
    | zero => exact fun hle => hscore (Float32.lt_of_lt_of_le h.above hle)
    | succ j => exact h.first j (by omega)

/-- A score in front that exceeds the bound and is not exceeded. -/
lemma isFirstBest_zero (hscore : bound < score) (h : ∀ other ∈ scores, ¬ score < other) :
    IsFirstBest bound (score :: scores) 0 where
  lt_length := by simp
  above := hscore
  greatest := by
    intro other hother
    rcases List.mem_cons.1 hother with rfl | hother
    · exact Float32.lt_irrefl _
    · exact h other hother
  first := fun j hj => absurd hj (Nat.not_lt_zero j)

-- The induction is on the scores; the best so far and its index vary, as they do in the search.
lemma bestFrom_cases (best : Option ℕ) (bound : Float32) (index : ℕ) (scores : List Float32) :
    (bestFrom (best, bound) index scores = (best, bound) ∧ ∀ score ∈ scores, ¬ bound < score) ∨
      ∃ k, ∃ hk : k < scores.length, IsFirstBest bound scores k ∧
        bestFrom (best, bound) index scores = (some (index + k), scores[k]) := by
  induction scores generalizing best bound index with
  | nil => exact Or.inl ⟨rfl, by simp⟩
  | cons score rest ih =>
    unfold bestFrom
    by_cases hscore : bound < score
    · rw [if_pos hscore]
      right
      rcases ih (some index) score (index + 1) with ⟨heq, hnone⟩ | ⟨k, hk, hbest, heq⟩
      · exact ⟨0, by simp, isFirstBest_zero hscore hnone, heq⟩
      · refine ⟨k + 1, by simpa using hk, hbest.cons_of_lt hscore, ?_⟩
        rw [heq, Nat.add_right_comm, Nat.add_assoc]
        rfl
    · rw [if_neg hscore]
      rcases ih best bound (index + 1) with ⟨heq, hnone⟩ | ⟨k, hk, hbest, heq⟩
      · refine Or.inl ⟨heq, fun other hother => ?_⟩
        rcases List.mem_cons.1 hother with rfl | hother
        · exact hscore
        · exact hnone other hother
      · refine Or.inr ⟨k + 1, by simpa using hk, hbest.cons_of_not_lt hscore, ?_⟩
        rw [heq, Nat.add_right_comm, Nat.add_assoc]
        rfl

/-- The search finds the first of the greatest scores above the bound, or there is none. -/
theorem bestAbove_cases (bound : Float32) (scores : List Float32) :
    (bestAbove bound scores = (none, bound) ∧ ∀ score ∈ scores, ¬ bound < score) ∨
      ∃ k, ∃ hk : k < scores.length, IsFirstBest bound scores k ∧
        bestAbove bound scores = (some k, scores[k]) := by
  rcases bestFrom_cases none bound 0 scores with h | ⟨k, hk, hbest, heq⟩
  · exact Or.inl h
  · exact Or.inr ⟨k, hk, hbest, by rw [bestAbove, heq, Nat.zero_add]⟩

/-! ## The maximum -/

/-- Whatever the bound, it is the same position. -/
lemma IsFirstBest.unique {bound' : Float32} {k' : ℕ} (h : IsFirstBest bound scores k)
    (h' : IsFirstBest bound' scores k') : k = k' := by
  have hk := h.lt_length
  have hk' := h'.lt_length
  have hthere := (Float32.lt_iff.1 h.above).2.1
  have hthere' := (Float32.lt_iff.1 h'.above).2.1
  have hle : scores[k'] ≤ scores[k] :=
    (Float32.not_lt hthere hthere').1 (h.greatest _ (List.getElem_mem hk'))
  have hle' : scores[k] ≤ scores[k'] :=
    (Float32.not_lt hthere' hthere).1 (h'.greatest _ (List.getElem_mem hk))
  rcases Nat.lt_trichotomy k k' with hlt | heq | hgt
  · exact absurd hle (h'.first k hlt)
  · exact heq
  · exact absurd hle' (h.first k' hgt)

/-- A score is the maximum of those of several scores that are not missing, and a position is the
first one to attain it. -/
structure IsMaximum (scores : List Float32) (k : ℕ) (score : Float32) : Prop where
  /-- The position holds the score. -/
  getElem?_eq : scores[k]? = some score
  /-- The score is not missing. -/
  isNaN_eq : score.isNaN = false
  /-- No score that is not missing exceeds it. -/
  greatest : ∀ other ∈ scores, other.isNaN = false → other ≤ score
  /-- No score before it is as great. -/
  first : ∀ j < k, ∀ other, scores[j]? = some other → ¬ score ≤ other

lemma IsFirstBest.isMaximum (h : IsFirstBest bound scores k) :
    IsMaximum scores k (scores.get ⟨k, h.lt_length⟩) where
  getElem?_eq := List.getElem?_eq_getElem h.lt_length
  isNaN_eq := (Float32.lt_iff.1 h.above).2.1
  greatest := by
    intro other hother hthere
    exact (Float32.not_lt (Float32.lt_iff.1 h.above).2.1 hthere).1 (h.greatest other hother)
  first := by
    intro j hj other hother
    obtain ⟨hlength, rfl⟩ := List.getElem?_eq_some_iff.1 hother
    exact h.first j hj

lemma IsMaximum.isFirstBest (h : IsMaximum scores k score) (hlt : bound < score) :
    IsFirstBest bound scores k := by
  obtain ⟨hk, rfl⟩ := List.getElem?_eq_some_iff.1 h.getElem?_eq
  refine ⟨hk, hlt, fun other hother hexceeds => ?_, fun j hj => ?_⟩
  · have hthere := (Float32.lt_iff.1 hexceeds).2.1
    exact Float32.not_le_of_lt hexceeds (h.greatest other hother hthere)
  · exact h.first j hj _ (List.getElem?_eq_getElem (hj.trans hk))

/-- The search finds the maximum and the first position to attain it, as long as the maximum
exceeds the bound; without a maximum above the bound it finds nothing. -/
theorem bestAbove_eq_some_iff :
    bestAbove bound scores = (some k, score) ↔ IsMaximum scores k score ∧ bound < score := by
  rcases bestAbove_cases bound scores with ⟨heq, hnone⟩ | ⟨j, hj, hbest, heq⟩
  · rw [heq]
    constructor
    · intro h
      cases h
    · rintro ⟨hmax, hlt⟩
      exact absurd hlt (hnone score (List.mem_of_getElem? hmax.getElem?_eq))
  · rw [heq]
    constructor
    · intro h
      cases h
      exact ⟨hbest.isMaximum, hbest.above⟩
    · rintro ⟨hmax, hlt⟩
      obtain rfl := hbest.unique (hmax.isFirstBest hlt)
      have hget := hmax.getElem?_eq
      rw [List.getElem?_eq_getElem hj] at hget
      rw [Option.some.inj hget]

/-! ## What is found -/

/-- What is found above one bound is found above any other bound that it exceeds. -/
theorem bestAbove_eq_some_of_lt {bound' : Float32} (h : bestAbove bound scores = (some k, score))
    (hlt : bound' < score) : bestAbove bound' scores = (some k, score) :=
  bestAbove_eq_some_iff.2 ⟨(bestAbove_eq_some_iff.1 h).1, hlt⟩

lemma getElem?_of_bestAbove_eq_some (h : bestAbove bound scores = (some k, score)) :
    scores[k]? = some score :=
  (bestAbove_eq_some_iff.1 h).1.getElem?_eq

/-- What is found exceeds the bound, and has a position among the scores. -/
lemma lt_of_bestAbove_eq_some (h : bestAbove bound scores = (some k, score)) :
    k < scores.length ∧ bound < score := by
  obtain ⟨hk, -⟩ := List.getElem?_eq_some_iff.1 (getElem?_of_bestAbove_eq_some h)
  exact ⟨hk, (bestAbove_eq_some_iff.1 h).2⟩

end Detection
