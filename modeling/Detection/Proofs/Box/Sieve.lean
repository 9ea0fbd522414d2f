/-
# What a sieve keeps, by positions

A sieve goes through a list once and drops what an element kept before excludes.  Which
positions of the list it keeps is settled by a condition that does not mention the order of
the work: a position is kept exactly if no earlier kept position excludes it.  Positions and
not elements are spoken of, because a list may hold an element twice.

The main results are

* `IsGreedy.unique`: no two choices of positions meet the condition;
* `exists_isGreedy`: the elements that a sieve keeps are those of a choice that meets it;
* `mem_sieve_iff`: the condition for the places of a list, when the sieve goes through these;
* `sieve_isPrefix`: what comes later in a list does not matter to what comes first.
-/
import Detection.Box.Suppression
import Mathlib.Data.List.Basic
import Mathlib.Data.List.Pairwise
import Mathlib.Order.Lattice
import Mathlib.Tactic.Tauto

namespace Detection

/-! ## Choices of positions -/

/-- The elements of a list at chosen positions, in their order. -/
def pick {α : Type} (chosen : ℕ → Bool) (list : List α) : List α :=
  (list.zipIdx.filter fun p => chosen p.2).map Prod.fst

/-- A choice of positions of a list is greedy if a position is chosen exactly when no chosen
position before it holds an element that excludes the one there. -/
def IsGreedy {α : Type} (excludes : α → α → Bool) (list : List α) (chosen : ℕ → Bool) : Prop :=
  ∀ i, chosen i ↔ ∃ hi : i < list.length,
    ∀ j, ∀ hj : j < i, chosen j → excludes list[j] list[i] = false

/-- A choice that says first whether the first position is chosen, and then which of the
others are. -/
def chooseFirst (first : Bool) (rest : ℕ → Bool) : ℕ → Bool
  | 0 => first
  | i + 1 => rest i

variable {α : Type} {excludes : α → α → Bool}

@[simp] lemma pick_nil (chosen : ℕ → Bool) : pick chosen ([] : List α) = [] := rfl

lemma pick_cons (chosen : ℕ → Bool) (a : α) (rest : List α) :
    pick chosen (a :: rest) =
      if chosen 0 then a :: pick (fun i => chosen (i + 1)) rest
      else pick (fun i => chosen (i + 1)) rest := by
  unfold pick
  rw [List.zipIdx_cons', List.filter_cons, List.filter_map]
  split <;> simp [Function.comp_def]

/-! ## A greedy choice is unique -/

/-- Two greedy choices agree on a position if they agree on all earlier ones. -/
lemma IsGreedy.eq_of_forall_lt {list : List α} {chosen other : ℕ → Bool}
    (h : IsGreedy excludes list chosen) (h' : IsGreedy excludes list other) {i : ℕ}
    (hlt : ∀ j < i, chosen j = other j) : chosen i = other i := by
  rw [Bool.eq_iff_iff, h i, h' i]
  refine exists_congr fun hi => forall_congr' fun j => forall_congr' fun hj => ?_
  rw [hlt j hj]

theorem IsGreedy.unique {list : List α} {chosen other : ℕ → Bool}
    (h : IsGreedy excludes list chosen) (h' : IsGreedy excludes list other) :
    chosen = other := by
  funext i
  induction i using Nat.strongRecOn with
  | ind i ih => exact h.eq_of_forall_lt h' ih

/-! ## What a sieve keeps is a greedy choice -/

/-- A choice is greedy after elements kept before the list if what these exclude counts as
excluded, too. -/
def IsGreedyAfter (excludes : α → α → Bool) (kept list : List α) (chosen : ℕ → Bool) : Prop :=
  ∀ i, chosen i ↔ ∃ hi : i < list.length, (∀ k ∈ kept, excludes k list[i] = false) ∧
    ∀ j, ∀ hj : j < i, chosen j → excludes list[j] list[i] = false

lemma isGreedyAfter_nil {list : List α} {chosen : ℕ → Bool} :
    IsGreedyAfter excludes [] list chosen ↔ IsGreedy excludes list chosen := by
  simp [IsGreedyAfter, IsGreedy]

/-- An excluded element in front is not chosen and does not matter to those behind it. -/
lemma IsGreedyAfter.cons_of_excluded {kept rest : List α} {chosen : ℕ → Bool} {a : α}
    (ha : ∃ k ∈ kept, excludes k a) (h : IsGreedyAfter excludes kept rest chosen) :
    IsGreedyAfter excludes kept (a :: rest) (chooseFirst false chosen) := by
  intro i
  cases i with
  | zero =>
    obtain ⟨k, hk, hka⟩ := ha
    refine ⟨fun h0 => absurd h0 (by simp [chooseFirst]), ?_⟩
    rintro ⟨_, hall, -⟩
    exact absurd hka (by simpa using hall k hk)
  | succ i =>
    refine (h i).trans ⟨?_, ?_⟩
    · rintro ⟨hi, hall, hbefore⟩
      refine ⟨by simpa using hi, hall, fun j hj hc => ?_⟩
      cases j with
      | zero => exact absurd hc (by simp [chooseFirst])
      | succ j => exact hbefore j (by omega) hc
    · rintro ⟨hi, hall, hbefore⟩
      exact ⟨by simpa using hi, hall, fun j hj hc => hbefore (j + 1) (by omega) hc⟩

/-- An element in front that is not excluded is chosen, and is kept before those behind it. -/
lemma IsGreedyAfter.cons_of_not_excluded {kept rest : List α} {chosen : ℕ → Bool} {a : α}
    (ha : ∀ k ∈ kept, excludes k a = false)
    (h : IsGreedyAfter excludes (a :: kept) rest chosen) :
    IsGreedyAfter excludes kept (a :: rest) (chooseFirst true chosen) := by
  intro i
  cases i with
  | zero => exact ⟨fun _ => ⟨by simp, ha, fun j hj => absurd hj (Nat.not_lt_zero j)⟩, fun _ => rfl⟩
  | succ i =>
    refine (h i).trans ⟨?_, ?_⟩
    · rintro ⟨hi, hall, hbefore⟩
      refine ⟨by simpa using hi, fun k hk => hall k (List.mem_cons_of_mem a hk),
        fun j hj hc => ?_⟩
      cases j with
      | zero => exact hall a List.mem_cons_self
      | succ j => exact hbefore j (by omega) hc
    · rintro ⟨hi, hall, hbefore⟩
      refine ⟨by simpa using hi, fun k hk => ?_, fun j hj hc => hbefore (j + 1) (by omega) hc⟩
      rcases List.mem_cons.1 hk with rfl | hk
      · exact hbefore 0 (by omega) rfl
      · exact hall k hk

-- The induction is on the list; what was kept before it varies, as it does in the sieve.
lemma exists_isGreedyAfter (kept list : List α) :
    ∃ chosen, IsGreedyAfter excludes kept list chosen ∧
      sieveFrom excludes kept list = pick chosen list := by
  induction list generalizing kept with
  | nil => exact ⟨fun _ => false, fun i => by simp, rfl⟩
  | cons a rest ih =>
    by_cases ha : kept.any (excludes · a)
    · obtain ⟨chosen, hgreedy, hkeeps⟩ := ih kept
      refine ⟨chooseFirst false chosen, hgreedy.cons_of_excluded (List.any_eq_true.1 ha), ?_⟩
      rw [sieveFrom, if_pos ha, hkeeps, pick_cons]
      rfl
    · obtain ⟨chosen, hgreedy, hkeeps⟩ := ih (a :: kept)
      refine ⟨chooseFirst true chosen, hgreedy.cons_of_not_excluded ?_, ?_⟩
      · simpa using ha
      · rw [sieveFrom, if_neg ha, hkeeps, pick_cons]
        rfl

theorem exists_isGreedy (excludes : α → α → Bool) (list : List α) :
    ∃ chosen, IsGreedy excludes list chosen ∧ sieve excludes list = pick chosen list := by
  obtain ⟨chosen, hgreedy, hkeeps⟩ : ∃ chosen, IsGreedyAfter excludes [] list chosen ∧
      sieveFrom excludes [] list = pick chosen list := exists_isGreedyAfter [] list
  exact ⟨chosen, isGreedyAfter_nil.1 hgreedy, hkeeps⟩

/-- What is not chosen by a greedy choice is excluded by something that is, and that stands
before it. -/
lemma IsGreedy.exists_excludes {list : List α} {chosen : ℕ → Bool}
    (h : IsGreedy excludes list chosen) {i : ℕ} (hi : i < list.length)
    (hc : chosen i = false) :
    ∃ j, ∃ hj : j < i, chosen j ∧ excludes list[j] list[i] := by
  by_contra hno
  have hall : ∀ j, ∀ hj : j < i, chosen j → excludes list[j] list[i] = false := by
    intro j hj hcj
    rw [← Bool.not_eq_true]
    exact fun he => hno ⟨j, hj, hcj, he⟩
  exact absurd ((h i).2 ⟨hi, hall⟩) (by simp [hc])

/-- No element that a sieve keeps excludes one that it keeps later. -/
lemma pairwise_sieveFrom (kept list : List α) :
    (sieveFrom excludes kept list).Pairwise fun a b => excludes a b = false := by
  induction list generalizing kept with
  | nil => exact List.Pairwise.nil
  | cons a rest ih =>
    unfold sieveFrom
    split
    · exact ih kept
    · exact List.pairwise_cons.2
        ⟨fun b hb => excludes_eq_false_of_mem_sieveFrom List.mem_cons_self hb, ih (a :: kept)⟩

/-- A sieve drops nothing if nothing is excluded, neither by what was kept before nor by what comes
earlier in the list. -/
lemma sieveFrom_eq_self {kept list : List α} (hkept : ∀ k ∈ kept, ∀ a ∈ list, excludes k a = false)
    (h : list.Pairwise fun a b => excludes a b = false) : sieveFrom excludes kept list = list := by
  induction list generalizing kept with
  | nil => rfl
  | cons a rest ih =>
    obtain ⟨hfirst, hrest⟩ := List.pairwise_cons.1 h
    have hnone : ¬ kept.any (excludes · a) := by
      simpa using fun k hk => hkept k hk a List.mem_cons_self
    have hkept' : ∀ k ∈ a :: kept, ∀ b ∈ rest, excludes k b = false :=
      List.forall_mem_cons.2 ⟨hfirst, fun k hk b hb => hkept k hk b (List.mem_cons_of_mem a hb)⟩
    rw [sieveFrom, if_neg hnone, ih hkept' hrest]

/-- Just the lists of which no element excludes a later one pass a sieve as they are. -/
theorem sieve_eq_self_iff {list : List α} :
    sieve excludes list = list ↔ list.Pairwise fun a b => excludes a b = false := by
  constructor
  · intro h
    exact h ▸ pairwise_sieveFrom [] list
  · exact sieveFrom_eq_self fun k hk => absurd hk List.not_mem_nil

/-- What a sieve drops can be left out beforehand. -/
lemma sieveFrom_filter_of_forall {q : α → Bool} {kept list : List α}
    (h : ∀ a ∈ sieveFrom excludes kept list, q a) :
    sieveFrom excludes kept (list.filter q) = sieveFrom excludes kept list := by
  induction list generalizing kept with
  | nil => rfl
  | cons a rest ih =>
    by_cases hexcluded : kept.any (excludes · a)
    · rw [sieveFrom, if_pos hexcluded] at h ⊢
      by_cases ha : q a
      · rw [List.filter_cons_of_pos ha, sieveFrom, if_pos hexcluded, ih h]
      · rw [List.filter_cons_of_neg ha, ih h]
    · rw [sieveFrom, if_neg hexcluded] at h ⊢
      have ha : q a := h a List.mem_cons_self
      rw [List.filter_cons_of_pos ha, sieveFrom, if_neg hexcluded,
        ih fun b hb => h b (List.mem_cons_of_mem a hb)]

/-! ## Elements that share their lot -/

section Lot

variable {q : α → Bool}

/-- A sieve drops only what something that it keeps excludes. -/
lemma filter_sieveFrom_eq {kept list : List α}
    (h : ∀ k ∈ kept ++ sieveFrom excludes kept list, ∀ a ∈ list, q a → excludes k a = false) :
    (sieveFrom excludes kept list).filter q = list.filter q := by
  induction list generalizing kept with
  | nil => rfl
  | cons a rest ih =>
    by_cases hany : kept.any (excludes · a)
    · obtain ⟨k, hk, hka⟩ := List.any_eq_true.1 hany
      have ha : ¬ q a := by
        intro ha
        rw [h k (List.mem_append_left _ hk) a List.mem_cons_self ha] at hka
        cases hka
      rw [sieveFrom, if_pos hany] at h ⊢
      rw [List.filter_cons_of_neg ha]
      exact ih fun k hk b hb => h k hk b (List.mem_cons_of_mem a hb)
    · rw [sieveFrom, if_neg hany] at h ⊢
      rw [List.filter_cons, List.filter_cons, ih]
      intro k hk b hb
      refine h k ?_ b (List.mem_cons_of_mem a hb)
      simp only [List.mem_append, List.mem_cons] at hk ⊢
      tauto

/-- Elements that do not exclude each other, and that the same elements exclude, are kept together
or not at all. -/
lemma filter_sieve_eq_or (hsymm : ∀ a b, excludes a b = excludes b a)
    (hsame : ∀ a b k, q a → q b → excludes k a = excludes k b)
    (hnone : ∀ a b, q a → q b → excludes a b = false) (list : List α) :
    (sieve excludes list).filter q = list.filter q ∨
      (∀ a ∈ sieve excludes list, ¬ q a) ∧
        ∃ k ∈ sieve excludes list, ∃ a ∈ list, q a ∧ excludes k a := by
  by_cases h : ∃ k ∈ sieve excludes list, ∃ a ∈ list, q a ∧ excludes k a
  · refine .inr ⟨fun b hb hqb => ?_, h⟩
    obtain ⟨k, hk, a, -, hqa, hka⟩ := h
    have hne : k ≠ b := by
      rintro rfl
      rw [hnone k a hqb hqa] at hka
      cases hka
    have hsymm' : Std.Symm fun a b => excludes a b = false :=
      ⟨fun c d hcd => (hsymm d c).trans hcd⟩
    have hapart : excludes k b = false := (pairwise_sieveFrom [] list).forall hk hb hne
    rw [hsame b a k hqb hqa, hka] at hapart
    cases hapart
  · refine .inl (filter_sieveFrom_eq fun k hk a ha hqa => ?_)
    rw [← Bool.not_eq_true]
    exact fun hka => h ⟨k, by simpa [sieve] using hk, a, ha, hqa, hka⟩

end Lot

/-! ## Places in ascending order -/

section Places

/-- A sieve can go through the elements of a list or through their places. -/
lemma sieveFrom_map {ι : Type} (f : ι → α) (kept list : List ι) :
    sieveFrom excludes (kept.map f) (list.map f) =
      (sieveFrom (fun i j => excludes (f i) (f j)) kept list).map f := by
  induction list generalizing kept with
  | nil => rfl
  | cons i rest ih =>
    have hany : (kept.map f).any (excludes · (f i)) = kept.any fun k => excludes (f k) (f i) := by
      simp [Function.comp_def]
    rw [List.map_cons, sieveFrom, sieveFrom, hany]
    split
    · exact ih kept
    · rw [List.map_cons, ← ih (i :: kept), List.map_cons]

lemma sieve_map {ι : Type} (f : ι → α) (list : List ι) :
    sieve excludes (list.map f) = (sieve (fun i j => excludes (f i) (f j)) list).map f :=
  sieveFrom_map f [] list

variable {ι : Type} [LinearOrder ι] {excludes : ι → ι → Bool} {list : List ι} {i : ι}

-- The induction is on the list; a place kept before counts as an earlier one.
lemma mem_sieveFrom_iff (h : list.Pairwise (· < ·)) (kept : List ι) :
    i ∈ sieveFrom excludes kept list ↔ i ∈ list ∧ (∀ k ∈ kept, excludes k i = false) ∧
      ∀ j ∈ sieveFrom excludes kept list, j < i → excludes j i = false := by
  induction list generalizing kept with
  | nil => simp [sieveFrom]
  | cons a rest ih =>
    obtain ⟨hfirst, hrest⟩ := List.pairwise_cons.1 h
    unfold sieveFrom
    split
    · rename_i hexcluded
      obtain ⟨k, hk, hka⟩ := List.any_eq_true.1 hexcluded
      have hne : (∀ k ∈ kept, excludes k i = false) → i ≠ a := by
        rintro hnone rfl
        simp [hnone k hk] at hka
      rw [ih hrest kept]
      constructor
      · rintro ⟨hi, hkept, hbefore⟩
        exact ⟨List.mem_cons_of_mem a hi, hkept, hbefore⟩
      · rintro ⟨hi, hkept, hbefore⟩
        exact ⟨(List.mem_cons.1 hi).resolve_left (hne hkept), hkept, hbefore⟩
    · rename_i hexcluded
      have hnone : ∀ k ∈ kept, excludes k a = false := by simpa using hexcluded
      have hsub := (sieveFrom_sublist excludes (a :: kept) rest).subset
      rcases eq_or_ne i a with rfl | hne
      · have hbefore : ∀ j ∈ i :: sieveFrom excludes (i :: kept) rest, j < i →
            excludes j i = false := by
          intro j hj hlt
          rcases List.mem_cons.1 hj with rfl | hj
          · exact absurd hlt (lt_irrefl j)
          · exact absurd hlt (hfirst j (hsub hj)).not_gt
        simp only [List.mem_cons_self, true_and, true_iff]
        exact ⟨hnone, hbefore⟩
      · rw [List.mem_cons, or_iff_right hne, ih hrest (a :: kept), List.mem_cons, or_iff_right hne,
          List.forall_mem_cons, List.forall_mem_cons, and_congr_right_iff]
        intro hi
        have hlt := hfirst i hi
        simp only [hlt, true_implies]
        tauto

/-- A sieve keeps a place exactly if it keeps no earlier one that excludes it. -/
lemma mem_sieve_iff (h : list.Pairwise (· < ·)) :
    i ∈ sieve excludes list ↔
      i ∈ list ∧ ∀ j ∈ sieve excludes list, j < i → excludes j i = false := by
  unfold sieve
  rw [mem_sieveFrom_iff h []]
  simp

/-- A place is among the first ones exactly if there are fewer before it. -/
lemma mem_take_iff (h : list.Pairwise (· < ·)) (hi : i ∈ list) (n : ℕ) :
    i ∈ list.take n ↔ (list.filter (· < i)).length < n := by
  induction list generalizing n with
  | nil => simp at hi
  | cons a rest ih =>
    obtain ⟨hfirst, hrest⟩ := List.pairwise_cons.1 h
    cases n with
    | zero => simp
    | succ n =>
      rcases eq_or_ne i a with rfl | hne
      · have hnone : rest.filter (· < i) = [] := by
          rw [List.filter_eq_nil_iff]
          intro j hj
          simpa using (hfirst j hj).le
        simp [hnone]
      · have hi' : i ∈ rest := (List.mem_cons.1 hi).resolve_left hne
        simp [hne, hfirst i hi', ih hrest hi' n]

end Places

/-! ## The front of a list -/

/-- What a sieve keeps of the front of a list does not depend on what follows. -/
lemma exists_sieveFrom_append (kept front rest : List α) :
    ∃ kept', sieveFrom excludes kept (front ++ rest) =
      sieveFrom excludes kept front ++ sieveFrom excludes kept' rest := by
  induction front generalizing kept with
  | nil => exact ⟨kept, rfl⟩
  | cons a front ih =>
    rw [List.cons_append, sieveFrom, sieveFrom]
    split
    · exact ih kept
    · obtain ⟨kept', hkept'⟩ := ih (a :: kept)
      exact ⟨kept', by rw [hkept', List.cons_append]⟩

theorem sieve_isPrefix {front list : List α} (h : front <+: list) :
    sieve excludes front <+: sieve excludes list := by
  obtain ⟨rest, rfl⟩ := h
  obtain ⟨kept', hkept'⟩ : ∃ kept', sieveFrom excludes [] (front ++ rest) =
      sieveFrom excludes [] front ++ sieveFrom excludes kept' rest :=
    exists_sieveFrom_append [] front rest
  exact ⟨sieveFrom excludes kept' rest, hkept'.symm⟩

/-! ## What holds from the front of a list -/

section Front

variable {q : α → Bool} {list : List α}

/-- Where a property holds of no element after one that lacks it, the elements that have it are
taken from the front. -/
lemma filter_take_of_pairwise (h : list.Pairwise fun a b => q b → q a) (n : ℕ) :
    (list.take n).filter q = (list.filter q).take n := by
  induction list generalizing n with
  | nil => simp
  | cons a rest ih =>
    obtain ⟨hfirst, hrest⟩ := List.pairwise_cons.1 h
    cases n with
    | zero => simp
    | succ n =>
      by_cases ha : q a
      · simp [ha, ih hrest n]
      · have hnone : rest.filter q = [] := by
          rw [List.filter_eq_nil_iff]
          intro b hb hqb
          exact ha (hfirst b hb hqb)
        have hnone' := ih hrest n
        rw [hnone, List.take_nil] at hnone'
        simp [ha, hnone, hnone']

/-- What lacks a property and has no element with it behind does not matter to those that have
it. -/
lemma filter_sieveFrom_of_pairwise (h : list.Pairwise fun a b => q b → q a) (kept : List α) :
    (sieveFrom excludes kept list).filter q = sieveFrom excludes kept (list.filter q) := by
  induction list generalizing kept with
  | nil => rfl
  | cons a rest ih =>
    obtain ⟨hfirst, hrest⟩ := List.pairwise_cons.1 h
    by_cases ha : q a
    · rw [List.filter_cons_of_pos ha, sieveFrom, sieveFrom]
      by_cases hexcluded : kept.any (excludes · a)
      · rw [if_pos hexcluded, if_pos hexcluded]
        exact ih hrest kept
      · rw [if_neg hexcluded, if_neg hexcluded, List.filter_cons_of_pos ha]
        rw [ih hrest (a :: kept)]
    · -- Nothing from here on has the property, whatever the sieve keeps of it.
      have hnone : ∀ b ∈ a :: rest, ¬ q b := by
        intro b hb hqb
        rcases List.mem_cons.1 hb with rfl | hb
        · exact ha hqb
        · exact ha (hfirst b hb hqb)
      have hkept : ∀ b ∈ sieveFrom excludes kept (a :: rest), ¬ q b := by
        intro b hb
        exact hnone b ((sieveFrom_sublist excludes kept (a :: rest)).subset hb)
      rw [List.filter_eq_nil_iff.2 hnone, List.filter_eq_nil_iff.2 hkept]
      rfl

end Front

end Detection
