/-
# Links are mutual best matches

The graph of proposals is built one link at a time from two searches through a table.  What it
comes to can be said without the table and without the order of the work: a proposal is linked
forward to another one if that is the best of its nearest matches on the right, and if it is
itself as good as every nearest match of that one on the left.

## Main definitions

* `IsBestOf`: a proposal is the first of the best of a set.
* `Settings.LinksForward`: a proposal is linked to another one on its right.

The main result is `isLinked_graph_iff`.
-/
import Detection.Proofs.Choice
import Detection.Proofs.Ctpn.Columns

namespace Detection
namespace Ctpn

/-! ## The links of the graph -/

/-- The links that the proposals of a list make, in the order in which they are made. -/
def Settings.linksOf (s : Settings) (c : Columns) (list : List Numbered) : List (ℕ × ℕ) :=
  list.filterMap fun p => (s.follower? c p.proposal).map fun next => (p.index, next.index)

/-- Making links one after the other appends them. -/
lemma foldl_link (s : Settings) (c : Columns) (list : List Numbered) (g : Graph) :
    list.foldl (fun g p =>
      match s.follower? c p.proposal with
      | none => g
      | some next => g.link p.index next.index) g =
      ⟨g.nodeCount, g.links ++ s.linksOf c list⟩ := by
  induction list generalizing g with
  | nil => simp [Settings.linksOf]
  | cons p rest ih =>
    rw [List.foldl_cons, ih]
    cases h : s.follower? c p.proposal with
    | none => simp [Settings.linksOf, h]
    | some next => simp [Graph.link, Settings.linksOf, h]

lemma graph_eq (s : Settings) (proposals : List Proposal) (width : ℕ) :
    s.graph proposals width = ⟨proposals.length,
      s.linksOf (Columns.ofProposals (number proposals) width) (number proposals)⟩ :=
  foldl_link s _ _ _

lemma mem_links_graph {s : Settings} {proposals : List Proposal} {width a b : ℕ} :
    (a, b) ∈ (s.graph proposals width).links ↔ ∃ p ∈ number proposals, ∃ next,
      s.follower? (Columns.ofProposals (number proposals) width) p.proposal = some next ∧
        p.index = a ∧ next.index = b := by
  simp [graph_eq, Settings.linksOf]

/-! ## The best of several proposals -/

/-- A proposal is the one with the smallest number among the best of a set. -/
structure IsBestOf (proposals : Set Numbered) (q : Numbered) : Prop where
  /-- It belongs to the set. -/
  mem : q ∈ proposals
  /-- No proposal of the set is better. -/
  best : ∀ r ∈ proposals, r.proposal.score ≤ q.proposal.score
  /-- No proposal of the set that is as good has a smaller number. -/
  first : ∀ r ∈ proposals, q.proposal.score ≤ r.proposal.score → q.index ≤ r.index

lemma best?_eq_none {list : List Numbered} (h : best? list = none) :
    ∀ p ∈ list, ¬ -infinity32 < p.proposal.score := by
  unfold best? at h
  rcases bestAbove_cases (-infinity32) (list.map (·.proposal.score)) with
    ⟨-, hnone⟩ | ⟨k, hk, -, heq⟩
  · exact fun p hp => hnone _ (List.mem_map_of_mem hp)
  · rw [heq] at h
    simp only [List.length_map] at hk
    simp [hk] at h

/-- What is chosen from a list stands at the first position of the greatest score. -/
lemma exists_of_best?_eq_some {list : List Numbered} {q : Numbered} (h : best? list = some q) :
    ∃ k, ∃ hk : k < list.length, list[k] = q ∧
      IsFirstBest (-infinity32) (list.map (·.proposal.score)) k := by
  unfold best? at h
  rcases bestAbove_cases (-infinity32) (list.map (·.proposal.score)) with
    ⟨heq, -⟩ | ⟨k, hk, hbest, heq⟩
  · rw [heq] at h
    exact absurd h (by simp)
  · rw [heq] at h
    exact ⟨k, by simpa using hk, (List.getElem?_eq_some_iff.1 h).2, hbest⟩

lemma mem_of_best?_eq_some {list : List Numbered} {q : Numbered} (h : best? list = some q) :
    q ∈ list := by
  obtain ⟨k, hk, rfl, -⟩ := exists_of_best?_eq_some h
  exact List.getElem_mem hk

variable {list : List Numbered} {q : Numbered}

/-- Where no score is missing, what is chosen from a list in the order of the numbers is the
first of the best. -/
lemma isBestOf_of_best?_eq_some (hfinite : ∀ p ∈ list, p.proposal.score.isFinite)
    (hsorted : list.Pairwise fun p r => p.index < r.index) (h : best? list = some q) :
    IsBestOf {p | p ∈ list} q := by
  obtain ⟨k, hk, rfl, hbest⟩ := exists_of_best?_eq_some h
  have hscore : ∀ p ∈ list, p.proposal.score.isNaN = false := fun p hp =>
    Float32.isNaN_of_isFinite (hfinite p hp)
  refine ⟨List.getElem_mem hk, fun r hr => ?_, fun r hr hle => ?_⟩
  · have hnot := hbest.greatest _ (List.mem_map_of_mem hr)
    rw [List.getElem_map] at hnot
    exact (Float32.not_lt (hscore _ (List.getElem_mem hk)) (hscore r hr)).1 hnot
  · obtain ⟨j, hj, rfl⟩ := List.getElem_of_mem hr
    have hkj : k ≤ j := by
      by_contra hlt
      have hnot := hbest.first j (by omega)
      simp only [List.getElem_map] at hnot
      exact hnot hle
    rcases Nat.eq_or_lt_of_le hkj with rfl | hlt
    · exact Nat.le_refl _
    · exact Nat.le_of_lt (List.pairwise_iff_getElem.1 hsorted k j hk hj hlt)

/-- There is no more than one first of the best in a list in the order of the numbers. -/
lemma IsBestOf.unique (hsorted : list.Pairwise fun p r => p.index < r.index) {r : Numbered}
    (hq : IsBestOf {p | p ∈ list} q) (hr : IsBestOf {p | p ∈ list} r) : q = r := by
  have hindex : q.index = r.index :=
    Nat.le_antisymm (hq.first r hr.mem (hr.best q hq.mem)) (hr.first q hq.mem (hq.best r hr.mem))
  by_contra hne
  obtain ⟨i, hi, rfl⟩ := List.getElem_of_mem hq.mem
  obtain ⟨j, hj, rfl⟩ := List.getElem_of_mem hr.mem
  have horder := List.pairwise_iff_getElem.1 hsorted
  rcases Nat.lt_trichotomy i j with hlt | rfl | hlt
  · exact absurd hindex (Nat.ne_of_lt (horder i j hi hj hlt))
  · exact hne rfl
  · exact absurd hindex.symm (Nat.ne_of_lt (horder j i hj hi hlt))

lemma best?_eq_some_iff (hfinite : ∀ p ∈ list, p.proposal.score.isFinite)
    (hsorted : list.Pairwise fun p r => p.index < r.index) :
    best? list = some q ↔ IsBestOf {p | p ∈ list} q := by
  refine ⟨isBestOf_of_best?_eq_some hfinite hsorted, fun h => ?_⟩
  cases hbest : best? list with
  | none => exact absurd (Float32.neg_infinity32_lt (hfinite q h.mem)) (best?_eq_none hbest q h.mem)
  | some r =>
    rw [h.unique hsorted (isBestOf_of_best?_eq_some hfinite hsorted hbest)]

/-! ## The greatest score -/

lemma foldl_greatest32_le_iff {scores : List Float32} {start bound : Float32}
    (hstart : start.isNaN = false) (hscores : ∀ score ∈ scores, score.isNaN = false) :
    scores.foldl greatest32 start ≤ bound ↔
      start ≤ bound ∧ ∀ score ∈ scores, score ≤ bound := by
  induction scores generalizing start with
  | nil => simp
  | cons score rest ih =>
    have hscore := hscores score List.mem_cons_self
    rw [List.foldl_cons, ih (isNaN_greatest32 hstart hscore)
      fun other hother => hscores other (List.mem_cons_of_mem score hother),
      greatest32_le_iff hstart hscore, List.forall_mem_cons, and_assoc]

lemma greatestScore_le_iff {bound : Float32} (hfinite : ∀ p ∈ list, p.proposal.score.isFinite)
    (hbound : bound.isFinite) :
    greatestScore list ≤ bound ↔ ∀ p ∈ list, p.proposal.score ≤ bound := by
  have hlow : -infinity32 < bound := Float32.neg_infinity32_lt hbound
  rw [greatestScore, foldl_greatest32_le_iff (Float32.lt_iff.1 hlow).1]
  · simp [Float32.le_of_lt hlow]
  · intro score hscore
    obtain ⟨p, hp, rfl⟩ := List.mem_map.1 hscore
    exact Float32.isNaN_of_isFinite (hfinite p hp)

/-! ## Links without the table -/

/-- What follows a proposal is the best of its successors, if that one has predecessors and
none of them is better than the proposal. -/
lemma follower?_eq_some_iff {s : Settings} {c : Columns} {p : Proposal} {next : Numbered} :
    s.follower? c p = some next ↔ best? (s.successors c p) = some next ∧
      (s.predecessors c next.proposal).isEmpty = false ∧
      greatestScore (s.predecessors c next.proposal) ≤ p.score := by
  unfold Settings.follower?
  cases h : best? (s.successors c p) with
  | none => simp
  | some q =>
    simp only [Bool.and_eq_true, Bool.not_eq_true', decide_eq_true_eq,
      Option.ite_none_right_eq_some, Option.some.injEq]
    constructor
    · rintro ⟨⟨hne, hle⟩, rfl⟩
      exact ⟨rfl, hne, hle⟩
    · rintro ⟨rfl, hne, hle⟩
      exact ⟨⟨hne, hle⟩, rfl⟩

/-- A proposal is linked to another one on its right: that one is the best of its nearest
matches on the right, and it is as good itself as all nearest matches of that one on the left,
of which there are some. -/
structure Settings.LinksForward (s : Settings) (all : List Numbered) (width : ℕ)
    (p next : Numbered) : Prop where
  /-- It is the best of the nearest matches on the right. -/
  best : IsBestOf (s.nearestRight all width p.proposal) next
  /-- It has nearest matches on the left. -/
  rivals : (s.nearestLeft all width next.proposal).Nonempty
  /-- None of them is better than the proposal. -/
  strongest : ∀ r ∈ s.nearestLeft all width next.proposal, r.proposal.score ≤ p.proposal.score

section

variable {s : Settings} {all : List Numbered} {width : ℕ}

lemma setOf_mem_successors (p : Proposal) :
    {q | q ∈ s.successors (Columns.ofProposals all width) p} = s.nearestRight all width p :=
  Set.ext fun _ => mem_successors

lemma mem_of_mem_successors {p : Proposal} {next : Numbered}
    (h : next ∈ s.successors (Columns.ofProposals all width) p) : next ∈ all :=
  (mem_successors.1 h).1.1

lemma mem_of_mem_predecessors {p : Proposal} {r : Numbered} (hp : p.column < 0x8000000000000000)
    (h : r ∈ s.predecessors (Columns.ofProposals all width) p) : r ∈ all :=
  ((mem_predecessors hp).1 h).1.1

/-- The successors of a proposal are in the order of all proposals. -/
lemma pairwise_successors {R : Numbered → Numbered → Prop} (hall : all.Pairwise R)
    (p : Proposal) : (s.successors (Columns.ofProposals all width) p).Pairwise R := by
  refine firstNonempty_induction List.Pairwise.nil fun list hlist => ?_
  obtain ⟨column, -, rfl⟩ := List.mem_map.1 hlist
  rw [Columns.get_ofProposals]
  exact (hall.filter _).filter _

lemma best?_successors_eq_some_iff {p : Proposal} {next : Numbered}
    (hfinite : ∀ q ∈ all, q.proposal.score.isFinite)
    (hsorted : all.Pairwise fun p r => p.index < r.index) :
    best? (s.successors (Columns.ofProposals all width) p) = some next ↔
      IsBestOf (s.nearestRight all width p) next := by
  rw [← setOf_mem_successors]
  exact best?_eq_some_iff (fun q hq => hfinite q (mem_of_mem_successors hq))
    (pairwise_successors hsorted p)

/-- The links of proposals in the order of their numbers, none of which lacks a score. -/
lemma follower?_eq_some_iff_linksForward {p next : Numbered} (hp : p ∈ all)
    (hwidth : width ≤ 0x8000000000000000) (hfinite : ∀ q ∈ all, q.proposal.score.isFinite)
    (hsorted : all.Pairwise fun p r => p.index < r.index) :
    s.follower? (Columns.ofProposals all width) p.proposal = some next ↔
      s.LinksForward all width p next := by
  rw [follower?_eq_some_iff, best?_successors_eq_some_iff hfinite hsorted]
  -- Only of a follower, which begins within the width, is it known that its column is small.
  by_cases hbest : IsBestOf (s.nearestRight all width p.proposal) next
  · have hcolumn : next.proposal.column < 0x8000000000000000 :=
      Nat.lt_of_lt_of_le (column_lt_of_isWithin hbest.mem.1.2.1) hwidth
    have hrivals : ∀ r ∈ s.predecessors (Columns.ofProposals all width) next.proposal,
        r.proposal.score.isFinite := fun r hr => hfinite r (mem_of_mem_predecessors hcolumn hr)
    rw [greatestScore_le_iff hrivals (hfinite p hp), List.isEmpty_eq_false_iff_exists_mem]
    simp only [mem_predecessors hcolumn]
    exact ⟨fun h => ⟨h.1, h.2.1, h.2.2⟩, fun h => ⟨h.best, h.rivals, h.strongest⟩⟩
  · exact ⟨fun h => absurd h.1 hbest, fun h => absurd h.best hbest⟩

end

/-- Two proposals are linked if and only if one of them is linked forward to the other. -/
theorem isLinked_graph_iff (s : Settings) (proposals : List Proposal) (width : UInt32)
    (hfinite : ∀ p ∈ proposals, p.score.isFinite) (a b : ℕ) :
    (s.graph proposals width.toNat).isLinked a b ↔
      ∃ p ∈ number proposals, ∃ q ∈ number proposals, p.index = a ∧ q.index = b ∧
        (s.LinksForward (number proposals) width.toNat p q ∨
          s.LinksForward (number proposals) width.toNat q p) := by
  have hscores : ∀ q ∈ number proposals, q.proposal.score.isFinite := fun q hq =>
    hfinite _ (List.mem_of_getElem? (mem_number.1 hq))
  have hwidth : width.toNat ≤ 0x8000000000000000 := by
    have := width.toNat_lt
    omega
  have hforward : ∀ a b, (a, b) ∈ (s.graph proposals width.toNat).links ↔
      ∃ p ∈ number proposals, ∃ q ∈ number proposals, p.index = a ∧ q.index = b ∧
        s.LinksForward (number proposals) width.toNat p q := by
    intro a b
    rw [mem_links_graph]
    constructor
    · rintro ⟨p, hp, next, hnext, ha, hb⟩
      rw [follower?_eq_some_iff_linksForward hp hwidth hscores (pairwise_number proposals)] at hnext
      exact ⟨p, hp, next, hnext.best.mem.1.1, ha, hb, hnext⟩
    · rintro ⟨p, hp, next, -, ha, hb, hnext⟩
      rw [← follower?_eq_some_iff_linksForward hp hwidth hscores
        (pairwise_number proposals)] at hnext
      exact ⟨p, hp, next, hnext, ha, hb⟩
  rw [Graph.isLinked_iff, hforward, hforward]
  constructor
  · rintro (⟨p, hp, q, hq, ha, hb, h⟩ | ⟨q, hq, p, hp, hb, ha, h⟩)
    · exact ⟨p, hp, q, hq, ha, hb, Or.inl h⟩
    · exact ⟨p, hp, q, hq, ha, hb, Or.inr h⟩
  · rintro ⟨p, hp, q, hq, ha, hb, h | h⟩
    · exact Or.inl ⟨p, hp, q, hq, ha, hb, h⟩
    · exact Or.inr ⟨q, hq, p, hp, hb, ha, h⟩

/-- Three proposals: the last begins behind the others and matches both, and the second is the
better one of these. -/
def threeProposals : List Proposal :=
  [⟨⟨0.0, 0.0, 15.0, 20.0⟩, 0.8⟩, ⟨⟨8.0, 10.0, 23.0, 30.0⟩, 0.9⟩,
    ⟨⟨16.0, 5.0, 31.0, 25.0⟩, 0.85⟩]

theorem linksForward_threeProposals : (∀ p ∈ threeProposals, p.score.isFinite) ∧
    (∃ p ∈ number threeProposals, ∃ q ∈ number threeProposals, p.index = 1 ∧ q.index = 2 ∧
      ((Settings.ofSettings .empty).LinksForward (number threeProposals) 100 p q ∨
        (Settings.ofSettings .empty).LinksForward (number threeProposals) 100 q p)) ∧
    ¬ ∃ p ∈ number threeProposals, ∃ q ∈ number threeProposals, p.index = 0 ∧ q.index = 2 ∧
      ((Settings.ofSettings .empty).LinksForward (number threeProposals) 100 p q ∨
        (Settings.ofSettings .empty).LinksForward (number threeProposals) 100 q p) := by
  have hfinite : ∀ p ∈ threeProposals, p.score.isFinite := by decide
  have hlinked := isLinked_graph_iff (.ofSettings .empty) threeProposals 100 hfinite
  refine ⟨hfinite, (hlinked 1 2).1 ?_, fun h => absurd ((hlinked 0 2).2 h) ?_⟩
  · decide +kernel
  · decide +kernel

end Ctpn
end Detection
