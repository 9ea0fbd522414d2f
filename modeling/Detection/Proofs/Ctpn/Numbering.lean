/-
# Links do not depend on numbers

Proposals are numbered in the order in which they come, and the columns, the searches and the links
speak of them by number.  Yet which proposals are linked is decided by the proposals themselves,
except that of several best successors the one with the smallest number is chosen.  Where no two
scores are equal, giving the proposals other numbers therefore gives the nodes of the graph other
numbers and changes nothing else.

## Main definitions

* `IsRenumbering`: a list holds the proposals of another one under other numbers.
* `HasDistinctScores`: all scores are numbers, and no two of them are equal.
* `partsOf`: the connected parts of a graph of proposals, as sets of proposals.

The main result is `isLinked_graph_renumber`.
-/
import Detection.Proofs.Ctpn.Components
import Detection.Proofs.Ctpn.Forest
import Detection.Proofs.Number.Scaling
import Mathlib.Logic.Equiv.Basic

namespace Detection
namespace Ctpn

/-! ## Other numbers -/

/-- The second list holds the proposals of the first one, each under the number that a permutation
gives it instead of its own. -/
def IsRenumbering (π : Equiv.Perm ℕ) (proposals proposals' : List Proposal) : Prop :=
  ∀ a, proposals'[π a]? = proposals[a]?

/-- A proposal under the number that a permutation gives it. -/
def renumber (π : Equiv.Perm ℕ) : Equiv.Perm Numbered where
  toFun p := ⟨π p.index, p.proposal⟩
  invFun p := ⟨π.symm p.index, p.proposal⟩
  left_inv p := by simp
  right_inv p := by simp

variable {π : Equiv.Perm ℕ} {p q : Numbered}

@[simp] lemma index_renumber : (renumber π p).index = π p.index := rfl

@[simp] lemma proposal_renumber : (renumber π p).proposal = p.proposal := rfl

variable {proposals proposals' : List Proposal}

namespace IsRenumbering

lemma mem_number (h : IsRenumbering π proposals proposals') :
    renumber π p ∈ number proposals' ↔ p ∈ number proposals := by
  rw [Ctpn.mem_number, Ctpn.mem_number, index_renumber, proposal_renumber, h p.index]

lemma mem_iff (h : IsRenumbering π proposals proposals') {p : Proposal} :
    p ∈ proposals' ↔ p ∈ proposals := by
  rw [List.mem_iff_getElem?, List.mem_iff_getElem?, ← π.exists_congr_right]
  simp only [h _]

lemma lt_length_iff (h : IsRenumbering π proposals proposals') (a : ℕ) :
    π a < proposals'.length ↔ a < proposals.length := by
  rw [← not_le, ← not_le, ← List.getElem?_eq_none_iff, ← List.getElem?_eq_none_iff, h a]

end IsRenumbering

/-! ## Links under other numbers -/

section

variable {S S' : Set Numbered} (hS : ∀ p, renumber π p ∈ S' ↔ p ∈ S)

include hS

lemma forall_mem_renumber {P : Numbered → Prop} :
    (∀ r ∈ S', P r) ↔ ∀ r ∈ S, P (renumber π r) := by
  rw [← (renumber π).forall_congr_right]
  simp only [hS]

/-- Where no two scores are equal, it does not matter which of two numbers is the smaller one. -/
lemma isBestOf_renumber (hdistinct : ∀ p ∈ S, ∀ q ∈ S, p.proposal.score ≤ q.proposal.score →
      q.proposal.score ≤ p.proposal.score → p = q) :
    IsBestOf S' (renumber π q) ↔ IsBestOf S q := by
  constructor
  · rintro ⟨hmem, hbest, -⟩
    have hbest' := (forall_mem_renumber hS).1 hbest
    refine ⟨(hS q).1 hmem, hbest', fun r hr hle => ?_⟩
    rw [hdistinct q ((hS q).1 hmem) r hr hle (hbest' r hr)]
  · rintro ⟨hmem, hbest, -⟩
    refine ⟨(hS q).2 hmem, (forall_mem_renumber hS).2 hbest,
      (forall_mem_renumber hS).2 fun r hr hle => ?_⟩
    rw [hdistinct q hmem r hr hle (hbest r hr)]

end

section

variable {s : Settings} {all all' : List Numbered} {width : ℕ} {target : Proposal}
  (hall : ∀ p, renumber π p ∈ all' ↔ p ∈ all)

include hall

lemma mem_rightMatches_renumber :
    renumber π p ∈ s.rightMatches all' width target ↔ p ∈ s.rightMatches all width target :=
  and_congr_left' (hall p)

lemma mem_leftMatches_renumber :
    renumber π p ∈ s.leftMatches all' width target ↔ p ∈ s.leftMatches all width target :=
  and_congr_left' (hall p)

lemma mem_nearestRight_renumber :
    renumber π p ∈ s.nearestRight all' width target ↔ p ∈ s.nearestRight all width target :=
  and_congr (mem_rightMatches_renumber hall)
    (forall_mem_renumber fun _ => mem_rightMatches_renumber hall)

lemma mem_nearestLeft_renumber :
    renumber π p ∈ s.nearestLeft all' width target ↔ p ∈ s.nearestLeft all width target :=
  and_congr (mem_leftMatches_renumber hall)
    (forall_mem_renumber fun _ => mem_leftMatches_renumber hall)

lemma linksForward_renumber (hdistinct : ∀ p ∈ all, ∀ q ∈ all,
      p.proposal.score ≤ q.proposal.score → q.proposal.score ≤ p.proposal.score → p = q) :
    s.LinksForward all' width (renumber π p) (renumber π q) ↔ s.LinksForward all width p q := by
  have hbest : IsBestOf (s.nearestRight all' width p.proposal) (renumber π q) ↔
      IsBestOf (s.nearestRight all width p.proposal) q :=
    isBestOf_renumber (fun _ => mem_nearestRight_renumber hall)
      fun p hp q hq => hdistinct p hp.1.1 q hq.1.1
  have hrivals : (s.nearestLeft all' width q.proposal).Nonempty ↔
      (s.nearestLeft all width q.proposal).Nonempty := by
    unfold Set.Nonempty
    rw [← (renumber π).exists_congr_right]
    simp only [mem_nearestLeft_renumber hall]
  have hstrongest : (∀ r ∈ s.nearestLeft all' width q.proposal,
      r.proposal.score ≤ p.proposal.score) ↔
      ∀ r ∈ s.nearestLeft all width q.proposal, r.proposal.score ≤ p.proposal.score :=
    forall_mem_renumber fun _ => mem_nearestLeft_renumber hall
  exact ⟨fun h => ⟨hbest.1 h.best, hrivals.1 h.rivals, hstrongest.1 h.strongest⟩,
    fun h => ⟨hbest.2 h.best, hrivals.2 h.rivals, hstrongest.2 h.strongest⟩⟩

end

/-! ## The graph under other numbers -/

/-- All scores are finite numbers, and no two of them are equal. -/
structure HasDistinctScores (proposals : List Proposal) : Prop where
  /-- The scores are finite numbers. -/
  isFinite : ∀ p ∈ proposals, p.score.isFinite
  /-- No two of these numbers are equal. -/
  nodup : (proposals.map fun p => Float32.value p.score).Nodup

lemma HasDistinctScores.eq_of_le_of_le (h : HasDistinctScores proposals)
    (hp : p ∈ number proposals) (hq : q ∈ number proposals)
    (hpq : p.proposal.score ≤ q.proposal.score) (hqp : q.proposal.score ≤ p.proposal.score) :
    p = q := by
  rw [mem_number] at hp hq
  have hpfinite := h.isFinite _ (List.mem_of_getElem? hp)
  have hqfinite := h.isFinite _ (List.mem_of_getElem? hq)
  have hvalue : Float32.value p.proposal.score = Float32.value q.proposal.score :=
    le_antisymm (Float32.value_le_value hpfinite hqfinite hpq)
      (Float32.value_le_value hqfinite hpfinite hqp)
  have hindex : p.index = q.index := by
    have hlength : p.index < (proposals.map fun p => Float32.value p.score).length := by
      rw [List.length_map]
      exact (List.getElem?_eq_some_iff.1 hp).1
    refine (List.getElem?_inj hlength h.nodup).1 ?_
    rw [List.getElem?_map, List.getElem?_map, hp, hq, Option.map_some, Option.map_some, hvalue]
  rw [hindex, hq, Option.some.injEq] at hp
  cases p
  cases q
  exact congrArg₂ Numbered.mk hindex hp.symm

variable {s : Settings} {width : UInt32}

/-- Links lead from proposals to those that they are linked forward to. -/
lemma mem_links_graph_iff_linksForward (hfinite : ∀ p ∈ proposals, p.score.isFinite) {a b : ℕ} :
    (a, b) ∈ (s.graph proposals width.toNat).links ↔ ∃ p, p ∈ number proposals ∧ p.index = a ∧
      ∃ q, q.index = b ∧ s.LinksForward (number proposals) width.toNat p q := by
  have hscores : ∀ q ∈ number proposals, q.proposal.score.isFinite := fun q hq =>
    hfinite _ (List.mem_of_getElem? (mem_number.1 hq))
  have hwidth : width.toNat ≤ 0x8000000000000000 := by
    have := width.toNat_lt
    omega
  rw [mem_links_graph]
  refine exists_congr fun p => and_congr_right fun hp => ?_
  simp only [follower?_eq_some_iff_linksForward hp hwidth hscores (pairwise_number proposals)]
  constructor
  · rintro ⟨q, hq, ha, hb⟩
    exact ⟨ha, q, hb, hq⟩
  · rintro ⟨ha, q, hb, hq⟩
    exact ⟨q, hq, ha, hb⟩

lemma mem_links_renumber (hπ : IsRenumbering π proposals proposals')
    (hscores : HasDistinctScores proposals) {a b : ℕ} :
    (π a, π b) ∈ (s.graph proposals' width.toNat).links ↔
      (a, b) ∈ (s.graph proposals width.toNat).links := by
  have hfinite : ∀ p ∈ proposals', p.score.isFinite := fun p hp =>
    hscores.isFinite p (hπ.mem_iff.1 hp)
  rw [mem_links_graph_iff_linksForward hfinite, mem_links_graph_iff_linksForward hscores.isFinite,
    ← (renumber π).exists_congr_right]
  refine exists_congr fun p => and_congr hπ.mem_number (and_congr π.apply_eq_iff_eq ?_)
  rw [← (renumber π).exists_congr_right]
  refine exists_congr fun q => and_congr π.apply_eq_iff_eq ?_
  exact linksForward_renumber (fun _ => hπ.mem_number) fun p hp q hq =>
    hscores.eq_of_le_of_le hp hq

/-- The connected parts of a graph of proposals, each as the set of the proposals in it. -/
def partsOf (proposals : List Proposal) (g : Graph) : Set (Set Proposal) :=
  {part | ∃ nodes ∈ g.components, {p | ∃ a ∈ nodes, proposals[a]? = some p} = part}

lemma isClosed_graph (s : Settings) (proposals : List Proposal) (width : ℕ) :
    (s.graph proposals width).IsClosed := by
  rintro ⟨a, b⟩ h
  obtain ⟨p, q, hp, hq, -⟩ := exists_of_mem_links h
  rw [graph_eq]
  exact ⟨(List.getElem?_eq_some_iff.1 hp).1, (List.getElem?_eq_some_iff.1 hq).1⟩

/-- Each part holds the proposals that paths of links join to one of them. -/
lemma mem_partsOf_graph {part : Set Proposal} :
    part ∈ partsOf proposals (s.graph proposals width.toNat) ↔ ∃ a < proposals.length,
      {p | ∃ b, (s.graph proposals width.toNat).IsJoined a b ∧ proposals[b]? = some p} = part := by
  have hpartition := (isClosed_graph s proposals width.toNat).isPartition
  have hcount : (s.graph proposals width.toNat).nodeCount = proposals.length := by rw [graph_eq]
  constructor
  · rintro ⟨nodes, hnodes, rfl⟩
    obtain ⟨a, ha, heq⟩ := hpartition.exists_part_iff_joined.1 ⟨nodes, hnodes, rfl⟩
    refine ⟨a, hcount ▸ ha, Set.ext fun p => exists_congr fun b => ?_⟩
    exact and_congr_left' (Set.ext_iff.1 heq b)
  · rintro ⟨a, ha, rfl⟩
    obtain ⟨nodes, hnodes, heq⟩ := hpartition.exists_part_iff_joined.2 ⟨a, hcount ▸ ha, rfl⟩
    refine ⟨nodes, hnodes, Set.ext fun p => exists_congr fun b => ?_⟩
    exact and_congr_left' (Set.ext_iff.1 heq b)

lemma isJoined_map {g g' : Graph} {f : ℕ → ℕ}
    (h : ∀ a b, g.isLinked a b → g'.isLinked (f a) (f b)) {a b : ℕ} (hab : g.IsJoined a b) :
    g'.IsJoined (f a) (f b) :=
  Relation.ReflTransGen.lift f h a b hab

lemma isJoined_renumber {g g' : Graph} (h : ∀ a b, g'.isLinked (π a) (π b) = g.isLinked a b)
    {a b : ℕ} : g'.IsJoined (π a) (π b) ↔ g.IsJoined a b := by
  have hback : ∀ c d, g'.isLinked c d → g.isLinked (π.symm c) (π.symm d) := by
    intro c d hcd
    rwa [← h, π.apply_symm_apply, π.apply_symm_apply]
  refine ⟨fun hjoined => ?_, isJoined_map fun c d hcd => by rwa [h]⟩
  simpa using isJoined_map hback hjoined

/-- **The graph of proposals does not depend on their numbers**, where no two scores are equal.
Under other numbers the same proposals are linked, and the connected parts are the same. -/
theorem isLinked_graph_renumber (s : Settings) (proposals proposals' : List Proposal)
    (width : UInt32) (hscores : HasDistinctScores proposals) (π : Equiv.Perm ℕ)
    (hπ : IsRenumbering π proposals proposals') :
    (∀ a b, (s.graph proposals' width.toNat).isLinked (π a) (π b) =
      (s.graph proposals width.toNat).isLinked a b) ∧
      partsOf proposals' (s.graph proposals' width.toNat) =
        partsOf proposals (s.graph proposals width.toNat) := by
  have hlinked : ∀ a b, (s.graph proposals' width.toNat).isLinked (π a) (π b) =
      (s.graph proposals width.toNat).isLinked a b := by
    intro a b
    rw [Bool.eq_iff_iff, Graph.isLinked_iff, Graph.isLinked_iff]
    exact or_congr (mem_links_renumber hπ hscores) (mem_links_renumber hπ hscores)
  refine ⟨hlinked, Set.ext fun part => ?_⟩
  rw [mem_partsOf_graph, mem_partsOf_graph, ← π.exists_congr_right]
  refine exists_congr fun a => and_congr (hπ.lt_length_iff a) (Eq.congr_left ?_)
  refine Set.ext fun p => ?_
  rw [Set.mem_ofPred_eq, Set.mem_ofPred_eq, ← π.exists_congr_right]
  refine exists_congr fun b => and_congr (isJoined_renumber hlinked) ?_
  rw [hπ b]

/-- Three proposals the other way round: the nodes are others, and the parts are the same. -/
theorem isLinked_graph_renumber_threeProposals :
    let s := Settings.ofSettings .empty
    HasDistinctScores threeProposals ∧
      IsRenumbering (Equiv.swap 0 2) threeProposals threeProposals.reverse ∧
      (s.graph threeProposals 100).components = [[0], [1, 2]] ∧
      (s.graph threeProposals.reverse 100).components = [[0, 1], [2]] ∧
      (s.graph threeProposals.reverse 100).isLinked 1 0 =
        (s.graph threeProposals 100).isLinked 1 2 ∧
      partsOf threeProposals.reverse (s.graph threeProposals.reverse 100) =
        partsOf threeProposals (s.graph threeProposals 100) := by
  have hscores : HasDistinctScores threeProposals := ⟨by decide, by decide +kernel⟩
  have hrenumbering : IsRenumbering (Equiv.swap 0 2) threeProposals threeProposals.reverse := by
    intro a
    match a with
    | 0 | 1 | 2 => rfl
    | a + 3 => rfl
  obtain ⟨hlinked, hparts⟩ := isLinked_graph_renumber (.ofSettings .empty) threeProposals
    threeProposals.reverse 100 hscores (Equiv.swap 0 2) hrenumbering
  exact ⟨hscores, hrenumbering, by decide +kernel, by decide +kernel, hlinked 1 2, hparts⟩

end Ctpn
end Detection
