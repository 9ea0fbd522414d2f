/-
# The graph of proposals is a forest

Every link leads from a proposal to one that begins further to the right, and from no proposal
to more than one.  A cycle would have a leftmost proposal, and this one would lead to both of
its neighbours; so there is none.  Likewise every connected part has one proposal that leads
nowhere, and every other proposal accounts for one edge.

## Main definitions

* `LeadsUpwards`: the edges of a graph lead to higher ranks, from each node to one at most.
* `Graph.toSimpleGraph`: a graph of numbered nodes, without what it says of a node and itself.
* `IsProposalForest`: what the graph of proposals looks like.

The main result is `isProposalForest_graph`.
-/
import Detection.Proofs.Ctpn.Linking
import Mathlib.Combinatorics.SimpleGraph.Acyclic
import Mathlib.Data.Set.Card
import Mathlib.Data.Set.Finite.Lemmas

namespace Detection
namespace Ctpn

/-! ## Graphs that lead upwards -/

/-- The edges of a graph lead from nodes to nodes of higher rank, and from each node to one
other at most. -/
structure LeadsUpwards {V : Type} (G : SimpleGraph V) (leads : V → V → Prop) (rank : V → ℕ) :
    Prop where
  /-- An edge leads from one of its ends to the other. -/
  adj_iff : ∀ a b, G.Adj a b ↔ leads a b ∨ leads b a
  /-- A node leads to one other at most. -/
  unique : ∀ a b c, leads a b → leads a c → b = c
  /-- Ranks rise. -/
  rank_lt : ∀ a b, leads a b → rank a < rank b

namespace LeadsUpwards

variable {V : Type} {G : SimpleGraph V} {leads : V → V → Prop} {rank : V → ℕ}

/-- A node leads to its neighbours that are of no lower rank. -/
lemma leads_of_adj (h : LeadsUpwards G leads rank) {a b : V} (hadj : G.Adj a b)
    (hle : rank a ≤ rank b) : leads a b := by
  rcases (h.adj_iff a b).1 hadj with hab | hba
  · exact hab
  · exact absurd (h.rank_lt b a hba) (Nat.not_lt.2 hle)

/-- A node of least rank on a cycle leads to both of its neighbours there. -/
theorem isAcyclic (h : LeadsUpwards G leads rank) : G.IsAcyclic := by
  classical
  intro u cycle hcycle
  obtain ⟨v, hv, hleast⟩ := Set.exists_min_image {v | v ∈ cycle.support} rank
    cycle.support.finite_toSet ⟨u, cycle.start_mem_support⟩
  have hrotated : (cycle.rotate v hv).IsCycle := hcycle.rotate hv
  have hleads : ∀ w ∈ (cycle.rotate v hv).support, G.Adj v w → leads v w := by
    intro w hw hadj
    exact h.leads_of_adj hadj (hleast w ((cycle.mem_support_rotate_iff v hv).1 hw))
  have hsnd := hleads _ (SimpleGraph.Walk.getVert_mem_support _ 1)
    (SimpleGraph.Walk.adj_snd hrotated.not_nil)
  have hpenultimate := hleads _ (SimpleGraph.Walk.getVert_mem_support _ _)
    (SimpleGraph.Walk.adj_penultimate hrotated.not_nil).symm
  exact hrotated.snd_ne_penultimate (h.unique v _ _ hsnd hpenultimate)

/-- There are as many edges as nodes that lead somewhere. -/
lemma ncard_edgeSet (h : LeadsUpwards G leads rank) :
    G.edgeSet.ncard = {a | ∃ b, leads a b}.ncard := by
  refine (Set.ncard_congr (fun a ha => s(a, ha.choose)) ?_ ?_ ?_).symm
  · intro a ha
    exact (h.adj_iff a _).2 (Or.inl ha.choose_spec)
  · intro a b ha hb heq
    rcases Sym2.eq_iff.1 heq with ⟨hab, -⟩ | ⟨hab, hba⟩
    · exact hab
    · -- Two nodes cannot lead to each other, for both would be above the other.
      have hrise := h.rank_lt _ _ ha.choose_spec
      have hrise' := h.rank_lt _ _ hb.choose_spec
      rw [hba] at hrise
      rw [← hab] at hrise'
      exact absurd hrise (Nat.lt_asymm hrise')
  · intro e he
    induction e with
    | h a b =>
      rcases (h.adj_iff a b).1 he with hab | hba
      · exact ⟨a, ⟨b, hab⟩, by rw [h.unique a _ b (Exists.choose_spec ⟨b, hab⟩) hab]⟩
      · refine ⟨b, ⟨a, hba⟩, ?_⟩
        rw [h.unique b _ a (Exists.choose_spec ⟨a, hba⟩) hba, Sym2.eq_swap]

/-- What leads nowhere is where all nodes lead to that are connected with it. -/
lemma reflTransGen_of_reachable (h : LeadsUpwards G leads rank) {a t : V}
    (ht : ∀ b, ¬ leads t b) (hreachable : G.Reachable a t) :
    Relation.ReflTransGen leads a t := by
  rw [SimpleGraph.reachable_iff_reflTransGen] at hreachable
  induction hreachable using Relation.ReflTransGen.head_induction_on with
  | refl => exact Relation.ReflTransGen.refl
  | @head a b hadj _ ih =>
    rcases (h.adj_iff a b).1 hadj with hab | hba
    · exact ih.head hab
    · -- The way up from `b` starts with the only step there is, the one to `a`.
      rcases ih.cases_head with rfl | ⟨c, hbc, hct⟩
      · exact absurd hba (ht a)
      · rwa [h.unique b a c hba hbc]

/-- Every connected part has a node that leads nowhere: one of highest rank. -/
lemma exists_reachable_top [Finite V] (h : LeadsUpwards G leads rank) (v : V) :
    ∃ t, (∀ b, ¬ leads t b) ∧ G.Reachable t v := by
  obtain ⟨t, ht, hhighest⟩ := Set.exists_max_image {a | G.Reachable a v} rank
    (Set.toFinite _) ⟨v, SimpleGraph.Reachable.refl v⟩
  refine ⟨t, fun b htb => ?_, ht⟩
  have hadj : G.Adj b t := (h.adj_iff b t).2 (Or.inr htb)
  exact absurd (h.rank_lt t b htb) (Nat.not_lt.2 (hhighest b (hadj.reachable.trans ht)))

/-- There are as many connected parts as nodes that lead nowhere. -/
lemma card_connectedComponent [Finite V] (h : LeadsUpwards G leads rank) :
    Nat.card G.ConnectedComponent = {a | ∀ b, ¬ leads a b}.ncard := by
  rw [← Nat.card_coe_set_eq]
  refine (Nat.card_congr (Equiv.ofBijective
    (fun t : {a | ∀ b, ¬ leads a b} => G.connectedComponentMk t.1) ⟨?_, ?_⟩)).symm
  · rintro ⟨t, ht⟩ ⟨t', ht'⟩ heq
    have hreachable : G.Reachable t t' := SimpleGraph.ConnectedComponent.exact heq
    rcases (h.reflTransGen_of_reachable ht' hreachable).cases_head with htt' | ⟨b, htb, -⟩
    · exact Subtype.ext htt'
    · exact absurd htb (ht b)
  · intro component
    induction component using SimpleGraph.ConnectedComponent.ind with
    | h v =>
      obtain ⟨t, ht, hreachable⟩ := h.exists_reachable_top v
      exact ⟨⟨t, ht⟩, SimpleGraph.ConnectedComponent.sound hreachable⟩

theorem ncard_edgeSet_add_card_connectedComponent [Finite V] (h : LeadsUpwards G leads rank) :
    G.edgeSet.ncard + Nat.card G.ConnectedComponent = Nat.card V := by
  have hcompl : {a | ∀ b, ¬ leads a b} = {a | ∃ b, leads a b}ᶜ := by
    ext a
    simp
  rw [h.ncard_edgeSet, h.card_connectedComponent, hcompl, Set.ncard_add_ncard_compl]

end LeadsUpwards

/-! ## The graph of proposals -/

/-- A graph of numbered nodes, without what it says of a node and itself. -/
def Graph.toSimpleGraph (g : Graph) : SimpleGraph (Fin g.nodeCount) where
  Adj a b := a ≠ b ∧ g.isLinked a b
  symm := ⟨fun a b h => ⟨h.1.symm, by rw [g.isLinked_comm, h.2]⟩⟩
  loopless := ⟨fun a h => h.1 rfl⟩

/-- What the graph of proposals looks like, given the gap that is allowed between them. -/
structure IsProposalForest (maxGap : ℕ) (proposals : List Proposal) (g : Graph) : Prop where
  /-- Its nodes are the proposals. -/
  nodeCount_eq : g.nodeCount = proposals.length
  /-- Its links have no direction. -/
  isLinked_comm : ∀ a b, g.isLinked a b = g.isLinked b a
  /-- No proposal is linked to itself. -/
  not_isLinked_self : ∀ a, ¬ g.isLinked a a
  /-- Linked proposals begin in different columns, no further apart than the gap. -/
  columns : ∀ a b, g.isLinked a b → ∃ p q, proposals[a]? = some p ∧ proposals[b]? = some q ∧
    p.column ≠ q.column ∧ p.column ≤ q.column + maxGap ∧ q.column ≤ p.column + maxGap
  /-- Each link was made from the proposal that begins on the left. -/
  rightwards : ∀ l ∈ g.links, ∃ p q, proposals[l.1]? = some p ∧ proposals[l.2]? = some q ∧
    p.column < q.column
  /-- No two links were made from one proposal. -/
  nodup_left : (g.links.map Prod.fst).Nodup
  /-- There is no cycle. -/
  isAcyclic : g.toSimpleGraph.IsAcyclic
  /-- There are as many edges and connected parts as proposals. -/
  card_eq : g.toSimpleGraph.edgeSet.ncard + Nat.card g.toSimpleGraph.ConnectedComponent =
    proposals.length

variable {s : Settings} {proposals : List Proposal} {width : ℕ}

/-- A link leads from one of the proposals to one of its nearest matches on the right. -/
lemma exists_of_mem_links {a b : ℕ} (h : (a, b) ∈ (s.graph proposals width).links) :
    ∃ p q, proposals[a]? = some p ∧ proposals[b]? = some q ∧ p.column < q.column ∧
      q.column ≤ p.column + s.maxGap := by
  obtain ⟨p, hp, next, hnext, rfl, rfl⟩ := mem_links_graph.1 h
  have hmem := mem_successors.1 (mem_of_best?_eq_some (follower?_eq_some_iff.1 hnext).1)
  obtain ⟨hnumber, -, -, hlt, hgap⟩ := hmem.1
  exact ⟨p.proposal, next.proposal, mem_number.1 hp, mem_number.1 hnumber, hlt, hgap⟩

lemma not_mem_links_self (a : ℕ) : (a, a) ∉ (s.graph proposals width).links := by
  intro h
  obtain ⟨p, q, hp, hq, hlt, -⟩ := exists_of_mem_links h
  rw [hp, Option.some.injEq] at hq
  exact absurd hlt (by simp [hq])

/-- Links are made in the order of the proposals, one from each at most. -/
lemma pairwise_links_graph :
    (s.graph proposals width).links.Pairwise fun l l' => l.1 < l'.1 := by
  rw [graph_eq, Settings.linksOf, List.pairwise_filterMap]
  refine (pairwise_number proposals).imp fun hlt l hl l' hl' => ?_
  obtain ⟨next, -, rfl⟩ := Option.map_eq_some_iff.1 hl
  obtain ⟨next', -, rfl⟩ := Option.map_eq_some_iff.1 hl'
  exact hlt

lemma nodup_map_fst_links : ((s.graph proposals width).links.map Prod.fst).Nodup := by
  rw [List.Nodup, List.pairwise_map]
  exact pairwise_links_graph.imp Nat.ne_of_lt

/-- The links of proposals lead to columns further to the right. -/
lemma leadsUpwards_graph :
    LeadsUpwards (s.graph proposals width).toSimpleGraph
      (fun a b => (a.val, b.val) ∈ (s.graph proposals width).links)
      (fun a => proposals[a.val]?.elim 0 Proposal.column) where
  adj_iff := by
    intro a b
    refine ⟨fun h => Graph.isLinked_iff.1 h.2, fun h => ⟨?_, Graph.isLinked_iff.2 h⟩⟩
    rintro rfl
    exact not_mem_links_self a.val (h.elim id id)
  unique := by
    intro a b c hb hc
    have heq : (a.val, b.val) = (a.val, c.val) :=
      List.inj_on_of_nodup_map nodup_map_fst_links hb hc rfl
    exact Fin.ext (congrArg Prod.snd heq)
  rank_lt := by
    intro a b h
    obtain ⟨p, q, hp, hq, hlt, -⟩ := exists_of_mem_links h
    simpa [hp, hq] using hlt

/-- The graph of proposals is a forest whose edges lead from column to column within the gap. -/
theorem isProposalForest_graph (s : Settings) (proposals : List Proposal) (width : ℕ) :
    IsProposalForest s.maxGap proposals (s.graph proposals width) where
  nodeCount_eq := by rw [graph_eq]
  isLinked_comm := Graph.isLinked_comm _
  not_isLinked_self := by
    intro a h
    exact not_mem_links_self a ((Graph.isLinked_iff.1 h).elim id id)
  columns := by
    intro a b h
    rcases Graph.isLinked_iff.1 h with hab | hba
    · obtain ⟨p, q, hp, hq, hlt, hgap⟩ := exists_of_mem_links hab
      exact ⟨p, q, hp, hq, Nat.ne_of_lt hlt, by omega, hgap⟩
    · obtain ⟨q, p, hq, hp, hlt, hgap⟩ := exists_of_mem_links hba
      exact ⟨p, q, hp, hq, Nat.ne_of_gt hlt, hgap, by omega⟩
  rightwards := by
    intro l hl
    obtain ⟨p, q, hp, hq, hlt, -⟩ := exists_of_mem_links hl
    exact ⟨p, q, hp, hq, hlt⟩
  nodup_left := nodup_map_fst_links
  isAcyclic := leadsUpwards_graph.isAcyclic
  card_eq := by
    rw [leadsUpwards_graph.ncard_edgeSet_add_card_connectedComponent, Nat.card_fin, graph_eq]

end Ctpn
end Detection
