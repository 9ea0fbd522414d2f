/-
# Breadth-first search

The search is told how many nodes it may visit at most.  Where links stay among the nodes of a
graph, that many are enough: the search ends because nothing is left in its queue.  A search
that ends visits its queue first and then what it adds to it, and what it adds is all that links
lead to.

## Main definitions

* `Graph.IsJoined`: a path of links joins two nodes.
* `Graph.Searches`: a search without a bound ends.
* `Graph.Spreads`: what a search that ends has added to its queue.

The main results are `Graph.searches_searchFrom` and `Graph.Searches.exists_spreads`.
-/
import Detection.Ctpn.Graph
import Mathlib.Data.List.Perm.Subperm
import Mathlib.Data.Nat.Notation
import Mathlib.Logic.Relation

namespace Detection
namespace Ctpn
namespace Graph

/-! ## Paths of links -/

/-- A path of links joins two nodes; a node is joined to itself. -/
def IsJoined (g : Graph) : ℕ → ℕ → Prop :=
  Relation.ReflTransGen fun a b => g.isLinked a b

/-- Links are made between nodes of the graph only. -/
def IsClosed (g : Graph) : Prop :=
  ∀ l ∈ g.links, l.1 < g.nodeCount ∧ l.2 < g.nodeCount

variable {g : Graph} {a b node : ℕ} {queue seen : List ℕ}

lemma IsJoined.symm (h : g.IsJoined a b) : g.IsJoined b a := by
  induction h with
  | refl => exact Relation.ReflTransGen.refl
  | @tail b c _ hlink ih =>
    rw [g.isLinked_comm] at hlink
    exact ih.head hlink

lemma IsClosed.lt_of_isLinked (hg : g.IsClosed) (h : g.isLinked a b) : b < g.nodeCount := by
  rcases isLinked_iff.1 h with hab | hba
  · exact (hg _ hab).2
  · exact (hg _ hba).1

lemma IsClosed.lt_of_isJoined (hg : g.IsClosed) (ha : a < g.nodeCount) (h : g.IsJoined a b) :
    b < g.nodeCount := by
  induction h with
  | refl => exact ha
  | tail _ hlink _ => exact hg.lt_of_isLinked hlink

/-- What contains the neighbours of all of its nodes contains all that is joined to one of
them. -/
lemma mem_of_isJoined {nodes : List ℕ}
    (hclosed : ∀ a ∈ nodes, ∀ b, g.isLinked a b → b ∈ nodes) (ha : a ∈ nodes)
    (h : g.IsJoined a b) : b ∈ nodes := by
  induction h with
  | refl => exact ha
  | tail _ hlink ih => exact hclosed _ ih _ hlink

/-! ## A search without a bound -/

/-- The neighbours of a node that were not seen before. -/
def fresh (g : Graph) (node : ℕ) (seen : List ℕ) : List ℕ :=
  (g.neighbours node).filter fun n => !seen.contains n

@[simp] lemma mem_fresh : b ∈ g.fresh a seen ↔ g.isLinked a b ∧ b ∉ seen := by
  simp [fresh]

lemma nodup_append_fresh (hseen : seen.Nodup) : (seen ++ g.fresh node seen).Nodup := by
  have hfresh : (g.fresh node seen).Nodup :=
    ((pairwise_ascending _).imp Nat.ne_of_lt).filter _
  refine List.nodup_append.2 ⟨hseen, hfresh, fun a ha b hb => ?_⟩
  rintro rfl
  exact (mem_fresh.1 hb).2 ha

/-- A search that has a queue of nodes to visit and has seen nodes so far ends, with what it
finds.  A step visits the first node of the queue and queues its fresh neighbours. -/
inductive Searches (g : Graph) : List ℕ → List ℕ → Search → Prop
  /-- Nothing is left to visit. -/
  | done (seen : List ℕ) : Searches g [] seen ⟨[], seen⟩
  /-- A node is visited, and the search goes on. -/
  | visit {node : ℕ} {queue seen : List ℕ} {later : Search}
      (h : Searches g (queue ++ g.fresh node seen) (seen ++ g.fresh node seen) later) :
      Searches g (node :: queue) seen ⟨node :: later.order, later.seen⟩

lemma length_le_of_nodup {nodes : List ℕ} {n : ℕ} (hnodup : nodes.Nodup)
    (hlt : ∀ a ∈ nodes, a < n) : nodes.length ≤ n := by
  have hsubset : nodes ⊆ List.range n := fun a ha => List.mem_range.2 (hlt a ha)
  simpa using (hnodup.subperm hsubset).length_le

-- Nodes that are queued are seen at once, so the nodes in the queue and those not seen yet
-- together become one fewer with each visit.
theorem searches_searchFrom (hg : g.IsClosed) {fuel : ℕ} (hnodup : seen.Nodup)
    (hseen : ∀ a ∈ seen, a < g.nodeCount)
    (hfuel : queue.length + (g.nodeCount - seen.length) ≤ fuel) :
    g.Searches queue seen (g.searchFrom fuel queue seen) := by
  induction fuel generalizing queue seen with
  | zero =>
    have hempty : queue = [] := List.length_eq_zero_iff.1 (by omega)
    subst hempty
    exact Searches.done seen
  | succ fuel ih =>
    cases queue with
    | nil => exact Searches.done seen
    | cons node queue =>
      have hnodup' : (seen ++ g.fresh node seen).Nodup := nodup_append_fresh hnodup
      have hseen' : ∀ a ∈ seen ++ g.fresh node seen, a < g.nodeCount := by
        intro a ha
        rcases List.mem_append.1 ha with ha | ha
        · exact hseen a ha
        · exact hg.lt_of_isLinked (mem_fresh.1 ha).1
      have hlength := length_le_of_nodup hnodup' hseen'
      refine Searches.visit (ih hnodup' hseen' ?_)
      simp only [List.length_append, List.length_cons] at hlength hfuel ⊢
      omega

/-! ## What a search finds -/

/-- What a search that ends has added to its queue and to the nodes seen before. -/
structure Spreads (g : Graph) (queue seen added : List ℕ) : Prop where
  /-- No node was seen before or is added twice. -/
  nodup : (seen ++ added).Nodup
  /-- Each is joined to a node of the queue. -/
  joined : ∀ b ∈ added, ∃ a ∈ queue, g.IsJoined a b
  /-- Each is linked to a node of the queue, or to one added before. -/
  linked : ∀ before node after, added = before ++ node :: after →
    ∃ earlier ∈ queue ++ before, g.isLinked earlier node
  /-- What is linked to one of them or to a node of the queue is seen in the end. -/
  closed : ∀ a ∈ queue ++ added, ∀ b, g.isLinked a b → b ∈ seen ++ added

lemma spreads_nil (hnodup : seen.Nodup) : g.Spreads [] seen [] where
  nodup := by simpa using hnodup
  joined := by simp
  linked := by simp
  closed := by simp

/-- A visit adds the fresh neighbours of a node in front of what is added later. -/
lemma Spreads.visit {added : List ℕ}
    (h : g.Spreads (queue ++ g.fresh node seen) (seen ++ g.fresh node seen) added) :
    g.Spreads (node :: queue) seen (g.fresh node seen ++ added) where
  nodup := by simpa using h.nodup
  joined := by
    intro b hb
    rcases List.mem_append.1 hb with hb | hb
    · exact ⟨node, List.mem_cons_self, Relation.ReflTransGen.single (mem_fresh.1 hb).1⟩
    · obtain ⟨a, ha, hab⟩ := h.joined b hb
      rcases List.mem_append.1 ha with ha | ha
      · exact ⟨a, List.mem_cons_of_mem node ha, hab⟩
      · exact ⟨node, List.mem_cons_self, hab.head (mem_fresh.1 ha).1⟩
  linked := by
    intro before x after hsplit
    rcases List.append_eq_append_iff.1 hsplit with ⟨before', rfl, hadded⟩ | ⟨rest, hfresh, hx⟩
    · obtain ⟨earlier, hearlier, hlink⟩ := h.linked before' x after hadded
      exact ⟨earlier, by simpa using Or.inr hearlier, hlink⟩
    · cases rest with
      | nil =>
        -- The split is where the fresh neighbours end and the later nodes begin.
        obtain ⟨earlier, hearlier, hlink⟩ := h.linked [] x after (by simpa using hx.symm)
        simp only [List.append_nil] at hfresh hearlier
        rw [hfresh] at hearlier
        exact ⟨earlier, List.mem_cons_of_mem node hearlier, hlink⟩
      | cons y rest =>
        obtain ⟨rfl, -⟩ := List.cons.inj hx
        have hmem : x ∈ g.fresh node seen := by simp [hfresh]
        exact ⟨node, List.mem_cons_self, (mem_fresh.1 hmem).1⟩
  closed := by
    intro a ha b hab
    rcases List.mem_cons.1 ha with rfl | ha
    · by_cases hb : b ∈ seen
      · exact List.mem_append_left _ hb
      · have hfresh : b ∈ g.fresh a seen := mem_fresh.2 ⟨hab, hb⟩
        exact List.mem_append_right _ (List.mem_append_left _ hfresh)
    · have hb := h.closed a (by simpa using ha) b hab
      simpa using hb

/-- A search that ends visits its queue and then what it adds. -/
theorem Searches.exists_spreads {found : Search} (h : g.Searches queue seen found)
    (hnodup : seen.Nodup) : ∃ added, found = ⟨queue ++ added, seen ++ added⟩ ∧
      g.Spreads queue seen added := by
  induction h with
  | done seen => exact ⟨[], by simp, spreads_nil hnodup⟩
  | @visit node queue seen later _ ih =>
    obtain ⟨added, rfl, hspreads⟩ := ih (nodup_append_fresh hnodup)
    exact ⟨g.fresh node seen ++ added, by simp, hspreads.visit⟩

end Graph
end Ctpn
end Detection
