/-
# The connected parts of a graph

Going through the nodes in ascending order and searching from each that was not seen before
finds the connected parts of the graph: every node is in one of them, once, and nodes are in one
part exactly if a path of links joins them.

## Main definitions

* `Graph.ofLinks`: the graph of links made one after the other.
* `Graph.FindsParts`: going through nodes ends, with the parts that it finds.
* `Graph.IsPart`, `Graph.IsPartition`: a list of nodes is a connected part; lists are all parts.

The main result is `Graph.isPartition_components`.
-/
import Detection.Proofs.Ctpn.Search

namespace Detection
namespace Ctpn
namespace Graph

/-! ## Links made one after the other -/

/-- The graph of a number of nodes after links were made between them. -/
def ofLinks (nodeCount : ℕ) (links : List (ℕ × ℕ)) : Graph :=
  links.foldl (fun g l => g.link l.1 l.2) (isolated nodeCount)

lemma foldl_link_eq (links : List (ℕ × ℕ)) (g : Graph) :
    links.foldl (fun g l => g.link l.1 l.2) g = ⟨g.nodeCount, g.links ++ links⟩ := by
  induction links generalizing g with
  | nil => simp
  | cons l rest ih => rw [List.foldl_cons, ih]; simp [link]

lemma ofLinks_eq (nodeCount : ℕ) (links : List (ℕ × ℕ)) :
    ofLinks nodeCount links = ⟨nodeCount, links⟩ :=
  foldl_link_eq links _

variable {g : Graph} {seen starts : List ℕ} {parts : List (List ℕ)}

/-! ## Going through the nodes -/

/-- Going through nodes, with some nodes seen before, ends with the parts found.  A node not
seen before is searched from, and the search is one that ends. -/
inductive FindsParts (g : Graph) : List ℕ → List ℕ → List (List ℕ) → Prop
  /-- All nodes have been gone through. -/
  | done (seen : List ℕ) : FindsParts g seen [] []
  /-- A node was seen before. -/
  | skip {start : ℕ} {seen rest : List ℕ} {parts : List (List ℕ)} (hstart : start ∈ seen)
      (h : FindsParts g seen rest parts) : FindsParts g seen (start :: rest) parts
  /-- A node was not seen before and begins a part. -/
  | search {start : ℕ} {seen rest : List ℕ} {parts : List (List ℕ)} {found : Search}
      (hstart : start ∉ seen) (hfound : g.Searches [start] (seen ++ [start]) found)
      (h : FindsParts g found.seen rest parts) :
      FindsParts g seen (start :: rest) (found.order :: parts)

/-- A list of nodes is a connected part of a graph: its first node is the smallest, and every
later one is linked to one before it. -/
structure IsPart (g : Graph) (first : ℕ) (rest : List ℕ) : Prop where
  /-- It holds the nodes that a path joins to the first. -/
  mem_iff : ∀ a, a ∈ first :: rest ↔ g.IsJoined first a
  /-- The other nodes are larger than the first. -/
  first_lt : ∀ a ∈ rest, first < a
  /-- The other nodes are each linked to one before them. -/
  linked : ∀ before node after, rest = before ++ node :: after →
    ∃ earlier ∈ first :: before, g.isLinked earlier node

/-- What was seen when the search from a node begins. -/
structure IsSeen (g : Graph) (seen starts : List ℕ) : Prop where
  /-- No node was seen twice. -/
  nodup : seen.Nodup
  /-- Only nodes of the graph were seen. -/
  lt_nodeCount : ∀ a ∈ seen, a < g.nodeCount
  /-- What is linked to a node that was seen was seen, too. -/
  closed : ∀ a ∈ seen, ∀ b, g.isLinked a b → b ∈ seen
  /-- The nodes that are gone through are nodes of the graph. -/
  starts_lt : ∀ a ∈ starts, a < g.nodeCount
  /-- Nodes are gone through in ascending order. -/
  ascending : starts.Pairwise (· < ·)
  /-- A node that was not seen will be gone through. -/
  covers : ∀ a < g.nodeCount, a ∈ seen ∨ a ∈ starts

lemma isSeen_nil (g : Graph) : g.IsSeen [] (List.range g.nodeCount) where
  nodup := List.nodup_nil
  lt_nodeCount := by simp
  closed := by simp
  starts_lt := by simp
  ascending := List.pairwise_lt_range
  covers := by simp

lemma IsSeen.skip {start : ℕ} (h : g.IsSeen seen (start :: starts)) (hstart : start ∈ seen) :
    g.IsSeen seen starts where
  nodup := h.nodup
  lt_nodeCount := h.lt_nodeCount
  closed := h.closed
  starts_lt := fun a ha => h.starts_lt a (List.mem_cons_of_mem start ha)
  ascending := h.ascending.of_cons
  covers := by
    intro a ha
    rcases h.covers a ha with hseen | hstarts
    · exact Or.inl hseen
    · rcases List.mem_cons.1 hstarts with rfl | hrest
      · exact Or.inl hstart
      · exact Or.inr hrest

lemma IsSeen.nodup_concat {start : ℕ} (h : g.IsSeen seen starts) (hstart : start ∉ seen) :
    (seen ++ [start]).Nodup := by
  refine List.nodup_append.2 ⟨h.nodup, List.pairwise_singleton _ start, fun a ha b hb => ?_⟩
  rintro rfl
  rw [List.mem_singleton.1 hb] at ha
  exact hstart ha

/-! ## One part after the other -/

section

variable {start : ℕ} {added : List ℕ} (hseen : g.IsSeen seen (start :: starts))
  (hstart : start ∉ seen) (hadded : g.Spreads [start] (seen ++ [start]) added)

include hadded

lemma Spreads.isJoined {a : ℕ} (ha : a ∈ start :: added) : g.IsJoined start a := by
  rcases List.mem_cons.1 ha with rfl | ha
  · exact Relation.ReflTransGen.refl
  · obtain ⟨b, hb, hba⟩ := hadded.joined a ha
    rwa [List.mem_singleton.1 hb] at hba

lemma Spreads.nodup_append : (seen ++ start :: added).Nodup := by
  simpa using hadded.nodup

include hseen

lemma IsSeen.lt_nodeCount_append (hg : g.IsClosed) :
    ∀ a ∈ seen ++ start :: added, a < g.nodeCount := by
  intro a ha
  rcases List.mem_append.1 ha with ha | ha
  · exact hseen.lt_nodeCount a ha
  · exact hg.lt_of_isJoined (hseen.starts_lt start List.mem_cons_self) (hadded.isJoined ha)

lemma IsSeen.closed_append :
    ∀ a ∈ seen ++ start :: added, ∀ b, g.isLinked a b → b ∈ seen ++ start :: added := by
  intro a ha b hab
  rcases List.mem_append.1 ha with ha | ha
  · exact List.mem_append_left _ (hseen.closed a ha b hab)
  · simpa using hadded.closed a (by simpa using ha) b hab

/-- After the search from a node, what it found counts as seen. -/
lemma IsSeen.search (hg : g.IsClosed) : g.IsSeen (seen ++ start :: added) starts where
  nodup := hadded.nodup_append
  lt_nodeCount := hseen.lt_nodeCount_append hadded hg
  closed := hseen.closed_append hadded
  starts_lt := fun a ha => hseen.starts_lt a (List.mem_cons_of_mem start ha)
  ascending := hseen.ascending.of_cons
  covers := by
    intro a ha
    rcases hseen.covers a ha with hbefore | hstarts
    · exact Or.inl (List.mem_append_left _ hbefore)
    · rcases List.mem_cons.1 hstarts with rfl | hrest
      · exact Or.inl (List.mem_append_right _ List.mem_cons_self)
      · exact Or.inr hrest

include hstart

/-- The nodes found from a node that was not seen before are the part that it belongs to. -/
lemma IsSeen.isPart (hg : g.IsClosed) : g.IsPart start added where
  mem_iff := by
    refine fun a => ⟨hadded.isJoined, fun ha => ?_⟩
    have hmem : a ∈ seen ++ start :: added :=
      mem_of_isJoined (hseen.closed_append hadded)
        (List.mem_append_right _ List.mem_cons_self) ha
    -- Had the node been seen before, then so had the start, which is joined to it.
    refine (List.mem_append.1 hmem).resolve_left fun hbefore => hstart ?_
    exact mem_of_isJoined hseen.closed hbefore ha.symm
  first_lt := by
    intro a ha
    obtain ⟨-, hnodup, hdisjoint⟩ := List.nodup_append.1 hadded.nodup_append
    have hne : a ≠ start := by
      rintro rfl
      exact (List.nodup_cons.1 hnodup).1 ha
    have hlt : a < g.nodeCount :=
      hseen.lt_nodeCount_append hadded hg a (by simp [ha])
    rcases hseen.covers a hlt with hbefore | hstarts
    · exact absurd rfl (hdisjoint a hbefore a (List.mem_cons_of_mem start ha))
    · rcases List.mem_cons.1 hstarts with heq | hrest
      · exact absurd heq hne
      · exact (List.pairwise_cons.1 hseen.ascending).1 a hrest
  linked := by simpa using hadded.linked

end

/-- What is found when some nodes were seen before and others are gone through. -/
structure PartsFrom (g : Graph) (seen starts : List ℕ) (parts : List (List ℕ)) : Prop where
  /-- No node was seen before, and none is in two parts or in one part twice. -/
  nodup : (seen ++ parts.flatten).Nodup
  /-- Only nodes of the graph are found. -/
  lt_nodeCount : ∀ a ∈ parts.flatten, a < g.nodeCount
  /-- The nodes that are gone through were seen before, or are found. -/
  covers : ∀ a ∈ starts, a ∈ seen ++ parts.flatten
  /-- Each list that is found is a connected part. -/
  isPart : ∀ part ∈ parts, ∃ first rest, part = first :: rest ∧ g.IsPart first rest
  /-- The first nodes of the parts stand in the order of the nodes gone through. -/
  sublist : (parts.filterMap List.head?).Sublist starts

-- The induction is on the run; what was seen grows along it, and stays closed under links.
theorem FindsParts.partsFrom (hg : g.IsClosed) (h : g.FindsParts seen starts parts)
    (hseen : g.IsSeen seen starts) : g.PartsFrom seen starts parts := by
  induction h with
  | done seen =>
    exact ⟨by simpa using hseen.nodup, by simp, by simp, by simp, by simp⟩
  | @skip start seen rest parts hstart _ ih =>
    have hrest := ih (hseen.skip hstart)
    refine ⟨hrest.nodup, hrest.lt_nodeCount, fun a ha => ?_, hrest.isPart,
      hrest.sublist.cons start⟩
    rcases List.mem_cons.1 ha with rfl | ha
    · exact List.mem_append_left _ hstart
    · exact hrest.covers a ha
  | @search start seen rest parts found hstart hfound _ ih =>
    have hnodup : (seen ++ [start]).Nodup := hseen.nodup_concat hstart
    obtain ⟨added, rfl, hadded⟩ := hfound.exists_spreads hnodup
    simp only [List.append_assoc, List.singleton_append] at ih
    have hrest := ih (hseen.search hadded hg)
    refine ⟨by simpa using hrest.nodup, fun a ha => ?_, fun a ha => ?_, fun part hpart => ?_,
      by simpa using hrest.sublist.cons_cons start⟩
    · simp only [List.flatten_cons, List.mem_append] at ha
      rcases ha with ha | ha
      · exact hseen.lt_nodeCount_append hadded hg a (List.mem_append_right _ (by simpa using ha))
      · exact hrest.lt_nodeCount a ha
    · rcases List.mem_cons.1 ha with rfl | ha
      · simp
      · simpa using hrest.covers a ha
    · rcases List.mem_cons.1 hpart with rfl | hpart
      · exact ⟨start, added, rfl, hseen.isPart hstart hadded hg⟩
      · exact hrest.isPart part hpart

/-! ## All parts -/

/-- The search from each node has enough steps, so the bound on them does not matter. -/
theorem findsParts_componentsFrom (hg : g.IsClosed) (hseen : g.IsSeen seen starts) :
    g.FindsParts seen starts (g.componentsFrom seen starts) := by
  induction starts generalizing seen with
  | nil => exact FindsParts.done seen
  | cons start rest ih =>
    unfold componentsFrom
    by_cases hstart : start ∈ seen
    · rw [if_pos (by simpa using hstart)]
      exact FindsParts.skip hstart (ih (hseen.skip hstart))
    · rw [if_neg (by simpa using hstart)]
      have hlt : start < g.nodeCount := hseen.starts_lt start List.mem_cons_self
      have hnodup : (seen ++ [start]).Nodup := hseen.nodup_concat hstart
      have hnodes : ∀ a ∈ seen ++ [start], a < g.nodeCount := by
        intro a ha
        rcases List.mem_append.1 ha with ha | ha
        · exact hseen.lt_nodeCount a ha
        · rwa [List.mem_singleton.1 ha]
      have hfound : g.Searches [start] (seen ++ [start])
          (g.searchFrom g.nodeCount [start] (seen ++ [start])) := by
        refine searches_searchFrom hg hnodup hnodes ?_
        simp only [List.length_append, List.length_singleton]
        omega
      refine FindsParts.search hstart hfound (ih ?_)
      obtain ⟨added, heq, hadded⟩ := hfound.exists_spreads hnodup
      rw [heq]
      simpa using hseen.search hadded hg

/-- Lists of nodes are the connected parts of a graph. -/
structure IsPartition (g : Graph) (parts : List (List ℕ)) : Prop where
  /-- Every node is in one of the lists, once. -/
  perm : parts.flatten.Perm (List.range g.nodeCount)
  /-- Nodes are in one list exactly if a path joins them. -/
  exists_part_iff : ∀ a < g.nodeCount, ∀ b < g.nodeCount,
    (∃ part ∈ parts, a ∈ part ∧ b ∈ part) ↔ g.IsJoined a b
  /-- Each list is a connected part, the smallest node first. -/
  isPart : ∀ part ∈ parts, ∃ first rest, part = first :: rest ∧ g.IsPart first rest
  /-- The lists are in ascending order of their first nodes. -/
  ascending : (parts.filterMap List.head?).Pairwise (· < ·)

lemma PartsFrom.isPartition (h : g.PartsFrom [] (List.range g.nodeCount) parts) :
    g.IsPartition parts := by
  have hmem : ∀ a, a ∈ parts.flatten ↔ a ∈ List.range g.nodeCount := fun a =>
    ⟨fun ha => List.mem_range.2 (h.lt_nodeCount a ha), fun ha => by simpa using h.covers a ha⟩
  refine ⟨(List.perm_ext_iff_of_nodup (by simpa using h.nodup) List.nodup_range).2 hmem,
    fun a ha b _ => ⟨?_, fun hab => ?_⟩, h.isPart, List.pairwise_lt_range.sublist h.sublist⟩
  · rintro ⟨part, hpart, hapart, hbpart⟩
    obtain ⟨first, rest, rfl, hfirst⟩ := h.isPart part hpart
    exact ((hfirst.mem_iff a).1 hapart).symm.trans ((hfirst.mem_iff b).1 hbpart)
  · obtain ⟨part, hpart, hapart⟩ := List.mem_flatten.1 ((hmem a).2 (List.mem_range.2 ha))
    obtain ⟨first, rest, rfl, hfirst⟩ := h.isPart part hpart
    exact ⟨first :: rest, hpart, hapart,
      (hfirst.mem_iff b).2 (((hfirst.mem_iff a).1 hapart).trans hab)⟩

lemma IsClosed.isPartition (hg : g.IsClosed) : g.IsPartition g.components :=
  ((findsParts_componentsFrom hg (isSeen_nil g)).partsFrom hg (isSeen_nil g)).isPartition

/-- As sets, the parts of a graph are the classes of joined nodes. -/
lemma IsPartition.exists_part_iff_joined (h : g.IsPartition parts) {nodes : Set ℕ} :
    (∃ part ∈ parts, {a | a ∈ part} = nodes) ↔
      ∃ a < g.nodeCount, {b | g.IsJoined a b} = nodes := by
  have hmem : ∀ a, a ∈ parts.flatten ↔ a < g.nodeCount := fun a =>
    h.perm.mem_iff.trans List.mem_range
  constructor
  · rintro ⟨part, hpart, rfl⟩
    obtain ⟨first, rest, rfl, hfirst⟩ := h.isPart part hpart
    refine ⟨first, (hmem first).1 ?_, Set.ext fun b => (hfirst.mem_iff b).symm⟩
    exact List.mem_flatten_of_mem hpart List.mem_cons_self
  · rintro ⟨a, ha, rfl⟩
    obtain ⟨part, hpart, hapart⟩ := List.mem_flatten.1 ((hmem a).2 ha)
    obtain ⟨first, rest, rfl, hfirst⟩ := h.isPart part hpart
    have hjoined := (hfirst.mem_iff a).1 hapart
    refine ⟨first :: rest, hpart, Set.ext fun b => (hfirst.mem_iff b).trans ?_⟩
    exact ⟨hjoined.symm.trans, hjoined.trans⟩

/-- **The parts of a graph are its connected parts.**  Whatever links were made between its
nodes, searching from each node that was not seen before ends, and it finds the connected parts
in ascending order of their smallest nodes. -/
theorem isPartition_components (n : ℕ) (links : List (ℕ × ℕ))
    (hlinks : ∀ l ∈ links, l.1 < n ∧ l.2 < n) :
    (ofLinks n links).FindsParts [] (List.range n) (ofLinks n links).components ∧
      (ofLinks n links).IsPartition (ofLinks n links).components := by
  rw [ofLinks_eq]
  have hclosed : (Graph.mk n links).IsClosed := hlinks
  have hfinds := findsParts_componentsFrom hclosed (isSeen_nil _)
  exact ⟨hfinds, (hfinds.partsFrom hclosed (isSeen_nil _)).isPartition⟩

/-- Links between six nodes: one that is made in both directions, one from a node to itself. -/
def sixNodes : List (ℕ × ℕ) :=
  [(4, 1), (1, 4), (2, 2), (4, 5), (0, 3)]

theorem isPartition_sixNodes :
    (∀ l ∈ sixNodes, l.1 < 6 ∧ l.2 < 6) ∧
      (ofLinks 6 sixNodes).components = [[0, 3], [1, 4, 5], [2]] ∧
      (ofLinks 6 sixNodes).IsPartition [[0, 3], [1, 4, 5], [2]] := by
  have hlinks : ∀ l ∈ sixNodes, l.1 < 6 ∧ l.2 < 6 := by decide
  have hcomponents : (ofLinks 6 sixNodes).components = [[0, 3], [1, 4, 5], [2]] := rfl
  have hpartition := (isPartition_components 6 sixNodes hlinks).2
  rw [hcomponents] at hpartition
  exact ⟨hlinks, hcomponents, hpartition⟩

end Graph
end Ctpn
end Detection
