/-
# Graphs of linked proposals

A graph is a number of nodes and the links made between them, in no direction.  Its parts are
found by breadth-first search from the smallest node that was not reached before.
-/
import Detection.Ascending

namespace Detection
namespace Ctpn

/-- Nodes numbered from zero, and links between them. -/
structure Graph where
  /-- The number of nodes. -/
  nodeCount : Nat
  /-- The links in the order in which they were made. -/
  links : List (Nat × Nat)
deriving DecidableEq, Repr

namespace Graph

/-- The graph without links. -/
def isolated (nodeCount : Nat) : Graph :=
  ⟨nodeCount, []⟩

/-- A graph with one more link. -/
def link (g : Graph) (a b : Nat) : Graph :=
  { g with links := g.links ++ [(a, b)] }

/-- Whether two nodes are linked. -/
def isLinked (g : Graph) (a b : Nat) : Bool :=
  g.links.contains (a, b) || g.links.contains (b, a)

/-- The other end of a link, seen from a node. -/
def otherEnd? (node : Nat) (l : Nat × Nat) : Option Nat :=
  if l.1 = node then some l.2 else if l.2 = node then some l.1 else none

/-- The nodes linked to a node, in ascending order. -/
def neighbours (g : Graph) (node : Nat) : List Nat :=
  ascending (g.links.filterMap (otherEnd? node))

theorem isLinked_iff {g : Graph} {a b : Nat} :
    g.isLinked a b ↔ (a, b) ∈ g.links ∨ (b, a) ∈ g.links := by
  simp [isLinked]

theorem isLinked_comm (g : Graph) (a b : Nat) : g.isLinked a b = g.isLinked b a :=
  Bool.or_comm _ _

theorem otherEnd?_eq_some_iff {node other : Nat} {l : Nat × Nat} :
    otherEnd? node l = some other ↔ l = (node, other) ∨ l = (other, node) := by
  obtain ⟨a, b⟩ := l
  unfold otherEnd?
  split
  · simp only [Option.some.injEq, Prod.mk.injEq]
    omega
  · split
    · simp only [Option.some.injEq, Prod.mk.injEq]
      omega
    · simp only [reduceCtorEq, Prod.mk.injEq, false_iff]
      omega

/-- The neighbours of a node are the nodes linked to it. -/
@[simp] theorem mem_neighbours {g : Graph} {a b : Nat} :
    b ∈ g.neighbours a ↔ g.isLinked a b := by
  simp only [neighbours, mem_ascending, List.mem_filterMap, otherEnd?_eq_some_iff, isLinked_iff]
  constructor
  · rintro ⟨l, hl, rfl | rfl⟩
    · exact Or.inl hl
    · exact Or.inr hl
  · rintro (h | h)
    · exact ⟨(a, b), h, Or.inl rfl⟩
    · exact ⟨(b, a), h, Or.inr rfl⟩

/-- The linked pairs, the smaller node first, in ascending order. -/
def edges (g : Graph) : List (Nat × Nat) :=
  (List.range g.nodeCount).flatMap fun a =>
    ((g.neighbours a).filter (a ≤ ·)).map fun b => (a, b)

/-! ## Breadth-first search -/

/-- What a search finds. -/
structure Search where
  /-- The nodes in the order in which they were visited. -/
  order : List Nat
  /-- All nodes that were ever queued, those from before the search included. -/
  seen : List Nat

/-- A search that has a queue of nodes to visit and has queued the nodes `seen` so far.  It
visits no more than `fuel` nodes. -/
def searchFrom (g : Graph) : (fuel : Nat) → (queue seen : List Nat) → Search
  | 0, _, seen => ⟨[], seen⟩
  | _ + 1, [], seen => ⟨[], seen⟩
  | fuel + 1, node :: queue, seen =>
    let fresh := (g.neighbours node).filter fun n => !seen.contains n
    let later := searchFrom g fuel (queue ++ fresh) (seen ++ fresh)
    ⟨node :: later.order, later.seen⟩

/-- The parts of a graph that contain one of the given nodes but none seen before. -/
def componentsFrom (g : Graph) (seen : List Nat) : List Nat → List (List Nat)
  | [] => []
  | start :: rest =>
    if seen.contains start then
      componentsFrom g seen rest
    else
      let search := searchFrom g g.nodeCount [start] (seen ++ [start])
      search.order :: componentsFrom g search.seen rest

/-- The connected parts of a graph, each in breadth-first order from its smallest node. -/
def components (g : Graph) : List (List Nat) :=
  componentsFrom g [] (List.range g.nodeCount)

end Graph

end Ctpn
end Detection
