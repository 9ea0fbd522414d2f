/-
# Linking proposals

A proposal is followed by the best of the matching proposals in the nearest column to its
right that has any.  It is linked to that one unless a better proposal than itself stands in
the nearest column to the left of the follower that has any match.
-/
import Detection.Choice
import Detection.Ctpn.Graph
import Detection.Ctpn.Proposal

namespace Detection
namespace Ctpn

/-- A proposal with its number. -/
structure Numbered where
  /-- The number. -/
  index : Nat
  /-- The proposal. -/
  proposal : Proposal
deriving DecidableEq

/-- Proposals numbered from zero. -/
def number (proposals : List Proposal) : List Numbered :=
  proposals.mapIdx fun index proposal => ⟨index, proposal⟩

/-- Whether two proposals can be neighbours in a line: they overlap vertically, and their
heights are similar. -/
def Settings.matches (s : Settings) (a b : Proposal) : Bool :=
  if Scalar.isTiny a.height || Scalar.isTiny b.height then
    false
  else
    let top := greatest32 a.corners.top b.corners.top
    let bottom := least32 a.corners.bottom b.corners.bottom
    let lower := least32 a.height b.height
    let overlap := greatest32 (bottom - top + 1.0) 0.0 / lower
    let similarity := lower / greatest32 a.height b.height
    s.minOverlap ≤ overlap && s.minSimilarity ≤ similarity

/-! ## Columns -/

/-- The column of pixels in which a proposal begins. -/
def Proposal.column (p : Proposal) : Nat :=
  countOf p.corners.left

/-- Whether a proposal begins in one of the first `width` columns. -/
def Proposal.isWithin (p : Proposal) (width : Nat) : Bool :=
  0.0 ≤ p.corners.left && p.column < width

/-- The proposals that begin in each column, by number. -/
structure Columns where
  /-- The proposals of each column. -/
  table : Array (List Numbered)

namespace Columns

/-- A proposal put before the others of its column. -/
def add (width : Nat) (p : Numbered) (c : Columns) : Columns :=
  if p.proposal.isWithin width then ⟨c.table.modify p.proposal.column (p :: ·)⟩ else c

/-- The columns of proposals that begin within a width. -/
def ofProposals (proposals : List Numbered) (width : Nat) : Columns :=
  proposals.foldr (add width) ⟨Array.replicate width []⟩

/-- The number of columns. -/
def width (c : Columns) : Nat :=
  c.table.size

/-- The proposals of a column; there are none beyond the last. -/
def get (c : Columns) (column : Nat) : List Numbered :=
  c.table.getD column []

end Columns

/-- The first list that is not empty, if there is one. -/
def firstNonempty {α : Type} : List (List α) → List α
  | [] => []
  | list :: rest => if list.isEmpty then firstNonempty rest else list

/-- The matches of a proposal in the nearest column to its right that has any.  The columns are
added up without a bound.  In 64 bits the sums overflow for a proposal that begins where the counts
end (a left side of 2^64 and more, for which `countOf` gives the largest count), far outside of any
picture; what becomes of such a proposal's matches there is not represented. -/
def Settings.successors (s : Settings) (c : Columns) (p : Proposal) : List Numbered :=
  let first := p.column + 1
  let stop := min (p.column + s.maxGap + 1) c.width
  firstNonempty ((List.range' first (stop - first)).map fun column =>
    (c.get column).filter fun q => s.matches q.proposal p)

/-- The matches of a proposal in the nearest column to its left that has any. -/
def Settings.predecessors (s : Settings) (c : Columns) (p : Proposal) : List Numbered :=
  let stop := (wholePart32 p.corners.left).toNat
  let first := stop - s.maxGap
  firstNonempty ((List.range' first (stop - first)).reverse.map fun column =>
    (c.get column).filter fun q => s.matches q.proposal p)

/-! ## Links -/

/-- The first of the best of several proposals; one that has no score is never the best. -/
def best? (proposals : List Numbered) : Option Numbered :=
  match (bestAbove (-infinity32) (proposals.map (·.proposal.score))).1 with
  | none => none
  | some index => proposals[index]?

/-- The greatest score of several proposals. -/
def greatestScore (proposals : List Numbered) : Float32 :=
  (proposals.map (·.proposal.score)).foldl greatest32 (-infinity32)

/-- The proposal that another one is linked to on its right, if there is one. -/
def Settings.follower? (s : Settings) (c : Columns) (p : Proposal) : Option Numbered :=
  match best? (s.successors c p) with
  | none => none
  | some next =>
    let rivals := s.predecessors c next.proposal
    if !rivals.isEmpty && greatestScore rivals ≤ p.score then some next else none

/-- The graph of proposals on a picture of a given width. -/
def Settings.graph (s : Settings) (proposals : List Proposal) (width : Nat) : Graph :=
  let numbered := number proposals
  let columns := Columns.ofProposals numbered width
  numbered.foldl
    (fun g p =>
      match s.follower? columns p.proposal with
      | none => g
      | some next => g.link p.index next.index)
    (Graph.isolated proposals.length)

end Ctpn
end Detection
