/-
# Proposals of text

Each cell of the feature map has the same anchors: rectangles of one width and growing
heights.  The outputs of the network shift an anchor vertically and change its height; what
results is a proposal, if it is large enough and likely to be text.  Proposals are suppressed
in two rounds.

## Main definitions

* `Settings.anchors`, `Settings.allAnchors`: the anchors of a cell, and of the whole map.
* `FeatureMap.anchorIndex`, `FeatureMap.featureIndex`: where an anchor and the outputs for it stand.
* `Settings.proposalBoxes`: the boxes that the outputs propose.
* `Settings.suppressProposals`: the proposals that are left after both rounds.
-/
import Detection.Box.Suppression
import Detection.Ctpn.Settings
import Detection.Number.Elementary
import Detection.Overflow
import Detection.Tensor

namespace Detection
namespace Ctpn

/-- A proposed piece of a line of text, in pixels of the model's input. -/
structure Proposal where
  /-- Where it is. -/
  corners : Corners Float32
  /-- How likely it is to be text. -/
  score : Float32
deriving DecidableEq

/-- The height of a proposal in pixels, both edges counted. -/
def Proposal.height (p : Proposal) : Float32 :=
  p.corners.bottom - p.corners.top + 1.0

/-! ## Anchors -/

/-- The heights that anchors can have. -/
def anchorHeights : List Int := [11, 16, 23, 33, 48, 68, 97, 139, 198, 283]

/-- Half of a number of pixels, cut to whole pixels towards zero and kept within 32 bits. -/
def halfEdge (n : Int) : Int :=
  clampInt minInt32 maxInt32 (Int.tdiv n 2)

/-- The anchor of a given height at the first cell.  Its edges lie half its extents from the
centre of a square as wide as the anchor. -/
def Settings.anchorOfHeight (s : Settings) (height : Int) : Corners Int :=
  let width : Int := s.anchorWidth
  { left := halfEdge (width - 1 - width)
    top := halfEdge (width - 1 - height)
    right := halfEdge (width - 1 + width)
    bottom := halfEdge (width - 1 + height) }

/-- The anchors of the first cell. -/
def Settings.anchors (s : Settings) : List (Corners Int) :=
  (anchorHeights.take s.anchorCount).map s.anchorOfHeight

/-- An anchor moved to another cell. -/
def Settings.anchorAt [Build] (s : Settings) (anchor : Corners Int) (row column : Nat) :
    Except Fault (Corners Int) := do
  let x ← Build.int32 (column * asInt32 s.stride)
  let y ← Build.int32 (row * asInt32 s.stride)
  return {
    left := ← Build.int32 (anchor.left + x)
    top := ← Build.int32 (anchor.top + y)
    right := ← Build.int32 (anchor.right + x)
    bottom := ← Build.int32 (anchor.bottom + y) }

/-- The anchors of all cells of a map: row by row, column by column. -/
def Settings.allAnchors [Build] (s : Settings) (mapWidth mapHeight : Nat) :
    Except Fault (List (Corners Int)) :=
  let moves := (List.range (asInt32 mapHeight).toNat).flatMap fun row =>
    (List.range (asInt32 mapWidth).toNat).flatMap fun column =>
      s.anchors.map fun anchor => (anchor, row, column)
  moves.mapM fun (anchor, row, column) => s.anchorAt anchor row column

/-! ## The feature map -/

/-- The extents of a feature map. -/
structure FeatureMap where
  /-- The cells in a row. -/
  width : Nat
  /-- The cells in a column. -/
  height : Nat
  /-- The anchors of a cell. -/
  anchors : Nat
deriving DecidableEq, Repr

namespace FeatureMap

/-- The number of anchors of all cells. -/
def count [Build] (m : FeatureMap) : Except Fault Nat :=
  Build.product [m.width, m.height, m.anchors]

/-- The index of the last feature of all anchors, when each has `features` of them. -/
def lastIndex [Build] (m : FeatureMap) (features : Nat) : Except Fault Nat := do
  Build.natural ((← Build.product [← m.count, features] : Nat) - 1)

/-- The index of an anchor among those of all cells. -/
def anchorIndex [Build] (m : FeatureMap) (row column anchor : Nat) : Except Fault Nat := do
  Build.sum
    [← Build.product [m.width, m.anchors, row], ← Build.product [m.anchors, column], anchor]

/-- The index of a feature of an anchor, when each has `features` of them. -/
def featureIndex [Build] (m : FeatureMap) (features feature row column anchor : Nat) :
    Except Fault Nat := do
  Build.sum
    [← Build.product [features, m.anchors, column], ← Build.product [anchor, features], feature,
      ← Build.product [features, m.anchors, m.width, row]]

/-- The rows, columns and anchors of a map, in the order of its anchors. -/
def places (m : FeatureMap) : List (Nat × Nat × Nat) :=
  (List.range m.height).flatMap fun row =>
    (List.range m.width).flatMap fun column =>
      (List.range m.anchors).map fun anchor => (row, column, anchor)

end FeatureMap

/-! ## Proposals -/

/-- The number of pixels from the first one to the last one. -/
def pixels [Build] (first last : Int) : Except Fault Int := do
  Build.int32 ((← Build.int32 (last - first)) + 1)

/-- The rectangle of an anchor of a given extent that is shifted by a part of its height and whose
height is multiplied by the exponential of a number, kept within the model's input. -/
def shiftedAnchor [Elementary] (extent : Extent) (anchor : Corners Int) (width height : Int)
    (shift growth : Float32) : Corners Float32 :=
  let maxX := Float32.ofNat extent.modelWidth - 1.0
  let maxY := Float32.ofNat extent.modelHeight - 1.0
  let left := Float.ofInt anchor.left
  let right := left + Float.ofInt width
  let anchorHeight := Float.ofInt height
  let middle := Float.ofInt anchor.top + anchorHeight * 0.5
  let centre := widen shift * anchorHeight + middle
  let grown := Elementary.exp64 (widen growth) * anchorHeight
  { left := Scalar.clampBelow (narrow left) maxX
    top := Scalar.clampBelow (narrow (centre - grown * 0.5)) maxY
    right := Scalar.clampBelow (narrow right) maxX
    bottom := Scalar.clampBelow (narrow (centre + grown * 0.5)) maxY }

/-- Whether a rectangle is at least as large as a proposal has to be. -/
def Settings.isLargeEnough (s : Settings) (c : Corners Float32) : Bool :=
  let least := Float32.ofNat s.minSize
  least ≤ c.right - c.left + 1.0 && least ≤ c.bottom - c.top + 1.0

/-- The box that the outputs propose for an anchor of a cell, if it is large enough and its
score does not fall short. -/
def Settings.proposalBox? [Elementary] [Build] (s : Settings) (extent : Extent) (m : FeatureMap)
    (anchors : Array (Corners Int)) (boxes scores : Array Float32) (row column anchor : Nat) :
    Except Fault (Option Box) := do
  let index ← m.anchorIndex row column anchor
  let score ← element scores (← m.featureIndex s.scoreFeatures textScore row column anchor)
  let shift ← element boxes (← m.featureIndex s.boxFeatures 1 row column anchor)
  let growth ← element boxes (← m.featureIndex s.boxFeatures 3 row column anchor)
  let place ← element anchors index
  let width ← pixels place.left place.right
  let height ← pixels place.top place.bottom
  let corners := shiftedAnchor extent place width height shift growth
  if !s.isLargeEnough corners || score ≤ s.minScore then
    return none
  else
    return some (.ofCorners corners 0 score)

/-- The boxes that the outputs propose, in the order of the anchors. -/
def Settings.proposalBoxes [Elementary] [Build] (s : Settings) (extent : Extent) (m : FeatureMap)
    (boxes scores : Array Float32) : Except Fault (List Box) := do
  let anchors ← s.allAnchors m.width m.height
  let found ← m.places.mapM fun place =>
    s.proposalBox? extent m anchors.toArray boxes scores place.1 place.2.1 place.2.2
  return found.filterMap id

/-! ## Suppression in two rounds -/

/-- The proposal of a box. -/
def Proposal.ofBox (b : Box) : Proposal :=
  ⟨b.corners, b.score⟩

/-- The boxes that survive the first round: the best, less those that overlap better ones. -/
def Settings.firstRound (s : Settings) (boxes : List Box) : List Box :=
  (Box.filterOverlapping .union s.boxOverlap
    ((Box.prioritised (·.score) boxes).take s.roundLimit)).take s.survivorLimit

/-- The boxes that survive the second round, which is stricter about scores and overlaps. -/
def Settings.secondRound (s : Settings) (boxes : List Box) : List Box :=
  Box.filterOverlapping .union s.textOverlap (boxes.filter fun b => s.minScore < b.score)

/-- The proposals that are left of proposed boxes after both rounds. -/
def Settings.suppressProposals (s : Settings) (boxes : List Box) : List Proposal :=
  (s.secondRound (s.firstRound boxes)).map Proposal.ofBox

end Ctpn
end Detection
