/-
# Decoding the outputs of a text detector

The proposals of a network are suppressed and linked, and every connected part of the graph
of links becomes a line of text, if it is wide and certain enough.
-/
import Detection.Ctpn.Linking
import Detection.Ctpn.Slant
import Detection.Object

namespace Detection
namespace Ctpn

/-! ## Lines of text -/

/-- The upper and lower edge of the proposals of a line are fitted by straight lines, which
are read half a proposal from either end; the rectangle takes in both readings. -/
def levelCorners (corners : List (Corners Float32)) (first : Corners Float32)
    (left right : Float32) : Corners Float32 :=
  let inset := (first.right - first.left) * 0.5
  let lefts := corners.map (·.left)
  let top := Line.fit32 lefts (corners.map (·.top))
  let bottom := Line.fit32 lefts (corners.map (·.bottom))
  { left := left
    top := least32 (top.eval32 (left + inset)) (top.eval32 (right - inset))
    right := right
    bottom := greatest32 (bottom.eval32 (left + inset)) (bottom.eval32 (right - inset)) }

/-- A rectangle kept within the model's input. -/
def clampToModel (extent : Extent) (c : Corners Float32) : Corners Float32 :=
  let maxX := Float32.ofNat extent.modelWidth - 1.0
  let maxY := Float32.ofNat extent.modelHeight - 1.0
  { left := Scalar.clampBelow c.left maxX
    top := Scalar.clampBelow c.top maxY
    right := Scalar.clampBelow c.right maxX
    bottom := Scalar.clampBelow c.bottom maxY }

/-- The slanted quadrilateral of rectangles, computed in 64 bits and then rounded. -/
def slantedCorners (corners : List (Corners Float32)) (left right : Float32) :
    Option (Quad Float32) :=
  (quadAround widen corners left right).map (·.map narrow narrow)

/-- The mean score of proposals. -/
def meanScore (proposals : List Proposal) : Float32 :=
  narrow (mean (proposals.map fun p => widen p.score))

/-- The line of text that proposals make up, before it is judged. -/
def Settings.lineOf? (s : Settings) (extent : Extent) (proposals : List Proposal) :
    Option TextLine :=
  match proposals with
  | [] => none
  | first :: _ =>
    let corners := proposals.map (·.corners)
    let left := (corners.map (·.left)).foldl least32 infinity32
    let right := (corners.map (·.right)).foldl greatest32 (-infinity32)
    let quad? :=
      if s.isSlanted then
        slantedCorners corners left right
      else
        some (clampToModel extent (levelCorners corners first.corners left right)).toQuad
    quad?.map fun quad => ⟨quad, meanScore proposals⟩

/-- Whether a line of text is wide and certain enough. -/
def Settings.isValid (s : Settings) (line : TextLine) : Bool :=
  let q := line.quad
  let height := widen ((q.y2 - q.y0).abs + (q.y3 - q.y1).abs) * 0.5 + 1.0
  let width := widen ((q.x1 - q.x0).abs + (q.x3 - q.x2).abs) * 0.5 + 1.0
  !Scalar.isMinute height &&
    widen s.minRatio < width / height && s.minLineScore < line.confidence &&
    Float.ofNat (s.proposalWidth * s.minProposals) < width

/-- The line of text of one connected part of a graph, if it is one. -/
def Settings.textLine? (s : Settings) (extent : Extent) (proposals : Array Proposal)
    (component : List Nat) : Option TextLine :=
  (s.lineOf? extent (component.filterMap fun index => proposals[index]?)).filter s.isValid

/-- The lines of text of a graph of proposals. -/
def Settings.textLines (s : Settings) (proposals : List Proposal) (graph : Graph)
    (extent : Extent) : List TextLine :=
  graph.components.filterMap (s.textLine? extent proposals.toArray)

/-! ## The detector -/

/-- The outputs of a network: where proposals are and what they are. -/
def outputCount : Nat := 2

/-- The number of dimensions of an output. -/
def outputRank : Nat := 4

/-- Whether the outputs of a model can be those of a text detector. -/
def checkShapes (shapes : List (List Nat)) : Except Fault Unit :=
  if shapes.length < outputCount then
    .error (.text .outputCount)
  else if (shapes.take outputCount).all fun shape => shape.length == outputRank then
    .ok ()
  else
    .error (.text .outputRank)

/-- A text detector. -/
structure Detector where
  /-- What the detector was told. -/
  settings : Settings
deriving DecidableEq

/-- The detector that settings describe.  Where the shapes of a model's outputs are known and
models are to be checked, they have to fit. -/
def Detector.build (s : Settings) (shapes : List (List Nat)) : Except Fault Detector := do
  if s.anchorCount = 0 ∨ anchorHeights.length < s.anchorCount then
    throw (.text .anchorCount)
  if s.stride = 0 then
    throw (.text .zeroStride)
  if s.boxFeatures < leastBoxFeatures ∨ s.scoreFeatures ≤ textScore then
    throw (.text .featureCount)
  if !shapes.isEmpty && s.checksModel then
    checkShapes shapes
  return ⟨s⟩

/-- The feature map of a model's input. -/
def Settings.featureMap (s : Settings) (extent : Extent) : FeatureMap where
  width := extent.modelWidth / s.stride
  height := extent.modelHeight / s.stride
  anchors := s.anchorCount

/-- The proposals that the outputs of a network make, after suppression. -/
def Detector.proposals [Elementary] [Build] (d : Detector) (outputs : List Tensor)
    (extent : Extent) : Except Fault (List Proposal) := do
  let s := d.settings
  let map := s.featureMap extent
  if (← map.count) = 0 then
    return []
  let boxOutput ← tensorAt outputs 0
  let boxes ← boxOutput.floatsCovering (← map.lastIndex s.boxFeatures)
  let scoreOutput ← tensorAt outputs 1
  let scores ← scoreOutput.floatsCovering (← map.lastIndex s.scoreFeatures)
  return s.suppressProposals (← s.proposalBoxes extent map boxes scores)

/-- The lines of text that the outputs of a network show, in pixels of the model's input. -/
def Detector.decode [Elementary] [Build] (d : Detector) (outputs : List Tensor)
    (extent : Extent) : Except Fault (List TextLine) := do
  let s := d.settings
  extent.checkModel
  if outputs.length < outputCount then
    throw (.text .outputCount)
  if s.checksModel then
    checkShapes (outputs.map (·.shape))
  let proposals ← d.proposals outputs extent
  return s.textLines proposals (s.graph proposals extent.modelWidth) extent

end Ctpn
end Detection
