/-
# Decoding the outputs of a grid detector

Every anchor of every cell is a candidate.  A candidate counts if it is likely to be an object
at all and if its best class exceeds the thresholds; then its rectangle is computed from the
cell and the anchor.  Of the objects of one class, overlapping ones are suppressed.
-/
import Detection.Choice
import Detection.Object
import Detection.Yolo.Layer

namespace Detection
namespace Yolo

/-- A grid detector: settings with the variant that belongs to them. -/
structure Detector where
  /-- What the detector was told. -/
  settings : Settings
  /-- How outputs are addressed and activated. -/
  variant : Variant
deriving DecidableEq

/-- The detector that settings describe.  Where the shapes of a model's outputs are known and
models are to be checked, they have to fit. -/
def Detector.build [Build] (s : Settings) (shapes : List (List Nat)) : Except Fault Detector := do
  let variant ←
    match Variant.select? s.version s.framework s.layout with
    | some variant => .ok variant
    | none => .error (.combination s.combination)
  if maxAnchors < s.anchorsPerCell then
    throw (.yolo .anchorsPerCell)
  if !shapes.isEmpty && s.classes.checksModel then
    s.checkShapes shapes
  return ⟨s, variant⟩

/-! ## Candidates -/

/-- A layer together with the elements of its output. -/
structure LayerData where
  /-- The grid and the anchors. -/
  layer : Layer
  /-- The elements. -/
  values : Array Float32

/-- Whether a candidate is likely to be an object, and how likely. -/
def Detector.objectness? [Elementary] (d : Detector) (raw : Float32) : Option Float32 :=
  match d.variant with
  | .activated =>
    let lowest := d.settings.classes.classThresholds.foldl least32 infinity32
    if raw < lowest then none else some raw
  | _ =>
    let likelihood := logistic raw
    if likelihood ≤ d.settings.objectnessThreshold then none else some likelihood

/-- The probability of a class, given the objectness of the candidate. -/
def Detector.probability [Elementary] (d : Detector) (objectness raw : Float32) : Float32 :=
  match d.variant with
  | .activated => raw * objectness
  | _ => logistic raw * objectness

/-- The best class of a candidate with its probability, if it exceeds the thresholds. -/
def Detector.bestClass? (d : Detector) (probabilities : List Float32) : Option (Nat × Float32) :=
  let classes := d.settings.classes
  match bestAbove classes.scoreThreshold probabilities with
  | (none, _) => none
  | (some classId, probability) =>
    if probability ≤ classes.thresholdOf classId then none else some (classId, probability)

/-- The rectangle of an anchor of a cell, in fractions of the model's input, from the four
channels that describe it. -/
def Detector.rectangle [Elementary] (d : Detector) (extent : Extent) (layer : Layer)
    (cell anchor : Nat) (c0 c1 c2 c3 : Float32) : Float32 × Float32 × Float32 × Float32 :=
  let column := Float32.ofNat (cell % layer.gridWidth)
  let row := Float32.ofNat (cell / layer.gridWidth)
  let gridWidth := Float32.ofNat layer.gridWidth
  let gridHeight := Float32.ofNat layer.gridHeight
  let modelWidth := Float32.ofNat extent.modelWidth
  let modelHeight := Float32.ofNat extent.modelHeight
  match d.variant with
  | .activated => (c0, c1, c2, c3)
  | .channelBlocks =>
    let width := logistic c2 * 2.0
    let height := logistic c3 * 2.0
    ( (column + logistic c0 * 2.0 - 0.5) / gridWidth,
      (row + logistic c1 * 2.0 - 0.5) / gridHeight,
      width * width * layer.anchorWidth anchor / modelWidth,
      height * height * layer.anchorHeight anchor / modelHeight )
  | _ =>
    ( (column + logistic c0) / gridWidth,
      (row + logistic c1) / gridHeight,
      Elementary.exp32 c2 * layer.anchorWidth anchor / modelWidth,
      Elementary.exp32 c3 * layer.anchorHeight anchor / modelHeight )

/-- The object of a rectangle in centre form, cut to the model's input at the upper left and
at the lower right. -/
def objectOf (x y width height confidence : Float32) (classId : Nat) : DetectedObject where
  corners :=
    { left := greatest32 (x - width / 2.0) 0.0
      top := greatest32 (y - height / 2.0) 0.0
      right := least32 (x + width / 2.0) 1.0
      bottom := least32 (y + height / 2.0) 1.0 }
  confidence := confidence
  classId := classId

/-- The cells, anchors and channels of a layer. -/
def Detector.dimensions [Build] (d : Detector) (layer : Layer) : Dimensions :=
  ⟨Build.kept layer.cells, d.settings.anchorsPerCell, Build.kept d.settings.channels⟩

/-- The object at an anchor of a cell, if there is one.  No place is beyond the number of elements,
so what is left of it in a word is all of it, unless something was cut off that number. -/
def Detector.candidate? [Elementary] [Build] (d : Detector) (extent : Extent) (data : LayerData)
    (cell anchor : Nat) : Except Fault (Option DetectedObject) := do
  let dimensions := d.dimensions data.layer
  let channel (c : Nat) :=
    element data.values (Build.kept (d.variant.place dimensions cell anchor c))
  match d.objectness? (← channel boxChannels) with
  | none => return none
  | some objectness =>
    let raw ← (List.range d.settings.classes.classCount).mapM fun c =>
      channel (leadingChannels + c)
    match d.bestClass? (raw.map (d.probability objectness)) with
    | none => return none
    | some (classId, probability) =>
      let (x, y, width, height) := d.rectangle extent data.layer cell anchor
        (← channel 0) (← channel 1) (← channel 2) (← channel 3)
      return some (objectOf x y width height probability classId)

/-- The objects of a layer, cell by cell. -/
def Detector.layerObjects [Elementary] [Build] (d : Detector) (extent : Extent) (data : LayerData) :
    Except Fault (List DetectedObject) := do
  let found ← (d.dimensions data.layer).places.mapM fun place =>
    d.candidate? extent data place.1 place.2
  return found.filterMap id

/-! ## Decoding -/

/-- The number of elements of an output. -/
def Detector.elementCount [Build] (d : Detector) (layer : Layer) : Except Fault Nat := do
  Build.product [layer.gridWidth, layer.gridHeight, d.settings.anchorsPerCell,
    ← Build.sum [leadingChannels, d.settings.classes.classCount]]

/-- The layer of an output, with elements as far as they will be read. -/
def Detector.layerData [Elementary] [Build] (d : Detector) (modelWidth : Nat) (output : Tensor) :
    Except Fault LayerData := do
  let layer ← d.settings.layer output.shape modelWidth
  let count ← d.elementCount layer
  if count = 0 then
    throw (.yolo .emptyOutput)
  return ⟨layer, ← output.floatsCovering (count - 1)⟩

/-- The objects of all layers, before any is suppressed.  All outputs are checked before the
first is decoded. -/
def Detector.candidates [Elementary] [Build] (d : Detector) (outputs : List Tensor)
    (extent : Extent) : Except Fault (List DetectedObject) := do
  extent.checkModel
  d.settings.checkShapes (outputs.map (·.shape))
  let layers ← outputs.mapM (d.layerData extent.modelWidth)
  return (← layers.mapM (d.layerObjects extent)).flatten

/-- The objects that the outputs of a network show, in fractions of the model's input. -/
def Detector.decode [Elementary] [Build] (d : Detector) (outputs : List Tensor) (extent : Extent) :
    Except Fault (List DetectedObject) := do
  DetectedObject.suppress d.variant.measure d.settings.overlapThreshold
    (← d.candidates outputs extent)

end Yolo
end Detection
