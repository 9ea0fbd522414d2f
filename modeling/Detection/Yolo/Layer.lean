/-
# The layers of a grid detector

An output divides the picture into a grid of cells.  Every cell has the same anchors, and
every anchor of a cell the same channels.  The finer the grid, the smaller the anchors: the
list of anchor sizes is cut into one slice for each halving of the cells.

## Main definitions

* `Settings.checkShapes`: whether outputs have the channels that the settings ask for.
* `Settings.sliceStart`: where the anchors of a grid begin in the list of all anchors.
* `Variant.place`: the index of a channel of an anchor of a cell.
-/
import Detection.Number.Elementary
import Detection.Overflow
import Detection.Tensor
import Detection.Yolo.Settings

namespace Detection
namespace Yolo

/-! ## Shapes -/

/-- The least number of dimensions of an output. -/
def minRank : Nat := 4

/-- The channels that a shape has, all anchors of a cell together. -/
def Layout.shapeChannels [Build] (layout : Layout) (shape : List Nat) : Except Fault Nat :=
  match layout with
  | .channelsLast => Build.product (shape.drop 3)
  | .channelsFirst => Build.product ((shape.drop 1).take (shape.length - 3))
  | .channelBlocks =>
    if shape.length = minRank then .error (.yolo .blockedRank)
    else Build.product [shape.getD 1 0, shape.getD 4 0]

/-- The channels that the settings ask for, all anchors of a cell together. -/
def Settings.cellChannels [Build] (s : Settings) : Except Fault Nat := do
  Build.product [s.anchorsPerCell, ← Build.sum [leadingChannels, s.classes.classCount]]

/-- Whether an output has the channels asked for. -/
def Settings.checkShape [Build] (s : Settings) (expected : Nat) (shape : List Nat) :
    Except Fault Unit :=
  if shape.length < minRank then
    .error (.yolo .outputRank)
  else
    match s.layout.shapeChannels shape with
    | .error fault => .error fault
    | .ok channels => if channels = expected then .ok () else .error (.yolo .channels)

/-- The first of several outputs that does not have the channels asked for. -/
def Settings.checkEachShape [Build] (s : Settings) (expected : Nat) :
    List (List Nat) → Except Fault Unit
  | [] => .ok ()
  | shape :: rest =>
    match s.checkShape expected shape with
    | .error fault => .error fault
    | .ok () => s.checkEachShape expected rest

/-- Whether there is an output for each layer and all have the channels that the settings ask
for. -/
def Settings.checkShapes [Build] (s : Settings) (shapes : List (List Nat)) : Except Fault Unit := do
  if shapes.length ≠ s.layerCount then
    throw (.yolo .outputCount)
  s.checkEachShape (← s.cellChannels) shapes

/-! ## Layers -/

/-- The pixels of a cell in the coarsest grid. -/
def coarsestCell : Nat := 32

/-- One layer of the detector. -/
structure Layer where
  /-- The cells in a row. -/
  gridWidth : Nat
  /-- The cells in a column. -/
  gridHeight : Nat
  /-- The widths and heights of the anchors, in turn. -/
  anchors : List Float32
deriving DecidableEq

/-- How often the cells of the coarsest grid were halved, for a grid of a given width. -/
def halvings [Elementary] (gridWidth modelWidth : Nat) : Int :=
  let ratio :=
    Float32.ofNat gridWidth * Float32.ofNat coarsestCell / Float32.ofNat modelWidth
  wholePart32 (Elementary.log2 ratio)

/-- The sizes of one layer's anchors: a width and a height for each. -/
def Settings.sliceLength (s : Settings) : Nat :=
  s.anchorsPerCell * 2

/-- Where the anchors of a grid begin among all: the coarsest grid has the last slice. -/
def Settings.sliceStart [Build] (s : Settings) (halved : Int) : Except Fault Int := do
  let last ← Build.int64 (asInt64 s.layerCount - 1)
  let slice ← Build.int64 (last - halved)
  Build.int64 (slice * asInt64 s.sliceLength)

/-- The layer that an output of a given shape describes. -/
def Settings.layer [Elementary] [Build] (s : Settings) (shape : List Nat) (modelWidth : Nat) :
    Except Fault Layer := do
  let gridWidth := shape.getD s.layout.widthAxis 0
  let gridHeight := shape.getD s.layout.heightAxis 0
  let start ← s.sliceStart (halvings gridWidth modelWidth)
  let stop ← Build.int64 (start + asInt64 s.sliceLength)
  if start < 0 ∨ asInt64 s.anchorSizes.length < stop then
    .error (.yolo .anchorSlice)
  else if stop < start then
    -- Something was cut off the end, and no slice ends before it begins.
    .error .overflow
  else
    .ok ⟨gridWidth, gridHeight, (s.anchorSizes.drop start.toNat).take s.sliceLength⟩

namespace Layer

/-- The number of cells. -/
def cells (l : Layer) : Nat :=
  l.gridWidth * l.gridHeight

/-- The width of an anchor. -/
def anchorWidth (l : Layer) (anchor : Nat) : Float32 :=
  l.anchors.getD (2 * anchor) 0.0

/-- The height of an anchor. -/
def anchorHeight (l : Layer) (anchor : Nat) : Float32 :=
  l.anchors.getD (2 * anchor + 1) 0.0

end Layer

/-! ## Places in the buffer -/

/-- The cells, anchors and channels by which an output is addressed. -/
structure Dimensions where
  /-- The number of cells. -/
  cells : Nat
  /-- The number of anchors of a cell. -/
  anchors : Nat
  /-- The number of channels of an anchor. -/
  channels : Nat
deriving DecidableEq, Repr

/-- The number of elements of an output. -/
def Dimensions.count (d : Dimensions) : Nat :=
  d.cells * d.anchors * d.channels

/-- The index of the first channel of an anchor of a cell. -/
def Variant.base (v : Variant) (d : Dimensions) (cell anchor : Nat) : Nat :=
  match v with
  | .channelsFirst => d.channels * d.cells * anchor + cell
  | .channelsLast => d.channels * d.anchors * cell + anchor * d.channels
  | .activated => d.channels * d.anchors * cell + anchor * d.channels
  | .channelBlocks => d.channels * d.cells * anchor + cell * d.channels

/-- The distance from one channel to the next. -/
def Variant.step (v : Variant) (d : Dimensions) : Nat :=
  match v with
  | .channelsFirst => d.cells
  | _ => 1

/-- The index of a channel of an anchor of a cell. -/
def Variant.place (v : Variant) (d : Dimensions) (cell anchor channel : Nat) : Nat :=
  v.base d cell anchor + channel * v.step d

/-- The places of all anchors of all cells, cell by cell. -/
def Dimensions.places (d : Dimensions) : List (Nat × Nat) :=
  (List.range d.cells).flatMap fun cell => (List.range d.anchors).map fun anchor => (cell, anchor)

end Yolo
end Detection
