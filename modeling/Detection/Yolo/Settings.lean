/-
# Settings of the grid detector

The detector knows three layouts of a network's outputs in memory, and which framework
produced them.  A few combinations of version, framework and layout are supported; each of
them fixes how outputs are addressed and activated.
-/
import Detection.Box.Overlap
import Detection.Settings.Classes

namespace Detection
namespace Yolo

/-! ## Layouts and frameworks -/

/-- How the elements of an output lie in memory. -/
inductive Layout where
  /-- All channels of a cell together. -/
  | channelsLast
  /-- All cells of a channel together. -/
  | channelsFirst
  /-- A block for each anchor, with all channels of a cell together. -/
  | channelBlocks
deriving DecidableEq, Repr

/-- The name of a layout. -/
def Layout.name : Layout → String
  | .channelsLast => "NHWC"
  | .channelsFirst => "NCHW"
  | .channelBlocks => "NCHWC"

/-- The layout of an index in settings. -/
def Layout.ofIndex? : Nat → Option Layout
  | 0 => some .channelsLast
  | 1 => some .channelsFirst
  | 2 => some .channelBlocks
  | _ => none

/-- The dimension of a shape that holds the width of the grid. -/
def Layout.widthAxis : Layout → Nat
  | .channelsLast => 2
  | .channelsFirst => 3
  | .channelBlocks => 3

/-- The dimension of a shape that holds the height of the grid. -/
def Layout.heightAxis : Layout → Nat
  | .channelsLast => 1
  | .channelsFirst => 2
  | .channelBlocks => 2

/-- The framework that a network was made with. -/
inductive Framework where
  | tensorflow
  | caffe
  | mindspore
  | pytorch
  /-- Any other, by its name in small letters. -/
  | other (name : String)
deriving DecidableEq, Repr

/-- The name of a framework. -/
def Framework.name : Framework → String
  | .tensorflow => "tensorflow"
  | .caffe => "caffe"
  | .mindspore => "mindspore"
  | .pytorch => "pytorch"
  | .other name => name

/-- The framework of a name; blanks around it and capital letters do not matter. -/
def Framework.ofName (text : String) : Framework :=
  match String.ofList (Text.lower (Text.trim text.toList)) with
  | "tensorflow" => .tensorflow
  | "caffe" => .caffe
  | "mindspore" => .mindspore
  | "pytorch" => .pytorch
  | name => .other name

/-- The framework assumed where the settings name none. -/
def Framework.default (version : Nat) (layout : Layout) : Framework :=
  match version, layout with
  | 4, _ => .mindspore
  | 5, _ => .pytorch
  | 3, .channelsFirst => .caffe
  | _, _ => .tensorflow

/-! ## Variants -/

/-- How the outputs of a network are addressed and activated. -/
inductive Variant where
  /-- Channels last, not activated. -/
  | channelsLast
  /-- Channels first, not activated. -/
  | channelsFirst
  /-- Channel blocks, not activated. -/
  | channelBlocks
  /-- Channels last, activated by the network itself. -/
  | activated
deriving DecidableEq, Repr

/-- The variant for a combination of version, framework and layout, if it is supported. -/
def Variant.select? (version : Nat) (framework : Framework) (layout : Layout) :
    Option Variant :=
  match version, framework, layout with
  | 3, .tensorflow, .channelsLast => some .channelsLast
  | 3, .caffe, .channelsFirst => some .channelsFirst
  | 4, .mindspore, .channelsLast => some .activated
  | 4, .pytorch, .channelsFirst => some .channelsFirst
  | 5, .pytorch, .channelBlocks => some .channelBlocks
  | _, _, _ => none

/-- The overlap measure by which a variant suppresses objects. -/
def Variant.measure : Variant → OverlapMeasure
  | .activated => .distance
  | _ => .union

/-! ## Settings -/

/-- The channels that describe a rectangle. -/
def boxChannels : Nat := 4

/-- The channels before those of the classes: a rectangle and its objectness. -/
def leadingChannels : Nat := boxChannels + 1

/-- The most anchors that a cell can have. -/
def maxAnchors : Nat := 3

/-- What a grid detector is told. -/
structure Settings where
  /-- The classes and their thresholds. -/
  classes : ClassSettings
  /-- The objectness that a candidate has to exceed. -/
  objectnessThreshold : Float32
  /-- The overlap at which a weaker object is suppressed. -/
  overlapThreshold : Float32
  /-- The number of anchors of a cell. -/
  anchorsPerCell : Nat
  /-- The widths and heights of the anchors of all layers, the finest layer first. -/
  anchorSizes : List Float32
  /-- The number of layers. -/
  layerCount : Nat
  /-- The version of the detector. -/
  version : Nat
  /-- The memory layout of the outputs. -/
  layout : Layout
  /-- The framework that the network was made with. -/
  framework : Framework
deriving DecidableEq

namespace Settings

/-- The layout that the settings name, or the usual one of a version. -/
def readLayout (s : Detection.Settings) (version : Nat) : Except Fault Layout :=
  match s.readWithin? "MODEL_TYPE" (0 : UInt32) 2 with
  | .error fault => .error (.settings fault)
  | .ok none => .ok (if version = 5 then .channelBlocks else .channelsLast)
  | .ok (some index) =>
    match Layout.ofIndex? index.toNat with
    | some layout => .ok layout
    | none => .error (.yolo (.layout index.toNat))

/-- The sizes of the anchors, as many as the settings announce. -/
def readAnchorSizes (s : Detection.Settings) (count : Nat) : Except Fault (List Float32) :=
  match s.get? "BIASES" with
  | none => .error (.absent "BIASES")
  | some text =>
    match readNumbers "BIASES" text with
    | .error fault => .error (.settings fault)
    | .ok sizes =>
      if sizes.length = count then .ok sizes
      else .error (.valueCount "BIASES" count sizes.length)

/-- What the settings say about a grid detector. -/
def ofSettings (s : Detection.Settings) : Except Fault Settings := do
  let classes ← ClassSettings.ofSettings s
  let sizeCount := (s.readOr "BIASES_NUM" (18 : UInt64) 0 100).toNat
  let version := (s.readOr "YOLO_VERSION" (3 : UInt32) 0 16).toNat
  let layout ← readLayout s version
  let framework :=
    match s.get? "FRAMEWORK" with
    | some name => Framework.ofName name
    | none => Framework.default version layout
  let anchorSizes ← readAnchorSizes s sizeCount
  return {
    classes
    objectnessThreshold := s.readOr "OBJECTNESS_THRESH" (0.3 : Float32) 0.0 1.0
    overlapThreshold := s.readOr "IOU_THRESH" (0.45 : Float32) 0.0 1.0
    anchorsPerCell := (s.readOr "ANCHOR_DIM" (3 : UInt64) 0 16).toNat
    anchorSizes
    layerCount := (s.readOr "YOLO_TYPE" (3 : UInt64) 0 16).toNat
    version
    layout
    framework }

/-- The channels of one anchor. -/
def channels (s : Settings) : Nat :=
  leadingChannels + s.classes.classCount

/-- What the combination of version, framework and layout is called. -/
def combination (s : Settings) : String :=
  "Yolov" ++ toString s.version ++ "-" ++ s.framework.name ++ "-" ++ s.layout.name

end Settings

end Yolo
end Detection
