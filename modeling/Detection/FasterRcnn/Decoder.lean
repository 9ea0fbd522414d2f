/-
# Decoding the outputs of a region detector

How many regions there are is itself an output, or the first extent of the rectangles.  The
buffers are checked to reach as far as the last region before the first is decoded.  Where a
rectangle stands in an output of its own, its ordinates come before its abscissae.

## Main definitions

* `Detector.build`: a detector whose settings fit the shapes of a model's outputs.
* `Detector.perClassObjects`, `suppressedObjects`, `pyramidObjects`: the modes of decoding.
* `Detector.decode`: the objects that the outputs of a network show.
-/
import Detection.Choice
import Detection.FasterRcnn.Settings
import Detection.Object
import Detection.Tensor

namespace Detection
namespace FasterRcnn

/-! ## Checking a model -/

/-- The coordinates of a rectangle. -/
def boxWidth : Nat := 4

/-- The coordinates of a rectangle of a feature pyramid, and its score. -/
def pyramidBoxWidth : Nat := 5

/-- The outputs that decoding takes. -/
def outputCount : Nat := 4

/-- The outputs of a feature pyramid. -/
def pyramidOutputCount : Nat := 2

/-- The last class that a feature pyramid knows. -/
def lastPyramidClass : Int := 80

/-- The shape of the output that the settings give a role. -/
def shapeOf (shapes : List (List Nat)) (key : String) (index : Nat) :
    Except RegionFault (List Nat) :=
  match shapes[index]? with
  | some shape => .ok shape
  | none => .error (.role key index)

/-- Whether outputs can hold a rectangle for each class. -/
def Settings.checkPerClass (s : Settings) (shapes : List (List Nat)) :
    Except RegionFault Unit := do
  if shapes.length < outputCount - 1 then
    throw (.outputCount shapes.length (outputCount - 1))
  let shape ← shapeOf shapes "BBOX_TENSOR" s.boxOutput
  if shape.length = 4 ∧ shape.getD 2 0 = s.scoredClasses ∧ shape.getD 3 0 = boxWidth then
    return ()
  else
    throw (.classBoxShape shape s.scoredClasses boxWidth)

/-- Whether outputs can hold suppressed regions. -/
def Settings.checkSuppressed (s : Settings) (shapes : List (List Nat)) :
    Except RegionFault Unit := do
  if shapes.length < outputCount then
    throw (.outputCount shapes.length outputCount)
  let shape ← shapeOf shapes "BBOX_UNCUT_TENSOR" s.suppressedBoxOutput
  if shape.length = 3 ∧ shape.getD 2 0 = boxWidth then
    return ()
  else
    throw (.boxShape shape boxWidth)

/-- Whether outputs can hold the regions of a feature pyramid. -/
def Settings.checkPyramid (s : Settings) (shapes : List (List Nat)) :
    Except RegionFault Unit := do
  if shapes.length ≠ pyramidOutputCount then
    throw (.pyramidOutputCount shapes.length pyramidOutputCount)
  let shape ← shapeOf shapes "OBJECT_NUM_TENSOR" s.countOutput
  if shape.length = 2 ∧ shape.getD 1 0 = pyramidBoxWidth then
    return ()
  else
    throw (.pyramidBoxShape shape pyramidBoxWidth)

/-- Whether the shapes of a model's outputs fit the settings.  A feature pyramid is always
checked, other models if the settings ask for it. -/
def Settings.checkShapes (s : Settings) (shapes : List (List Nat)) : Except RegionFault Unit :=
  match s.mode with
  | .pyramid => s.checkPyramid shapes
  | .suppressed => if s.classes.checksModel then s.checkSuppressed shapes else .ok ()
  | .perClass => if s.classes.checksModel then s.checkPerClass shapes else .ok ()

/-- A region detector. -/
structure Detector where
  /-- What the detector was told. -/
  settings : Settings
deriving DecidableEq

/-- The detector that settings describe.  Where the shapes of a model's outputs are known,
they have to fit. -/
def Detector.build (s : Settings) (shapes : List (List Nat)) : Except Fault Detector :=
  if shapes.isEmpty then
    .ok ⟨s⟩
  else
    match s.checkShapes shapes with
    | .error fault => .error (.region fault)
    | .ok () => .ok ⟨s⟩

/-! ## How many regions -/

/-- The number of detections that an output holds; a negative one counts as none. -/
def detectionCount (output : Tensor) : Except Fault Nat := do
  match output.data with
  | .float _ => return (wholePart32 (← element (← output.floats) 0)).toNat
  | .integer _ => return (← element (← output.integers) 0).toInt.toNat

/-- The first index that no buffer can have. -/
def addressBound : Nat := UInt64.size

/-- The index of the last of `count` entries of a given width. -/
def lastIndex (count width : Nat) : Except Fault Nat :=
  if 0 < count * width ∧ count * width < addressBound then
    .ok (count * width - 1)
  else
    .error (.region (.detectionCount count))

/-! ## The modes -/

/-- A rectangle whose ordinates come before its abscissae. -/
def cornersAt (boxes : Array Float32) (base : Nat) : Except Fault (Corners Float32) := do
  let top ← element boxes base
  let left ← element boxes (base + 1)
  let bottom ← element boxes (base + 2)
  let right ← element boxes (base + 3)
  return { left, top, right, bottom }

/-- A rectangle as fractions of the model's input. -/
def fractions (extent : Extent) (c : Corners Float32) : Corners Float32 :=
  c.unscale (Float32.ofNat extent.modelWidth) (Float32.ofNat extent.modelHeight)

/-- The object of a region whose classes are scored apart.  The classes of the objects count
the background, the scores do not. -/
def Detector.perClassObject? (d : Detector) (extent : Extent) (boxes scores : Array Float32)
    (region : Nat) : Except Fault (Option DetectedObject) := do
  let classCount := d.settings.scoredClasses
  let regionScores ← (List.range classCount).mapM fun c =>
    element scores (region * classCount + c)
  let best := bestAbove 0.0 regionScores
  let classIndex := best.1.getD 0
  if best.2 ≤ d.settings.classes.thresholdOf classIndex then
    return none
  else
    let corners ← cornersAt boxes (region * classCount * boxWidth + classIndex * boxWidth)
    return some ⟨fractions extent corners, best.2, classIndex + 1⟩

/-- The objects of regions whose classes are scored apart. -/
def Detector.perClassObjects (d : Detector) (outputs : List Tensor) (extent : Extent) :
    Except Fault (List DetectedObject) := do
  let s := d.settings
  if outputs.length < outputCount then
    throw (.region (.outputCount outputs.length outputCount))
  let count ← detectionCount (← tensorAt outputs s.countOutput)
  if count = 0 ∨ s.scoredClasses = 0 then
    return []
  let boxOutput ← tensorAt outputs s.boxOutput
  let boxes ← boxOutput.floatsCovering (← lastIndex count (s.scoredClasses * boxWidth))
  let scoreOutput ← tensorAt outputs s.scoreOutput
  let scores ← scoreOutput.floatsCovering (← lastIndex count s.scoredClasses)
  let found ← (List.range count).mapM (d.perClassObject? extent boxes scores)
  DetectedObject.suppress .union s.overlapThreshold (found.filterMap id)

/-- The object of a suppressed region, if it is of a class that has a threshold and reaches
it.  Class 0 is the background. -/
def Detector.suppressedObject? (d : Detector) (boxes scores classIds : Array Float32)
    (region : Nat) : Except Fault (Option DetectedObject) := do
  let classNumber ← element classIds region
  if classNumber ≤ 0.0 then
    return none
  else
    let classId := countOf classNumber
    let score ← element scores region
    match d.settings.classes.classThresholds[classId]? with
    | none => return none
    | some threshold =>
      if threshold ≤ score then
        return some ⟨← cornersAt boxes (region * boxWidth), score, classId⟩
      else
        return none

/-- The objects of suppressed regions. -/
def Detector.suppressedObjects (d : Detector) (outputs : List Tensor) :
    Except Fault (List DetectedObject) := do
  let s := d.settings
  if outputs.length < outputCount then
    throw (.region (.outputCount outputs.length outputCount))
  let count ← detectionCount (← tensorAt outputs s.countOutput)
  if count = 0 then
    return []
  let boxOutput ← tensorAt outputs s.suppressedBoxOutput
  let boxes ← boxOutput.floatsCovering (← lastIndex count boxWidth)
  let scores ← (← tensorAt outputs s.suppressedScoreOutput).floatsCovering (count - 1)
  let classIds ← (← tensorAt outputs s.suppressedClassOutput).floatsCovering (count - 1)
  let found ← (List.range count).mapM (d.suppressedObject? boxes scores classIds)
  return found.filterMap id

/-- The object of a region of a feature pyramid, if it is of a known class and reaches the
threshold.  Here the abscissae come before the ordinates. -/
def Detector.pyramidObject? (d : Detector) (extent : Extent) (boxes : Array Float32)
    (classIds : Array Int64) (region : Nat) : Except Fault (Option DetectedObject) := do
  let classNumber := (← element classIds region).toInt
  if classNumber < 0 ∨ lastPyramidClass < classNumber then
    return none
  else
    let classId := classNumber.toNat
    let base := region * pyramidBoxWidth
    let score ← element boxes (base + 4)
    if score < d.settings.classes.thresholdOf classId then
      return none
    else
      let left ← element boxes base
      let top ← element boxes (base + 1)
      let right ← element boxes (base + 2)
      let bottom ← element boxes (base + 3)
      return some ⟨fractions extent { left, top, right, bottom }, score, classId⟩

/-- The objects of the regions of a feature pyramid. -/
def Detector.pyramidObjects (d : Detector) (outputs : List Tensor) (extent : Extent) :
    Except Fault (List DetectedObject) := do
  let s := d.settings
  if outputs.length ≠ pyramidOutputCount then
    throw (.region (.pyramidOutputCount outputs.length pyramidOutputCount))
  let boxOutput ← tensorAt outputs s.countOutput
  let count := boxOutput.shape.head?.getD 0
  if count = 0 then
    return []
  let boxes ← boxOutput.floatsCovering (← lastIndex count pyramidBoxWidth)
  let classIds ← (← tensorAt outputs s.boxOutput).integersCovering (count - 1)
  let found ← (List.range count).mapM (d.pyramidObject? extent boxes classIds)
  return found.filterMap id

/-- The objects that the outputs of a network show, in fractions of the model's input; in the
coordinates of the network where it has suppressed overlaps itself. -/
def Detector.decode (d : Detector) (outputs : List Tensor) (extent : Extent) :
    Except Fault (List DetectedObject) := do
  extent.checkModel
  match d.settings.mode with
  | .perClass => d.perClassObjects outputs extent
  | .suppressed => d.suppressedObjects outputs
  | .pyramid => d.pyramidObjects outputs extent

end FasterRcnn
end Detection
