/-
# Settings of the region detector

The detector proposes regions and scores every class in each of them.  Networks differ in how
much of the work they do themselves: some leave the choice of the class to the decoder, some
have suppressed overlapping regions already, and some build on a feature pyramid.
-/
import Detection.Settings.Classes

namespace Detection
namespace FasterRcnn

/-- What the outputs of a network hold. -/
inductive Mode where
  /-- A rectangle and a score for each class of each region. -/
  | perClass
  /-- One rectangle, class and score for each region, overlaps suppressed. -/
  | suppressed
  /-- The regions of a feature pyramid, with their scores, and their classes apart. -/
  | pyramid
deriving DecidableEq, Repr

/-- What a region detector is told.  The outputs of a network are known by their position. -/
structure Settings where
  /-- The classes and their thresholds. -/
  classes : ClassSettings
  /-- The overlap at which a weaker object is suppressed. -/
  overlapThreshold : Float32
  /-- What the outputs hold. -/
  mode : Mode
  /-- The number of classes that are scored; the background is not, unless overlaps have been
  suppressed already. -/
  scoredClasses : Nat
  /-- The output with the number of detections. -/
  countOutput : Nat
  /-- The output with the rectangles of each class. -/
  boxOutput : Nat
  /-- The output with the scores of each class. -/
  scoreOutput : Nat
  /-- The output with the scores of suppressed regions. -/
  suppressedScoreOutput : Nat
  /-- The output with the rectangles of suppressed regions. -/
  suppressedBoxOutput : Nat
  /-- The output with the classes of suppressed regions. -/
  suppressedClassOutput : Nat
deriving DecidableEq

namespace Settings

/-- The position of an output in the settings. -/
def readOutput (s : Detection.Settings) (key : String) (default : UInt64) : Nat :=
  (s.readOr key default 0 5000).toNat

/-- What the settings say about a region detector. -/
def ofSettings (s : Detection.Settings) : Except Fault Settings := do
  let classes ← ClassSettings.ofSettings s
  let isSuppressed := s.readBoolOr "NMS_FINISHED" false
  let isPyramid := s.readBoolOr "FPN_SWITCH" false
  return {
    classes
    overlapThreshold := s.readOr "IOU_THRESH" (0.45 : Float32) 0.0 1.0
    mode := if isPyramid then .pyramid else if isSuppressed then .suppressed else .perClass
    scoredClasses := if isSuppressed then classes.classCount else classes.classCount - 1
    countOutput := readOutput s "OBJECT_NUM_TENSOR" 0
    boxOutput := readOutput s "BBOX_TENSOR" 1
    scoreOutput := readOutput s "CONFIDENCE_TENSOR" 2
    suppressedScoreOutput := readOutput s "CONFIDENCE_UNCUT_TENSOR" 1
    suppressedBoxOutput := readOutput s "BBOX_UNCUT_TENSOR" 2
    suppressedClassOutput := readOutput s "CLASSID_UNCUT_TENSOR" 3 }

end Settings

end FasterRcnn
end Detection
