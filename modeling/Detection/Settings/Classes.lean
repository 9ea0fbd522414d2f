/-
# Settings about classes

How many classes there are and how certain an object of a class has to be.
-/
import Detection.Fault

namespace Detection

/-- What detectors of objects know about their classes. -/
structure ClassSettings where
  /-- The number of classes. -/
  classCount : Nat
  /-- The score that an object of any class has to exceed. -/
  scoreThreshold : Float32
  /-- The thresholds of the classes, from class 0 on. -/
  classThresholds : List Float32
  /-- Whether the outputs of a model are checked before it is used. -/
  checksModel : Bool
deriving DecidableEq

namespace ClassSettings

/-- The thresholds that the settings give to each class; without any, all classes have the
common one. -/
def readThresholds (s : Settings) (classCount : Nat) (scoreThreshold : Float32) :
    Except Fault (List Float32) :=
  match s.get? "SEPARATE_SCORE_THRESH" with
  | none => .ok (List.replicate classCount scoreThreshold)
  | some text =>
    if classCount = 0 then
      .error .noClasses
    else
      match readNumbers "SEPARATE_SCORE_THRESH" text with
      | .error fault => .error (.settings fault)
      | .ok thresholds =>
        if thresholds.length = classCount then
          .ok thresholds
        else
          .error (.valueCount "SEPARATE_SCORE_THRESH" classCount thresholds.length)

/-- What the settings say about classes. -/
def ofSettings (s : Settings) : Except Fault ClassSettings := do
  let classCount := (s.readOr "CLASS_NUM" (80 : UInt64) 0 1000).toNat
  let scoreThreshold := s.readOr "SCORE_THRESH" (0.3 : Float32) 0.0 1.0
  let checksModel := s.readBoolOr "CHECK_MODEL" true
  let classThresholds ← readThresholds s classCount scoreThreshold
  return { classCount, scoreThreshold, classThresholds, checksModel }

/-- The threshold of a class; a class without one has the common threshold. -/
def thresholdOf (c : ClassSettings) (classId : Nat) : Float32 :=
  c.classThresholds[classId]?.getD c.scoreThreshold

end ClassSettings

end Detection
