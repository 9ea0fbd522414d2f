/-
# Settings of the text detector

The detector finds narrow proposals of one width along a line of text and links them up.
-/
import Detection.Fault

namespace Detection
namespace Ctpn

/-- What a text detector is told. -/
structure Settings where
  /-- The least extent of a proposal in pixels. -/
  minSize : Nat
  /-- The pixels between neighbouring cells. -/
  stride : Nat
  /-- The width of an anchor in pixels. -/
  anchorWidth : Nat
  /-- The numbers that describe where a proposal is. -/
  boxFeatures : Nat
  /-- The numbers that describe what a proposal is. -/
  scoreFeatures : Nat
  /-- The number of anchors of a cell. -/
  anchorCount : Nat
  /-- How many columns a proposal may lie behind the one before it. -/
  maxGap : Nat
  /-- The least vertical overlap of linked proposals. -/
  minOverlap : Float32
  /-- The least similarity of the heights of linked proposals. -/
  minSimilarity : Float32
  /-- Whether lines of text may be slanted. -/
  isSlanted : Bool
  /-- The overlap at which a proposal is suppressed in the first round. -/
  boxOverlap : Float32
  /-- The overlap at which a proposal is suppressed in the second round. -/
  textOverlap : Float32
  /-- The ratio of width to height that a line has to exceed. -/
  minRatio : Float32
  /-- The score that a proposal has to exceed. -/
  minScore : Float32
  /-- The score that a line has to exceed. -/
  minLineScore : Float32
  /-- The width that a proposal counts for in a line. -/
  proposalWidth : Nat
  /-- The number of proposals whose width a line has to exceed. -/
  minProposals : Nat
  /-- The number of proposals that enter the first round. -/
  roundLimit : Nat
  /-- The number of proposals that leave the first round. -/
  survivorLimit : Nat
  /-- Whether the outputs of a model are checked before it is used. -/
  checksModel : Bool
deriving DecidableEq

/-- The features of an anchor that describe a rectangle. -/
def leastBoxFeatures : Nat := 4

/-- The feature of an anchor that holds the score of being text. -/
def textScore : Nat := 1

namespace Settings

/-- A number of the settings, up to a thousand. -/
def readCount (s : Detection.Settings) (key : String) (default : UInt32) : Nat :=
  (s.readOr key default 0 1000).toNat

/-- A number of the settings, up to a thousand, with a default that may be larger. -/
def readLimit (s : Detection.Settings) (key : String) (default : UInt64) : Nat :=
  (s.readOr key default 0 1000).toNat

/-- A fraction of the settings. -/
def readFraction (s : Detection.Settings) (key : String) (default : Float32) : Float32 :=
  s.readOr key default 0.0 1.0

/-- A ratio of the settings, up to a thousand. -/
def readRatio (s : Detection.Settings) (key : String) (default : Float32) : Float32 :=
  s.readOr key default 0.0 1000.0

/-- What the settings say about a text detector. -/
def ofSettings (s : Detection.Settings) : Settings where
  minSize := readCount s "MIN_SIZE" 8
  stride := readCount s "FEAT_STRIDE" 16
  anchorWidth := readCount s "ANCHOR_SCALES" 16
  boxFeatures := readLimit s "FEAT_BOX_LAYER" 4
  scoreFeatures := readLimit s "FEAT_CONF_LAYER" 2
  anchorCount := readLimit s "ANCHORNUM" 10
  maxGap := readCount s "MAX_HORIZONTAL_GAP" 50
  minOverlap := readRatio s "MIN_OVER_LAPS" 0.7
  minSimilarity := readRatio s "MIN_SIZE_SIM" 0.7
  isSlanted := s.readBoolOr "IS_ORIENTED" false
  boxOverlap := readFraction s "BOX_IOU_THRESH" 0.7
  textOverlap := readFraction s "TEXT_IOU_THRESH" 0.2
  minRatio := readRatio s "MIN_RATIO" 0.5
  minScore := readFraction s "TEXT_PROPOSALS_MIN_SCORE" 0.7
  minLineScore := readFraction s "LINE_MIN_SCORE" 0.9
  proposalWidth := readCount s "TEXT_PROPOSALS_WIDTH" 16
  minProposals := readCount s "MIN_NUM_PROPOSALS" 2
  roundLimit := readLimit s "RPN_PRE_NMS_TOP_N" 12000
  survivorLimit := readLimit s "RPN_POST_NMS_TOP_N" 1000
  checksModel := s.readBoolOr "CHECK_MODEL" true

end Settings

end Ctpn
end Detection
