/-
# What reading settings depends on

A reader of a key looks at the value of that key and at nothing else.  Where settings about
classes can be read, there is a threshold for each class.
-/
import Detection.Proofs.Outcome
import Detection.Settings.Classes
import Mathlib.Tactic.Lemma

namespace Detection
namespace Settings

variable {s s' : Settings} {key : String}

lemma readWithin?_congr {α : Type} [SettingValue α] (h : s.get? key = s'.get? key)
    (low high : α) : s.readWithin? key low high = s'.readWithin? key low high := by
  unfold readWithin? read?
  rw [h]

lemma readOr_congr {α : Type} [SettingValue α] (h : s.get? key = s'.get? key)
    (default low high : α) : s.readOr key default low high = s'.readOr key default low high := by
  unfold readOr
  rw [readWithin?_congr h]

lemma readBoolOr_congr (h : s.get? key = s'.get? key) (default : Bool) :
    s.readBoolOr key default = s'.readBoolOr key default := by
  unfold readBoolOr readBool?
  rw [h]

end Settings

/-- The keys that are read about classes. -/
def ClassSettings.keys : List String :=
  ["CLASS_NUM", "SCORE_THRESH", "CHECK_MODEL", "SEPARATE_SCORE_THRESH"]

lemma ClassSettings.ofSettings_congr {s s' : Settings}
    (h : ∀ key ∈ ClassSettings.keys, s.get? key = s'.get? key) :
    ClassSettings.ofSettings s = ClassSettings.ofSettings s' := by
  unfold ClassSettings.ofSettings ClassSettings.readThresholds
  rw [Settings.readOr_congr (h "CLASS_NUM" (by decide)),
    Settings.readOr_congr (h "SCORE_THRESH" (by decide)),
    Settings.readBoolOr_congr (h "CHECK_MODEL" (by decide)),
    h "SEPARATE_SCORE_THRESH" (by decide)]

/-- Where each class is given a threshold, the common one is not asked for. -/
lemma ClassSettings.readThresholds_congr {s s' : Settings}
    (hsame : s.get? "SEPARATE_SCORE_THRESH" = s'.get? "SEPARATE_SCORE_THRESH")
    (hseparate : (s.get? "SEPARATE_SCORE_THRESH").isSome) (classCount : ℕ)
    (scoreThreshold scoreThreshold' : Float32) :
    ClassSettings.readThresholds s classCount scoreThreshold =
      ClassSettings.readThresholds s' classCount scoreThreshold' := by
  obtain ⟨text, htext⟩ := Option.isSome_iff_exists.1 hseparate
  unfold ClassSettings.readThresholds
  rw [← hsame, htext]

lemma ClassSettings.length_of_readThresholds {s : Settings} {classCount : ℕ}
    {scoreThreshold : Float32} {thresholds : List Float32}
    (h : ClassSettings.readThresholds s classCount scoreThreshold = .ok thresholds) :
    thresholds.length = classCount := by
  unfold ClassSettings.readThresholds at h
  split at h
  · cases h
    exact List.length_replicate
  · split at h
    · cases h
    · split at h
      · cases h
      · split at h
        · rename_i hlength
          cases h
          exact hlength
        · cases h

lemma ClassSettings.length_classThresholds {s : Settings} {classes : ClassSettings}
    (h : ClassSettings.ofSettings s = .ok classes) :
    classes.classThresholds.length = classes.classCount := by
  obtain ⟨thresholds, hthresholds, h⟩ := exists_of_bind_eq_ok h
  cases h
  exact ClassSettings.length_of_readThresholds hthresholds

end Detection
