/-
# Weak proposals in the two rounds

Proposals are held to the score only between the two rounds, so weak ones take part in the first:
they are ranked, they take up places, and they can suppress others.  Those whose score stays
within the bound come after all others in the ranking, so they do no harm and might be left out
beforehand.  A missing score neither exceeds the bound nor stays within it.  It is ranked first,
so such a proposal suppresses the ones that overlap it, and is then left out itself.

The main result is `suppressProposals_eq_of_leaving_out`.
-/
import Detection.Ctpn.Proposal
import Detection.Proofs.Box.Filtering

namespace Detection
namespace Ctpn

open Box (IsUpward prioritised filterOverlapping)

variable {s : Settings} {boxes : List Box} {q : Box → Bool}

/-! ## Boxes above a mark -/

/-- The first round leaves of the boxes above a mark what it leaves above the mark of all. -/
lemma firstRound_filter (h : IsUpward (·.score) q boxes) :
    s.firstRound (boxes.filter q) = (s.firstRound boxes).filter q := by
  have hranked := h.pairwise_prioritised
  have hentered : ((prioritised (·.score) boxes).take s.roundLimit).Pairwise fun a b => q b → q a :=
    hranked.sublist (List.take_sublist _ _)
  have hkept : (filterOverlapping .union s.boxOverlap
      ((prioritised (·.score) boxes).take s.roundLimit)).Pairwise fun a b => q b → q a :=
    hentered.sublist (sieveFrom_sublist _ _ _)
  unfold Settings.firstRound
  rw [filter_take_of_pairwise hkept, Box.prioritised_filter, ← filter_take_of_pairwise hranked]
  unfold filterOverlapping sieve
  rw [filter_sieveFrom_of_pairwise hentered]

/-- If all boxes that exceed the score are above a mark, the second round looks at no others. -/
lemma secondRound_filter (h : ∀ b : Box, s.minScore < b.score → q b) :
    s.secondRound (boxes.filter q) = s.secondRound boxes := by
  have hsame : (boxes.filter q).filter (fun b => s.minScore < b.score) =
      boxes.filter fun b => s.minScore < b.score := by
    rw [List.filter_filter]
    refine List.filter_congr fun b _ => ?_
    by_cases hb : s.minScore < b.score
    · simp [hb, h b hb]
    · simp [hb]
  unfold Settings.secondRound
  rw [hsame]

/-- Boxes below a mark can be left out if none of them exceeds the score. -/
lemma suppressProposals_filter (hupward : IsUpward (·.score) q boxes)
    (h : ∀ b : Box, s.minScore < b.score → q b) :
    s.suppressProposals (boxes.filter q) = s.suppressProposals boxes := by
  unfold Settings.suppressProposals
  rw [firstRound_filter hupward, secondRound_filter h]

/-! ## The score as a mark -/

/-- Scores that do not stay within a bound are ranked above those that do. -/
lemma isUpward_not_le (bound : Float32) (boxes : List Box) :
    IsUpward (·.score) (fun b => !decide (b.score ≤ bound)) boxes := by
  intro a _ b _ ha hle
  simp only [Bool.not_eq_true', decide_eq_false_iff_not] at ha ⊢
  exact Float32.not_le_of_rank_le ha hle

/-- If no score is missing, scores that exceed a bound are ranked above those that do not. -/
lemma isUpward_lt {bound : Float32} (hthere : ∀ b ∈ boxes, b.score.isNaN = false) :
    IsUpward (·.score) (fun b => bound < b.score) boxes := by
  intro a _ b hb ha hle
  simp only [decide_eq_true_eq] at ha ⊢
  exact Float32.lt_of_lt_of_rank_le ha hle (hthere b hb)

/-- **Weak proposals do not matter, missing scores do.**  Boxes whose score stays within the
bound can be left out beforehand; if no score is missing, so can all boxes whose score does not
exceed it. -/
theorem suppressProposals_eq_of_leaving_out (s : Settings) (boxes : List Box) :
    s.suppressProposals boxes =
        s.suppressProposals (boxes.filter fun b => !decide (b.score ≤ s.minScore)) ∧
      ((∀ b ∈ boxes, b.score.isNaN = false) →
        s.suppressProposals boxes =
          s.suppressProposals (boxes.filter fun b => s.minScore < b.score)) := by
  constructor
  · symm
    refine suppressProposals_filter (isUpward_not_le s.minScore boxes) fun b hb => ?_
    have hnot := Float32.not_le_of_lt hb
    simpa using hnot
  · intro hthere
    symm
    exact suppressProposals_filter (isUpward_lt hthere) fun b hb => by simpa using hb

/-- The settings of a text detector that is told nothing. -/
def usualSettings : Settings :=
  .ofSettings (.ofList [])

/-- A box with a score, and another box far from it. -/
def goodAndWeak : List Box :=
  [.ofCorners ⟨0.0, 0.0, 16.0, 16.0⟩ 0 0.875, .ofCorners ⟨64.0, 0.0, 80.0, 16.0⟩ 0 0.5]

theorem suppressProposals_goodAndWeak :
    (∀ b ∈ goodAndWeak, b.score.isNaN = false) ∧
      usualSettings.suppressProposals goodAndWeak = usualSettings.suppressProposals
        (goodAndWeak.filter fun b => usualSettings.minScore < b.score) := by
  have hthere : ∀ b ∈ goodAndWeak, b.score.isNaN = false := by decide
  exact ⟨hthere, (suppressProposals_eq_of_leaving_out usualSettings goodAndWeak).2 hthere⟩

/-- A good box, and before it the same one without a score. -/
def missingAndGood : List Box :=
  [.ofCorners ⟨0.0, 0.0, 16.0, 16.0⟩ 0 (0.0 / 0.0), .ofCorners ⟨0.0, 0.0, 16.0, 16.0⟩ 0 0.875]

lemma suppressProposals_missing : usualSettings.suppressProposals missingAndGood = [] := by
  have hranked : missingAndGood.Pairwise fun a b => rank b.score ≤ rank a.score := by
    decide
  unfold Settings.suppressProposals Settings.firstRound
  rw [Box.prioritised_eq_self hranked]
  decide +kernel

lemma suppressProposals_good :
    usualSettings.suppressProposals
        (missingAndGood.filter fun b => usualSettings.minScore < b.score) =
      [⟨⟨0.0, 0.0, 16.0, 16.0⟩, 0.875⟩] := by
  have hranked : (missingAndGood.filter fun b => usualSettings.minScore < b.score).Pairwise
      fun a b => rank b.score ≤ rank a.score := by
    decide
  unfold Settings.suppressProposals Settings.firstRound
  rw [Box.prioritised_eq_self hranked]
  rfl

/-- The box without a score suppresses the good one and is then left out itself. -/
theorem not_suppressProposals_eq_missingAndGood :
    ¬ ∀ (c : Detection.Settings) (boxes : List Box),
      (Settings.ofSettings c).suppressProposals boxes =
        (Settings.ofSettings c).suppressProposals
          (boxes.filter fun b => (Settings.ofSettings c).minScore < b.score) := by
  intro hall
  have hequal : usualSettings.suppressProposals missingAndGood =
      usualSettings.suppressProposals
        (missingAndGood.filter fun b => usualSettings.minScore < b.score) :=
    hall (.ofList []) missingAndGood
  rw [suppressProposals_missing, suppressProposals_good] at hequal
  exact absurd hequal (by simp)

end Ctpn
end Detection
