/-
# What the two rounds leave of proposals

The best boxes enter the first round, a limited number of its survivors go on, and of those that
exceed the score the second round keeps some.  So each box that entered and exceeds the score is
kept, or there is a reason why it is not: it overlaps an earlier survivor too much, enough
survivors come before it, or it overlaps an earlier kept box too much.  Boxes are spoken of by
their places in the ranking, because a box may be there twice.

A larger limit only adds to the end of what is left.

## Main definitions

* `survivors`, `kept`: the places of the boxes that each of the two rounds leaves.
* `IsKeptInRounds`: places are those of what has to be left after both rounds.

The main results are `exists_isKeptInRounds` and `suppressProposals_isPrefix`.
-/
import Detection.Proofs.Ctpn.Rounds
import Mathlib.Data.List.Infix

namespace Detection
namespace Ctpn

open Box (IsRanking prioritised excludes overlap filterOverlapping isRanking_prioritised)

/-- Places in a list of boxes that entered the first round are those of its survivors, and those
of the boxes that the second round keeps. -/
structure IsKeptInRounds (s : Settings) (entered : List Box)
    (survivors kept : List (Fin entered.length)) : Prop where
  /-- Survivors come in the order of the ranking. -/
  ascending : survivors.Pairwise (· < ·)
  /-- A box survives exactly if it does not overlap an earlier survivor too much. -/
  mem_survivors_iff : ∀ i, i ∈ survivors ↔ ∀ j ∈ survivors, j < i →
    ¬ s.boxOverlap < overlap .union entered[j] entered[i]
  /-- Kept boxes are survivors, and come in their order. -/
  sublist : kept.Sublist survivors
  /-- A survivor is kept exactly if fewer survivors than the limit come before it, it exceeds the
  score, and it does not overlap an earlier kept box too much. -/
  mem_kept_iff : ∀ i, i ∈ kept ↔ i ∈ survivors ∧
    (survivors.filter (· < i)).length < s.survivorLimit ∧ s.minScore < entered[i].score ∧
      ∀ j ∈ kept, j < i → ¬ s.textOverlap < overlap .union entered[j] entered[i]
  /-- No more boxes are kept than either limit allows. -/
  length_le : kept.length ≤ min s.roundLimit s.survivorLimit
  /-- Kept boxes exceed the score. -/
  exceeds : ∀ i ∈ kept, s.minScore < entered[i].score
  /-- Their scores do not rise. -/
  descending : kept.Pairwise fun i j => entered[j].score ≤ entered[i].score
  /-- No kept box overlaps a later one too much for either round. -/
  apart : kept.Pairwise fun i j => ¬ s.textOverlap < overlap .union entered[i] entered[j] ∧
    ¬ s.boxOverlap < overlap .union entered[i] entered[j]
  /-- A box that exceeds the score and is not kept lies behind as many survivors as may go on, or
  overlaps an earlier survivor or an earlier kept box too much. -/
  accounted : ∀ i, s.minScore < entered[i].score → i ∉ kept →
    s.survivorLimit ≤ (survivors.filter (· < i)).length ∨
      (∃ j ∈ survivors, j < i ∧ s.boxOverlap < overlap .union entered[j] entered[i]) ∨
      ∃ j ∈ kept, j < i ∧ s.textOverlap < overlap .union entered[j] entered[i]

/-! ## The places that the rounds leave -/

section Places

variable (s : Settings) (entered : List Box)

/-- The places of the survivors of the first round. -/
def survivors : List (Fin entered.length) :=
  sieve (fun i j => excludes .union s.boxOverlap entered[i] entered[j])
    (List.finRange entered.length)

/-- The places of the survivors that go on and exceed the score. -/
def admitted : List (Fin entered.length) :=
  ((survivors s entered).take s.survivorLimit).filter fun i => s.minScore < entered[i].score

/-- The places of the boxes that the second round keeps. -/
def kept : List (Fin entered.length) :=
  sieve (fun i j => excludes .union s.textOverlap entered[i] entered[j]) (admitted s entered)

lemma filterOverlapping_eq_map_survivors :
    filterOverlapping .union s.boxOverlap entered = (survivors s entered).map entered.get := by
  have hall : (List.finRange entered.length).map entered.get = entered :=
    List.map_get_finRange entered
  have hmap : sieve (excludes .union s.boxOverlap)
        ((List.finRange entered.length).map entered.get) =
      (survivors s entered).map entered.get := sieve_map entered.get _
  rwa [hall] at hmap

lemma secondRound_eq_map_kept :
    s.secondRound ((filterOverlapping .union s.boxOverlap entered).take s.survivorLimit) =
      (kept s entered).map entered.get := by
  have hadmitted : ((filterOverlapping .union s.boxOverlap entered).take s.survivorLimit).filter
      (fun b => s.minScore < b.score) = (admitted s entered).map entered.get := by
    rw [filterOverlapping_eq_map_survivors, ← List.map_take, List.filter_map]
    rfl
  unfold Settings.secondRound
  rw [hadmitted]
  exact sieve_map entered.get (admitted s entered)

/-! ## What is left of the places -/

lemma pairwise_survivors : (survivors s entered).Pairwise (· < ·) :=
  (List.pairwise_lt_finRange _).sublist (sieveFrom_sublist _ _ _)

lemma admitted_sublist : (admitted s entered).Sublist (survivors s entered) :=
  List.filter_sublist.trans (List.take_sublist _ _)

lemma kept_sublist_take :
    (kept s entered).Sublist ((survivors s entered).take s.survivorLimit) :=
  (sieveFrom_sublist _ _ _).trans List.filter_sublist

lemma kept_sublist : (kept s entered).Sublist (survivors s entered) :=
  (kept_sublist_take s entered).trans (List.take_sublist _ _)

lemma mem_survivors_iff (i : Fin entered.length) :
    i ∈ survivors s entered ↔ ∀ j ∈ survivors s entered, j < i →
      ¬ s.boxOverlap < overlap .union entered[j] entered[i] := by
  have hmem : i ∈ survivors s entered ↔ i ∈ List.finRange entered.length ∧
      ∀ j ∈ survivors s entered, j < i →
        excludes .union s.boxOverlap entered[j] entered[i] = false :=
    mem_sieve_iff (List.pairwise_lt_finRange entered.length)
  simpa [excludes] using hmem

lemma mem_admitted_iff (i : Fin entered.length) :
    i ∈ admitted s entered ↔ i ∈ survivors s entered ∧
      ((survivors s entered).filter (· < i)).length < s.survivorLimit ∧
      s.minScore < entered[i].score := by
  unfold admitted
  rw [List.mem_filter, decide_eq_true_iff, ← and_assoc, and_congr_left_iff]
  intro _
  constructor
  · intro hi
    have hi' := List.mem_of_mem_take hi
    exact ⟨hi', (mem_take_iff (pairwise_survivors s entered) hi' _).1 hi⟩
  · rintro ⟨hi, hlt⟩
    exact (mem_take_iff (pairwise_survivors s entered) hi _).2 hlt

lemma mem_kept_iff (i : Fin entered.length) :
    i ∈ kept s entered ↔ i ∈ survivors s entered ∧
      ((survivors s entered).filter (· < i)).length < s.survivorLimit ∧
      s.minScore < entered[i].score ∧
      ∀ j ∈ kept s entered, j < i → ¬ s.textOverlap < overlap .union entered[j] entered[i] := by
  have hmem : i ∈ kept s entered ↔ i ∈ admitted s entered ∧ ∀ j ∈ kept s entered, j < i →
      excludes .union s.textOverlap entered[j] entered[i] = false :=
    mem_sieve_iff ((pairwise_survivors s entered).sublist (admitted_sublist s entered))
  rw [mem_admitted_iff, and_assoc, and_assoc] at hmem
  simpa [excludes] using hmem

lemma length_kept_le : (kept s entered).length ≤ min entered.length s.survivorLimit := by
  have hall : (kept s entered).Sublist (List.finRange entered.length) :=
    (kept_sublist s entered).trans (sieveFrom_sublist _ _ _)
  have hlength := hall.length_le
  rw [List.length_finRange] at hlength
  have hlimit := (kept_sublist_take s entered).length_le.trans (List.length_take_le _ _)
  exact le_min hlength hlimit

lemma pairwise_kept :
    (kept s entered).Pairwise fun i j =>
      ¬ s.textOverlap < overlap .union entered[i] entered[j] ∧
        ¬ s.boxOverlap < overlap .union entered[i] entered[j] := by
  -- What the second round keeps has survived the first, so both thresholds hold of it.
  have htext : (kept s entered).Pairwise fun i j =>
      excludes .union s.textOverlap entered[i] entered[j] = false := pairwise_sieveFrom [] _
  have hbox : (survivors s entered).Pairwise fun i j =>
      excludes .union s.boxOverlap entered[i] entered[j] = false := pairwise_sieveFrom [] _
  refine (htext.and (hbox.sublist (kept_sublist s entered))).imp ?_
  rintro i j ⟨hij, hij'⟩
  simpa [excludes] using And.intro hij hij'

end Places

/-! ## Both rounds -/

variable {s : Settings} {entered : List Box}

/-- What the rounds leave of boxes that come in falling order. -/
lemma isKeptInRounds (hlength : entered.length ≤ s.roundLimit)
    (hfalling : entered.Pairwise fun a b => b.score ≤ a.score) :
    IsKeptInRounds s entered (survivors s entered) (kept s entered) where
  ascending := pairwise_survivors s entered
  mem_survivors_iff := mem_survivors_iff s entered
  sublist := kept_sublist s entered
  mem_kept_iff := mem_kept_iff s entered
  length_le := (length_kept_le s entered).trans (min_le_min_right _ hlength)
  exceeds := by
    intro i hi
    exact ((mem_kept_iff s entered i).1 hi).2.2.1
  descending := by
    refine ((pairwise_survivors s entered).sublist (kept_sublist s entered)).imp ?_
    intro i j hij
    exact List.pairwise_iff_getElem.1 hfalling i j i.isLt j.isLt hij
  apart := pairwise_kept s entered
  accounted := by
    intro i hscore hi
    -- Without any of these reasons, a box survives, goes on and is kept.
    by_contra hno
    push Not at hno
    obtain ⟨hlimit, hbox, htext⟩ := hno
    have hsurvives : i ∈ survivors s entered := (mem_survivors_iff s entered i).2 hbox
    exact hi ((mem_kept_iff s entered i).2 ⟨hsurvives, hlimit, hscore, htext⟩)

/-- If no score is missing, boxes come in falling order in a ranking. -/
lemma pairwise_of_isRanking {boxes ranking : List Box}
    (h : IsRanking (·.score) boxes ranking) (hthere : ∀ b ∈ boxes, b.score.isNaN = false) :
    ranking.Pairwise fun a b => b.score ≤ a.score := by
  refine h.descending.imp_of_mem ?_
  intro a b ha hb hle
  exact Float32.le_of_rank_le hle (hthere b (h.perm.mem_iff.1 hb)) (hthere a (h.perm.mem_iff.1 ha))

/-- **Nothing disappears without a reason.**  If no score is missing, the boxes enter the first
round by falling score, and what is left is what both rounds have to keep of them. -/
theorem exists_isKeptInRounds (s : Settings) (boxes : List Box)
    (hthere : ∀ b ∈ boxes, b.score.isNaN = false) :
    ∃ ranking, IsRanking (·.score) boxes ranking ∧
      ∃ survivors kept, IsKeptInRounds s (ranking.take s.roundLimit) survivors kept ∧
        s.suppressProposals boxes =
          kept.map fun i => .ofBox (ranking.take s.roundLimit)[i] := by
  have hranking := isRanking_prioritised (·.score) boxes
  refine ⟨_, hranking, survivors s _, kept s _, isKeptInRounds (List.length_take_le _ _) ?_, ?_⟩
  · exact (pairwise_of_isRanking hranking hthere).sublist (List.take_sublist _ _)
  · unfold Settings.suppressProposals Settings.firstRound
    rw [secondRound_eq_map_kept, List.map_map]
    rfl

/-- A box, a worse one almost in its place, and a weak one far from both. -/
def crowded : List Box :=
  [.ofCorners ⟨0.0, 0.0, 16.0, 16.0⟩ 0 0.875, .ofCorners ⟨0.0, 1.0, 16.0, 17.0⟩ 0 0.8125,
    .ofCorners ⟨64.0, 0.0, 80.0, 16.0⟩ 0 0.75]

theorem exists_isKeptInRounds_crowded :
    (∀ b ∈ crowded, b.score.isNaN = false) ∧
      ∃ ranking, IsRanking (·.score) crowded ranking ∧
        ∃ survivors kept,
          IsKeptInRounds usualSettings (ranking.take usualSettings.roundLimit) survivors kept ∧
          usualSettings.suppressProposals crowded =
            kept.map fun i => .ofBox (ranking.take usualSettings.roundLimit)[i] := by
  have hthere : ∀ b ∈ crowded, b.score.isNaN = false := by decide
  exact ⟨hthere, exists_isKeptInRounds usualSettings crowded hthere⟩

/-! ## Larger limits -/

section Limits

variable {boxes : List Box} {n n' m m' : ℕ}

lemma secondRound_isPrefix {front : List Box} (h : front <+: boxes) :
    s.secondRound front <+: s.secondRound boxes :=
  sieve_isPrefix (h.filter _)

lemma firstRound_isPrefix (hn : n ≤ n') (hm : m ≤ m') :
    { s with roundLimit := n, survivorLimit := m }.firstRound boxes <+:
      { s with roundLimit := n', survivorLimit := m' }.firstRound boxes := by
  have hentered : (prioritised (·.score) boxes).take n <+: (prioritised (·.score) boxes).take n' :=
    List.take_prefix_take_left hn
  have hkept : filterOverlapping .union s.boxOverlap ((prioritised (·.score) boxes).take n) <+:
      filterOverlapping .union s.boxOverlap ((prioritised (·.score) boxes).take n') :=
    sieve_isPrefix hentered
  exact (hkept.take m).trans (List.take_prefix_take_left hm)

end Limits

/-- **Larger limits only add at the end.**  This needs no score to be there. -/
theorem suppressProposals_isPrefix (s : Settings) (boxes : List Box) {n n' m m' : ℕ}
    (hn : n ≤ n') (hm : m ≤ m') :
    { s with roundLimit := n, survivorLimit := m }.suppressProposals boxes <+:
      { s with roundLimit := n', survivorLimit := m' }.suppressProposals boxes := by
  have hfirst : { s with roundLimit := n, survivorLimit := m }.firstRound boxes <+:
      { s with roundLimit := n', survivorLimit := m' }.firstRound boxes :=
    firstRound_isPrefix hn hm
  -- The second round does not look at the limits.
  exact (secondRound_isPrefix hfirst).map Proposal.ofBox

theorem suppressProposals_isPrefix_crowded :
    2 ≤ 3 ∧ 1 ≤ 2 ∧
      { usualSettings with roundLimit := 2, survivorLimit := 1 }.suppressProposals crowded <+:
        { usualSettings with roundLimit := 3, survivorLimit := 2 }.suppressProposals crowded := by
  have hn : 2 ≤ 3 := by decide
  have hm : 1 ≤ 2 := by decide
  exact ⟨hn, hm, suppressProposals_isPrefix usualSettings crowded hn hm⟩

end Ctpn
end Detection
