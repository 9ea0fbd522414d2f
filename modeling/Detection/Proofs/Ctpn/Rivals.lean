/-
# Successors have predecessors

Whether two proposals match does not depend on which of them is asked.  So a proposal that has
found a match on its right stands among the matches on the left of that one, and the search to the
left, which begins there, ends at the column of the proposal at the latest.  Where all proposals
begin on the picture, it is therefore never in vain.

## Main definitions

* `Proposal.BeginsOn`: a proposal begins on a picture of a given width.

The main results are `Settings.matches_comm` and `predecessors_of_mem_successors`.
-/
import Detection.Proofs.Ctpn.Linking
import Detection.Proofs.Number.Scaling
import Detection.Proofs.Number.Truncation
import Detection.Proofs.Number.Whole
import Detection.Proofs.Number.Zeros
import Mathlib.Data.Set.Finite.Lemmas

namespace Detection
namespace Ctpn

variable {s : Settings} {all : List Numbered} {width : ℕ} {p q : Numbered}

/-! ## Matching in both directions -/

/-- Whether two proposals match does not depend on which of them is asked. -/
theorem Settings.matches_comm (s : Settings) (a b : Proposal) : s.matches a b = s.matches b a := by
  unfold Settings.matches
  rw [Bool.or_comm]
  split
  · rfl
  · rename_i htiny
    rw [Bool.or_eq_true, not_or] at htiny
    have ha : ¬ Float32.IsZero a.height := fun h => htiny.2 h.isTiny
    have hb : ¬ Float32.IsZero b.height := fun h => htiny.1 h.isTiny
    -- Which of two zeros is taken for an edge makes no difference once one has been added.
    have hedges := (Float32.alike_least32_comm a.corners.bottom b.corners.bottom).sub
      (Float32.alike_greatest32_comm a.corners.top b.corners.top)
    dsimp only
    rw [hedges.add_one, Float32.least32_comm ha hb, Float32.greatest32_comm ha hb]

lemma mem_leftMatches_of_mem_rightMatches (hp : p ∈ all) (hwithin : p.proposal.isWithin width)
    (h : q ∈ s.rightMatches all width p.proposal) : p ∈ s.leftMatches all width q.proposal := by
  obtain ⟨-, -, hmatch, hlt, hgap⟩ := h
  exact ⟨hp, hwithin, by rwa [s.matches_comm], hgap, hlt⟩

/-! ## The nearest matches on the left -/

lemma nonempty_nearestLeft {target : Proposal} (h : (s.leftMatches all width target).Nonempty) :
    (s.nearestLeft all width target).Nonempty := by
  have hfinite : (s.leftMatches all width target).Finite :=
    (List.finite_toSet all).subset fun _ hr => hr.1
  obtain ⟨r, hr, hnearest⟩ := Set.exists_max_image _ (fun r => r.proposal.column) hfinite h
  exact ⟨r, hr, hnearest⟩

/-- Between a proposal and a match on its right there are nearest matches of that one, and all of
them are there. -/
lemma nearestLeft_of_mem_rightMatches (hp : p ∈ all) (hwithin : p.proposal.isWithin width)
    (h : q ∈ s.rightMatches all width p.proposal) :
    (s.nearestLeft all width q.proposal).Nonempty ∧
      ∀ r ∈ s.nearestLeft all width q.proposal,
        p.proposal.column ≤ r.proposal.column ∧ r.proposal.column < q.proposal.column := by
  have hleft := mem_leftMatches_of_mem_rightMatches hp hwithin h
  refine ⟨nonempty_nearestLeft ⟨p, hleft⟩, ?_⟩
  rintro r ⟨⟨-, -, -, -, hlt⟩, hnearest⟩
  exact ⟨hnearest p hleft, hlt⟩

/-! ## Proposals on the picture -/

/-- The left edge of a proposal lies on a picture of a given width. -/
structure Proposal.BeginsOn (p : Proposal) (width : ℕ) : Prop where
  /-- The left edge is a number. -/
  isFinite : p.corners.left.isFinite
  /-- It does not lie to the left of the picture. -/
  nonneg : 0 ≤ Float32.value p.corners.left
  /-- It does not lie to the right of the picture. -/
  lt_width : Float32.value p.corners.left < width

lemma Proposal.BeginsOn.isWithin {p : Proposal} (h : p.BeginsOn width) : p.isWithin width := by
  have hpos : 0 < width := by exact_mod_cast h.nonneg.trans_lt h.lt_width
  have hlast : Float32.value p.corners.left < (width - 1 : ℕ) + 1 := by
    rw [← Nat.cast_add_one, Nat.sub_add_cancel hpos]
    exact h.lt_width
  have hcolumn : p.column ≤ width - 1 := Float32.countOf_le h.isFinite h.nonneg hlast
  simp only [Proposal.isWithin, Bool.and_eq_true, decide_eq_true_eq]
  exact ⟨Float32.nonneg_of_value_nonneg h.isFinite h.nonneg, by omega⟩

/-- The predecessors of a successor begin between the proposal and that one, and there are some. -/
lemma predecessors_of_mem (hwidth : width ≤ 0x8000000000000000) (hp : p ∈ all)
    (hwithin : p.proposal.isWithin width)
    (h : q ∈ s.successors (Columns.ofProposals all width) p.proposal) :
    s.predecessors (Columns.ofProposals all width) q.proposal ≠ [] ∧
      ∀ r ∈ s.predecessors (Columns.ofProposals all width) q.proposal,
        p.proposal.column ≤ r.proposal.column ∧ r.proposal.column < q.proposal.column := by
  have hright := (mem_successors.1 h).1
  have hcolumn : q.proposal.column < 0x8000000000000000 :=
    (column_lt_of_isWithin hright.2.1).trans_le hwidth
  obtain ⟨⟨r, hr⟩, hbetween⟩ := nearestLeft_of_mem_rightMatches hp hwithin hright
  exact ⟨List.ne_nil_of_mem ((mem_predecessors hcolumn).2 hr),
    fun r hr => hbetween r ((mem_predecessors hcolumn).1 hr)⟩

/-- **The search for rivals is never in vain.**  Where all proposals begin on the picture, every
successor of a proposal has predecessors; all of them begin to the left of it, and none of them
further to the left than the proposal.  So a proposal is followed by the best of its successors,
unless one of the predecessors of that one is better: that there might be none is left out. -/
theorem predecessors_of_mem_successors (s : Settings) (proposals : List Proposal) (width : UInt32)
    (hpicture : ∀ p ∈ proposals, p.BeginsOn width.toNat) (p : Numbered)
    (hp : p ∈ number proposals) :
    let columns := Columns.ofProposals (number proposals) width.toNat
    (∀ next ∈ s.successors columns p.proposal,
      s.predecessors columns next.proposal ≠ [] ∧
        ∀ r ∈ s.predecessors columns next.proposal,
          p.proposal.column ≤ r.proposal.column ∧ r.proposal.column < next.proposal.column) ∧
      s.follower? columns p.proposal = (best? (s.successors columns p.proposal)).filter
        fun next => greatestScore (s.predecessors columns next.proposal) ≤ p.proposal.score := by
  intro columns
  have hwithin := (hpicture _ (List.mem_of_getElem? (mem_number.1 hp))).isWithin
  have hwidth : width.toNat ≤ 0x8000000000000000 := by
    have := width.toNat_lt
    omega
  refine ⟨fun next hnext => predecessors_of_mem hwidth hp hwithin hnext,
    Option.ext fun next => ?_⟩
  rw [follower?_eq_some_iff, Option.filter_eq_some_iff, decide_eq_true_eq]
  refine and_congr_right fun hbest => and_iff_right ?_
  have hrivals := predecessors_of_mem hwidth hp hwithin (mem_of_best?_eq_some hbest)
  exact List.isEmpty_eq_false_iff.2 hrivals.1

/-- The second of three proposals stands in the way of the first: it is the predecessor of the
last, which both of them would be followed by. -/
theorem predecessors_of_mem_successors_threeProposals :
    let s := Settings.ofSettings .empty
    let columns := Columns.ofProposals (number threeProposals) 100
    (∀ p ∈ threeProposals, p.BeginsOn 100) ∧
      (number threeProposals).map (fun p => (s.successors columns p.proposal).map (·.index)) =
        [[2], [2], []] ∧
      (∀ p ∈ number threeProposals, ∀ next ∈ s.successors columns p.proposal,
        s.predecessors columns next.proposal ≠ []) ∧
      (number threeProposals).map (fun p => (s.follower? columns p.proposal).map (·.index)) =
        [none, some 2, none] := by
  have hpicture : ∀ p ∈ threeProposals, p.BeginsOn 100 := by
    have hwhole : ∀ p ∈ threeProposals, ∃ n ∈ List.range 17, p.corners.left = Float32.ofNat n := by
      decide
    intro p hp
    obtain ⟨n, hmem, hleft⟩ := hwhole p hp
    have hn : n < 17 := List.mem_range.1 hmem
    obtain ⟨hfinite, hvalue⟩ := Float32.value_ofNat (show n < 0x800000 by omega)
    rw [← hleft] at hfinite hvalue
    refine ⟨hfinite, ?_, ?_⟩ <;> rw [hvalue]
    · exact n.cast_nonneg
    · exact_mod_cast hn.trans (by decide)
  refine ⟨hpicture, by decide, fun p hp next hnext => ?_, by decide⟩
  exact ((predecessors_of_mem_successors (.ofSettings .empty) threeProposals 100 hpicture p
    hp).1 next hnext).1

end Ctpn
end Detection
