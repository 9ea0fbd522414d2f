/-
# Looking for proposals column by column

The columns of a picture are a table, and a search goes from one column to the next and stops
at the first that holds a match.  This file says what the searches find without the table: the
matches of a proposal that begin nearest to it, on its right or on its left, within the gap
that is allowed.

## Main definitions

* `Settings.rightMatches`, `Settings.leftMatches`: the matches on either side of a proposal.
* `Settings.nearestRight`, `Settings.nearestLeft`: those of them that begin nearest to it.

The main results are `mem_successors` and `mem_predecessors`.
-/
import Detection.Ctpn.Linking
import Detection.Proofs.Number.Order
import Mathlib.Data.Set.Defs

namespace Detection
namespace Ctpn

/-! ## Numbered proposals -/

lemma mem_number {proposals : List Proposal} {p : Numbered} :
    p ∈ number proposals ↔ proposals[p.index]? = some p.proposal := by
  simp only [number, List.mem_mapIdx, List.getElem?_eq_some_iff]
  constructor
  · rintro ⟨i, hi, rfl⟩
    exact ⟨hi, rfl⟩
  · rintro ⟨hi, hp⟩
    exact ⟨p.index, hi, by rw [hp]⟩

/-- Proposals are numbered in their order. -/
lemma pairwise_number (proposals : List Proposal) :
    (number proposals).Pairwise fun p q => p.index < q.index := by
  rw [List.pairwise_iff_getElem]
  intro i j hi hj hij
  simpa [number] using hij

lemma column_lt_of_isWithin {p : Proposal} {width : ℕ} (h : p.isWithin width) :
    p.column < width := by
  simp only [Proposal.isWithin, Bool.and_eq_true, decide_eq_true_eq] at h
  exact h.2

/-! ## The table of columns -/

namespace Columns

/-- What a column holds after a proposal was added. -/
lemma get_add {width : ℕ} {c : Columns} (hc : c.width = width) (p : Numbered) (column : ℕ) :
    (add width p c).get column =
      if p.proposal.isWithin width ∧ p.proposal.column = column then p :: c.get column
      else c.get column := by
  unfold add
  by_cases hp : p.proposal.isWithin width
  · have hlt : p.proposal.column < c.table.size := by
      simp only [Proposal.isWithin, Bool.and_eq_true, decide_eq_true_eq] at hp
      exact lt_of_lt_of_eq hp.2 hc.symm
    simp only [hp, if_true, true_and, get, Array.getD_eq_getD_getElem?, Array.getElem?_modify]
    split
    · rename_i h
      subst h
      simp [hlt]
    · rfl
  · simp [hp]

lemma width_add {width : ℕ} (p : Numbered) (c : Columns) : (add width p c).width = c.width := by
  unfold add
  split
  · exact Array.size_modify
  · rfl

@[simp] lemma width_ofProposals (all : List Numbered) (width : ℕ) :
    (ofProposals all width).width = width := by
  induction all with
  | nil => exact Array.size_replicate
  | cons p rest ih => exact (width_add p _).trans ih

/-- A column holds the proposals within the width that begin in it, in their order. -/
lemma get_ofProposals (all : List Numbered) (width column : ℕ) :
    (ofProposals all width).get column =
      all.filter fun p => p.proposal.isWithin width && p.proposal.column == column := by
  induction all with
  | nil =>
    simp only [ofProposals, List.foldr_nil, get, Array.getD_eq_getD_getElem?,
      Array.getElem?_replicate, List.filter_nil]
    split <;> rfl
  | cons p rest ih =>
    have hadd : (ofProposals (p :: rest) width).get column =
        (add width p (ofProposals rest width)).get column := rfl
    rw [hadd, get_add (width_ofProposals rest width), ih, List.filter_cons]
    simp only [Bool.and_eq_true, beq_iff_eq]

end Columns

/-! ## Stopping at the first column with a match -/

/-- What is true of all lists, and of the empty one, is true of the first that is not empty. -/
lemma firstNonempty_induction {α : Type} {P : List α → Prop} {lists : List (List α)}
    (hnil : P []) (h : ∀ list ∈ lists, P list) : P (firstNonempty lists) := by
  induction lists with
  | nil => exact hnil
  | cons list rest ih =>
    unfold firstNonempty
    split
    · exact ih fun other hother => h other (List.mem_cons_of_mem list hother)
    · exact h list List.mem_cons_self

/-- The first list that is not empty is that of the first column for which there is one. -/
lemma mem_firstNonempty_map {α : Type} {f : ℕ → List α} {columns : List ℕ} {R : ℕ → ℕ → Prop}
    (hasymm : ∀ c d, R c d → ¬ R d c) (hcolumns : columns.Pairwise R) {a : α} :
    a ∈ firstNonempty (columns.map f) ↔
      ∃ c ∈ columns, a ∈ f c ∧ ∀ d ∈ columns, R d c → f d = [] := by
  induction columns with
  | nil => simp [firstNonempty]
  | cons c rest ih =>
    obtain ⟨hc, hrest⟩ := List.pairwise_cons.1 hcolumns
    rw [List.map_cons, firstNonempty]
    split
    · rename_i hempty
      rw [List.isEmpty_iff] at hempty
      rw [ih hrest]
      constructor
      · rintro ⟨d, hd, ha, hfirst⟩
        refine ⟨d, List.mem_cons_of_mem c hd, ha, fun e he hed => ?_⟩
        rcases List.mem_cons.1 he with rfl | he
        · exact hempty
        · exact hfirst e he hed
      · rintro ⟨d, hd, ha, hfirst⟩
        rcases List.mem_cons.1 hd with rfl | hd
        · exact absurd ha (by simp [hempty])
        · exact ⟨d, hd, ha, fun e he => hfirst e (List.mem_cons_of_mem c he)⟩
    · rename_i hnonempty
      rw [List.isEmpty_iff] at hnonempty
      constructor
      · intro ha
        refine ⟨c, List.mem_cons_self, ha, fun d hd hdc => ?_⟩
        rcases List.mem_cons.1 hd with rfl | hd
        · exact absurd hdc (hasymm d d hdc)
        · exact absurd hdc (hasymm c d (hc d hd))
      · rintro ⟨d, hd, ha, hfirst⟩
        rcases List.mem_cons.1 hd with rfl | hd
        · exact ha
        · exact absurd (hfirst c List.mem_cons_self (hc d hd)) hnonempty

/-! ## What the searches find -/

variable (s : Settings) (all : List Numbered) (width : ℕ)

/-- The proposals within the width that match a proposal and begin on its right, behind it by
no more than the gap that is allowed. -/
def Settings.rightMatches (p : Proposal) : Set Numbered :=
  {q | q ∈ all ∧ q.proposal.isWithin width ∧ s.matches q.proposal p ∧
    p.column < q.proposal.column ∧ q.proposal.column ≤ p.column + s.maxGap}

/-- The proposals within the width that match a proposal and begin on its left, before it by
no more than the gap that is allowed. -/
def Settings.leftMatches (p : Proposal) : Set Numbered :=
  {q | q ∈ all ∧ q.proposal.isWithin width ∧ s.matches q.proposal p ∧
    p.column ≤ q.proposal.column + s.maxGap ∧ q.proposal.column < p.column}

/-- The matches on the right of a proposal in the nearest column that holds one. -/
def Settings.nearestRight (p : Proposal) : Set Numbered :=
  {q | q ∈ s.rightMatches all width p ∧
    ∀ r ∈ s.rightMatches all width p, q.proposal.column ≤ r.proposal.column}

/-- The matches on the left of a proposal in the nearest column that holds one. -/
def Settings.nearestLeft (p : Proposal) : Set Numbered :=
  {q | q ∈ s.leftMatches all width p ∧
    ∀ r ∈ s.leftMatches all width p, r.proposal.column ≤ q.proposal.column}

/-- The matches of a proposal in a column. -/
def Settings.matchesIn (p : Proposal) (column : ℕ) : List Numbered :=
  ((Columns.ofProposals all width).get column).filter fun q => s.matches q.proposal p

variable {s all width}

lemma mem_matchesIn {p : Proposal} {column : ℕ} {q : Numbered} :
    q ∈ s.matchesIn all width p column ↔ q ∈ all ∧ q.proposal.isWithin width ∧
      q.proposal.column = column ∧ s.matches q.proposal p := by
  simp only [Settings.matchesIn, Columns.get_ofProposals, List.mem_filter, Bool.and_eq_true,
    beq_iff_eq, and_assoc]

lemma matchesIn_eq_nil {p : Proposal} {column : ℕ} :
    s.matchesIn all width p column = [] ↔ ∀ q ∈ all, q.proposal.isWithin width →
      q.proposal.column = column → ¬ s.matches q.proposal p := by
  simp only [List.eq_nil_iff_forall_not_mem, mem_matchesIn, not_and]

/-- The matches of a proposal in some of the columns. -/
def Settings.matchesAmong (s : Settings) (all : List Numbered) (width : ℕ) (p : Proposal)
    (columns : List ℕ) : Set Numbered :=
  {q | q ∈ all ∧ q.proposal.isWithin width ∧ s.matches q.proposal p ∧
    q.proposal.column ∈ columns}

/-- Going from column to column finds those matches before which there is none on the way. -/
lemma mem_firstNonempty_matchesIn {p : Proposal} {columns : List ℕ} {R : ℕ → ℕ → Prop}
    (hasymm : ∀ c d, R c d → ¬ R d c) (hcolumns : columns.Pairwise R) {q : Numbered} :
    q ∈ firstNonempty (columns.map (s.matchesIn all width p)) ↔
      q ∈ s.matchesAmong all width p columns ∧
        ∀ r ∈ s.matchesAmong all width p columns, ¬ R r.proposal.column q.proposal.column := by
  rw [mem_firstNonempty_map hasymm hcolumns]
  constructor
  · rintro ⟨column, hcolumn, hq, hfirst⟩
    obtain ⟨hall, hwithin, rfl, hmatch⟩ := mem_matchesIn.1 hq
    refine ⟨⟨hall, hwithin, hmatch, hcolumn⟩, ?_⟩
    rintro r ⟨hr, hrwithin, hrmatch, hrcolumn⟩ hbefore
    exact matchesIn_eq_nil.1 (hfirst _ hrcolumn hbefore) r hr hrwithin rfl hrmatch
  · rintro ⟨⟨hall, hwithin, hmatch, hcolumn⟩, hfirst⟩
    refine ⟨_, hcolumn, mem_matchesIn.2 ⟨hall, hwithin, rfl, hmatch⟩, ?_⟩
    intro column hbetween hbefore
    refine matchesIn_eq_nil.2 fun r hr hrwithin hrcolumn hrmatch => ?_
    subst hrcolumn
    exact hfirst r ⟨hr, hrwithin, hrmatch, hbetween⟩ hbefore

/-- The search to the right finds the matches on that side in the nearest column that holds
one. -/
theorem mem_successors {p : Proposal} {q : Numbered} :
    q ∈ s.successors (Columns.ofProposals all width) p ↔ q ∈ s.nearestRight all width p := by
  have hsearch : s.successors (Columns.ofProposals all width) p =
      firstNonempty ((List.range' (p.column + 1)
        (min (p.column + s.maxGap + 1) width - (p.column + 1))).map
          (s.matchesIn all width p)) := by
    unfold Settings.successors
    rw [Columns.width_ofProposals]
    rfl
  have hmatches : s.matchesAmong all width p (List.range' (p.column + 1)
      (min (p.column + s.maxGap + 1) width - (p.column + 1))) = s.rightMatches all width p := by
    -- The width needs no mention on the left: what begins within it is all there is to find.
    ext r
    refine and_congr_right fun _ => and_congr_right fun hwithin => and_congr_right fun _ => ?_
    have hlt := column_lt_of_isWithin hwithin
    rw [List.mem_range'_1]
    omega
  rw [hsearch, mem_firstNonempty_matchesIn (fun _ _ => Nat.lt_asymm) List.pairwise_lt_range',
    hmatches]
  simp only [Nat.not_lt]
  rfl

/-- The search to the left finds the matches on that side in the nearest column that holds
one, if the column it starts from has not been cut to 64 bits. -/
theorem mem_predecessors {p : Proposal} {q : Numbered} (hp : p.column < 0x8000000000000000) :
    q ∈ s.predecessors (Columns.ofProposals all width) p ↔ q ∈ s.nearestLeft all width p := by
  have hsearch : s.predecessors (Columns.ofProposals all width) p =
      firstNonempty ((List.range' (p.column - s.maxGap)
        (p.column - (p.column - s.maxGap))).reverse.map (s.matchesIn all width p)) := by
    unfold Settings.predecessors
    rw [toNat_wholePart32 hp]
    rfl
  have hdescending : (List.range' (p.column - s.maxGap)
      (p.column - (p.column - s.maxGap))).reverse.Pairwise (· > ·) :=
    List.pairwise_reverse.2 List.pairwise_lt_range'
  have hmatches : s.matchesAmong all width p (List.range' (p.column - s.maxGap)
      (p.column - (p.column - s.maxGap))).reverse = s.leftMatches all width p := by
    ext r
    refine and_congr_right fun _ => and_congr_right fun _ => and_congr_right fun _ => ?_
    rw [List.mem_reverse, List.mem_range'_1]
    omega
  rw [hsearch, mem_firstNonempty_matchesIn (fun _ _ => Nat.lt_asymm) hdescending, hmatches]
  simp only [Nat.not_lt]
  rfl

end Ctpn
end Detection
