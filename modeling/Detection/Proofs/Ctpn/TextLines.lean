/-
# Level lines of text

A line of text that is not slanted is a rectangle within the model's input, whatever graph it
comes from.  Its left and right edges are those of its proposals, and they are in order as those
are.  Its upper and lower edges are read off two lines that are fitted independently, and read
beyond the abscissae that they were fitted to, so they may have crossed there.  Unless they are
both on one side of the input, the rectangle is upside down then.

## Main definitions

* `Extent.modelArea`: the area between the first and the last pixel of the model's input.
* `Ctpn.levelRectangle?`: the rectangle of a line before it is kept within the model's input.
* `Ctpn.CrossesInView`: its lower edge is above its upper edge, where the model sees it.

The main result is `Ctpn.isWithin_textLines`.
-/
import Detection.Ctpn.Decoder
import Detection.Proofs.Ctpn.Linking
import Detection.Proofs.Picture.Landing

namespace Detection

/-! ## Keeping numbers within bounds -/

namespace Float32

variable {a b bound : Float32}

/-- A missing number is replaced by the bound. -/
lemma grade_least32_bound (hbound : bound.isNaN = false) (a : Float32) :
    (least32 a bound).isNaN = false ∧
      grade (least32 a bound) = if a.isNaN then grade bound else min (grade a) (grade bound) := by
  unfold least32
  split
  · exact ⟨hbound, rfl⟩
  · rename_i ha
    rw [Bool.not_eq_true] at ha
    split
    · rename_i hlt
      exact ⟨hbound, (min_eq_right (lt_iff_grade.1 hlt).2.2.le).symm⟩
    · rename_i hle
      rw [Float32.not_lt hbound ha, le_iff_grade] at hle
      exact ⟨ha, (min_eq_left hle.2.2).symm⟩

lemma grade_clampBelow (hbound : 0.0 ≤ bound) (a : Float32) :
    (Scalar.clampBelow a bound).isNaN = false ∧
      grade (Scalar.clampBelow a bound) =
        max (if a.isNaN then grade bound else min (grade a) (grade bound)) 0 := by
  obtain ⟨-, hgrade⟩ := grade_least32_bound (zero_le_iff_grade.1 hbound).1 a
  obtain ⟨hthere, hmax⟩ := grade_greatest32_zero (least32 a bound)
  rw [hgrade] at hmax
  exact ⟨hthere, hmax⟩

lemma clampBelow_mem (hbound : 0.0 ≤ bound) (a : Float32) :
    0.0 ≤ Scalar.clampBelow a bound ∧ Scalar.clampBelow a bound ≤ bound := by
  obtain ⟨hthere, hgrade⟩ := grade_clampBelow hbound a
  obtain ⟨hbound', hnonneg⟩ := zero_le_iff_grade.1 hbound
  rw [zero_le_iff_grade, le_iff_grade, hgrade]
  refine ⟨⟨hthere, le_max_right _ _⟩, hthere, hbound', max_le ?_ hnonneg⟩
  split
  · exact le_rfl
  · exact min_le_right _ _

/-- Two numbers are in order after this if they were before, or if the lower one is below zero or
the upper one not below the bound. -/
lemma clampBelow_le_clampBelow_iff (hbound : 0.0 ≤ bound) :
    Scalar.clampBelow a bound ≤ Scalar.clampBelow b bound ↔
      a ≤ b ∨ a ≤ 0.0 ∨ ¬ b < bound ∨ bound ≤ 0.0 := by
  have hzero : grade 0.0 = 0 := by decide
  have hzero' : (0.0 : Float32).isNaN = false := by decide
  obtain ⟨hbound', hnonneg⟩ := zero_le_iff_grade.1 hbound
  obtain ⟨ha, hgrade⟩ := grade_clampBelow hbound a
  obtain ⟨hb, hgrade'⟩ := grade_clampBelow hbound b
  simp only [le_iff_grade, lt_iff_grade, ha, hb, hgrade, hgrade', hzero, hzero', hbound', true_and]
  clear ha hb hgrade hgrade'
  cases a.isNaN <;> cases b.isNaN <;> simp <;> omega

lemma clampBelow_mono (hbound : 0.0 ≤ bound) (h : a ≤ b) :
    Scalar.clampBelow a bound ≤ Scalar.clampBelow b bound :=
  (clampBelow_le_clampBelow_iff hbound).2 (.inl h)

/-- The last of a number of pixels, counted from zero. -/
lemma ofNat_sub_one {n : ℕ} (hpos : 1 ≤ n) (h : n < 0x800000) :
    Float32.ofNat n - 1.0 = Float32.ofNat (n - 1) := by
  rcases hpos.eq_or_lt with rfl | hlt
  · decide
  · obtain ⟨hfinite, hvalue⟩ := value_ofNat h
    obtain ⟨hthere, hgrade⟩ := grade_sub (b := 1.0) hfinite rfl
    obtain ⟨hthere', hgrade'⟩ := grade_ofNat (n - 1)
    have hsame : grade (Float32.ofNat n - 1.0) = grade (Float32.ofNat (n - 1)) := by
      rw [hgrade, hgrade', hvalue, value_one, Nat.cast_sub hpos, Nat.cast_one]
    -- Both are above zero, so the grade tells the number.
    have habove : 0 < grade (Float32.ofNat (n - 1)) := by
      have hone : grade 1.0 ≤ grade (Float32.ofNat (n - 1)) :=
        (le_iff_grade.1 (one_le_ofNat (by omega))).2.2
      exact (by decide : 0 < grade 1.0).trans_le hone
    have hrank := rank_eq_grade_or hthere
    have hrank' := rank_eq_grade_or hthere'
    exact rank_inj.1 (by omega)

end Float32

/-! ## Rectangles in the model's input -/

/-- The area between the first and the last pixel of the model's input. -/
def Extent.modelArea (extent : Extent) : CropArea :=
  ⟨0, 0, extent.modelWidth - 1, extent.modelHeight - 1⟩

namespace Ctpn

variable {s : Settings} {extent : Extent} {proposals : List Proposal} {graph : Graph}

/-- The lower edge of a rectangle is above its upper edge, and of what is between them some is in
the model's input. -/
def CrossesInView (extent : Extent) (c : Corners Float32) : Prop :=
  ¬ c.top ≤ c.bottom ∧ ¬ c.top ≤ 0.0 ∧ c.bottom < Float32.ofNat (extent.modelHeight - 1) ∧
    1 < extent.modelHeight

/-- The rectangle of a line of text that is not slanted, before it is kept within the model's
input. -/
def levelRectangle? : List Proposal → Option (Corners Float32)
  | [] => none
  | first :: rest =>
    let corners := (first :: rest).map (·.corners)
    some (levelCorners corners first.corners ((corners.map (·.left)).foldl least32 infinity32)
      ((corners.map (·.right)).foldl greatest32 (-infinity32)))

lemma lineOf?_of_isSlanted_eq_false (h : s.isSlanted = false) :
    s.lineOf? extent proposals = (levelRectangle? proposals).map fun c =>
      ⟨(clampToModel extent c).toQuad, meanScore proposals⟩ := by
  unfold Settings.lineOf? levelRectangle?
  cases proposals with
  | nil => rfl
  | cons first rest => simp [h]

/-! ## Left and right edges -/

lemma isNaN_foldl {op : Float32 → Float32 → Float32} {numbers : List Float32} {start : Float32}
    (hop : ∀ a b, a.isNaN = false → b.isNaN = false → (op a b).isNaN = false)
    (hstart : start.isNaN = false) (h : ∀ number ∈ numbers, number.isNaN = false) :
    (numbers.foldl op start).isNaN = false := by
  induction numbers generalizing start with
  | nil => exact hstart
  | cons number rest ih =>
    obtain ⟨hnumber, hrest⟩ := List.forall_mem_cons.1 h
    exact ih (hop start number hstart hnumber) hrest

lemma foldl_least32_le {numbers : List Float32} {number : Float32}
    (h : ∀ number ∈ numbers, number.isNaN = false) (hmem : number ∈ numbers) :
    numbers.foldl least32 infinity32 ≤ number := by
  have hthere : (numbers.foldl least32 infinity32).isNaN = false :=
    isNaN_foldl (fun _ _ => isNaN_least32) rfl h
  exact ((le_foldl_least32_iff rfl h).1 (Float32.le_refl hthere)).2 number hmem

lemma le_foldl_greatest32 {numbers : List Float32} {number : Float32}
    (h : ∀ number ∈ numbers, number.isNaN = false) (hmem : number ∈ numbers) :
    number ≤ numbers.foldl greatest32 (-infinity32) := by
  have hthere : (numbers.foldl greatest32 (-infinity32)).isNaN = false :=
    isNaN_foldl (fun _ _ => isNaN_greatest32) rfl h
  exact ((foldl_greatest32_le_iff rfl h).1 (Float32.le_refl hthere)).2 number hmem

/-- The least left edge of proposals is not behind the greatest right one. -/
lemma left_le_right_of_levelRectangle?_eq_some {c : Corners Float32}
    (hordered : ∀ p ∈ proposals, p.corners.left ≤ p.corners.right)
    (h : levelRectangle? proposals = some c) : c.left ≤ c.right := by
  rcases proposals with _ | ⟨first, rest⟩
  · cases h
  obtain rfl := Option.some.inj h
  have hleft : ∀ left ∈ ((first :: rest).map (·.corners)).map (·.left), left.isNaN = false := by
    simp only [List.map_map, List.forall_mem_map]
    exact fun p hp => (Float32.le_iff.1 (hordered p hp)).1
  have hright : ∀ right ∈ ((first :: rest).map (·.corners)).map (·.right),
      right.isNaN = false := by
    simp only [List.map_map, List.forall_mem_map]
    exact fun p hp => (Float32.le_iff.1 (hordered p hp)).2.1
  exact Float32.le_trans (foldl_least32_le hleft List.mem_cons_self)
    (Float32.le_trans (hordered first List.mem_cons_self)
      (le_foldl_greatest32 hright List.mem_cons_self))

/-! ## Lines of text -/

/-- What is kept within the model's input is there, and its upper edge is below its lower one
only if the edges crossed in view. -/
lemma isWithin_clampToModel {c : Corners Float32} (h : c.left ≤ c.right)
    (hwidth : 1 ≤ extent.modelWidth) (hwidth' : extent.modelWidth ≤ 8192)
    (hheight : 1 ≤ extent.modelHeight) (hheight' : extent.modelHeight ≤ 8192) :
    (clampToModel extent c).IsWithin extent.modelArea ∧
      (clampToModel extent c).left ≤ (clampToModel extent c).right ∧
      ((clampToModel extent c).top ≤ (clampToModel extent c).bottom ↔
        ¬ CrossesInView extent c) := by
  have hx := Float32.ofNat_nonneg (extent.modelWidth - 1)
  have hy := Float32.ofNat_nonneg (extent.modelHeight - 1)
  have hzero : Float32.ofNat 0 = 0.0 := by decide
  unfold clampToModel CrossesInView
  rw [Float32.ofNat_sub_one hwidth (by omega), Float32.ofNat_sub_one hheight (by omega)]
  refine ⟨⟨?_, ?_, ?_, ?_⟩, Float32.clampBelow_mono hx h, ?_⟩
  · exact hzero ▸ Float32.clampBelow_mem hx _
  · exact hzero ▸ Float32.clampBelow_mem hy _
  · exact hzero ▸ Float32.clampBelow_mem hx _
  · exact hzero ▸ Float32.clampBelow_mem hy _
  have hone : Float32.ofNat (extent.modelHeight - 1) ≤ 0.0 ↔ ¬ 1 < extent.modelHeight := by
    constructor
    · intro hle hlt
      have hpos := Float32.one_le_ofNat (n := extent.modelHeight - 1) (by omega)
      exact absurd (Float32.le_trans hpos hle) (by decide)
    · intro hle
      obtain hzero : extent.modelHeight - 1 = 0 := by omega
      rw [hzero]
      decide
  rw [Float32.clampBelow_le_clampBelow_iff hy, hone]
  simp only [not_and_or, not_not]

/-- **Level lines of text are rectangles in the model's input.**  Every line that is found in a
graph of proposals, if lines may not be slanted, comes from a connected part of it.  It is the
rectangle of this part, kept within the model's input: its vertices go round it from the upper left
one, its left edge is not behind its right one, and it lies in the input.  Its upper edge is not
below its lower one if and only if the two edges, as they were read off the fitted lines, did not
cross in view. -/
theorem isWithin_textLines (hlevel : s.isSlanted = false)
    (hwidth : 1 ≤ extent.modelWidth) (hwidth' : extent.modelWidth ≤ 8192)
    (hheight : 1 ≤ extent.modelHeight) (hheight' : extent.modelHeight ≤ 8192)
    (hordered : ∀ p ∈ proposals, p.corners.left ≤ p.corners.right) :
    ∀ line ∈ s.textLines proposals graph extent, ∃ component ∈ graph.components, ∃ fitted,
      levelRectangle? (component.filterMap (proposals[·]?)) = some fitted ∧
        line.quad = (clampToModel extent fitted).toQuad ∧
        (clampToModel extent fitted).IsWithin extent.modelArea ∧
        (clampToModel extent fitted).left ≤ (clampToModel extent fitted).right ∧
        ((clampToModel extent fitted).top ≤ (clampToModel extent fitted).bottom ↔
          ¬ CrossesInView extent fitted) := by
  intro line hline
  obtain ⟨component, hcomponent, hfound⟩ := List.mem_filterMap.1 hline
  have hmembers : component.filterMap (fun index => proposals.toArray[index]?) =
      component.filterMap (proposals[·]?) := by
    simp
  obtain ⟨hline', -⟩ := Option.filter_eq_some_iff.1 hfound
  rw [hmembers, lineOf?_of_isSlanted_eq_false hlevel, Option.map_eq_some_iff] at hline'
  obtain ⟨fitted, hfitted, rfl⟩ := hline'
  have hordered' : ∀ p ∈ component.filterMap (proposals[·]?),
      p.corners.left ≤ p.corners.right := by
    intro p hp
    obtain ⟨index, -, hindex⟩ := List.mem_filterMap.1 hp
    exact hordered p (List.mem_of_getElem? hindex)
  have hsides := left_le_right_of_levelRectangle?_eq_some hordered' hfitted
  exact ⟨component, hcomponent, fitted, hfitted, rfl,
    isWithin_clampToModel hsides hwidth hwidth' hheight hheight'⟩

/-- Three proposals in a row. -/
def levelProposals : List Proposal :=
  [⟨⟨0.0, 0.0, 16.0, 16.0⟩, 0.9375⟩, ⟨⟨16.0, 0.0, 32.0, 16.0⟩, 0.9375⟩,
    ⟨⟨32.0, 0.0, 48.0, 16.0⟩, 0.9375⟩]

theorem isWithin_textLines_levelProposals :
    let s := Settings.ofSettings ⟨[]⟩
    let extent : Extent := ⟨64, 32, 64, 32⟩
    s.isSlanted = false ∧ (∀ p ∈ levelProposals, p.corners.left ≤ p.corners.right) ∧
      s.textLines levelProposals (s.graph levelProposals 64) extent =
        [⟨(⟨0.0, 0.0, 48.0, 16.0⟩ : Corners Float32).toQuad, 0.9375⟩] ∧
      ∀ line ∈ s.textLines levelProposals (s.graph levelProposals 64) extent,
        ∃ component ∈ (s.graph levelProposals 64).components, ∃ fitted,
          levelRectangle? (component.filterMap (levelProposals[·]?)) = some fitted ∧
            line.quad = (clampToModel extent fitted).toQuad ∧
            (clampToModel extent fitted).IsWithin extent.modelArea ∧
            (clampToModel extent fitted).left ≤ (clampToModel extent fitted).right ∧
            ((clampToModel extent fitted).top ≤ (clampToModel extent fitted).bottom ↔
              ¬ CrossesInView extent fitted) := by
  have hlevel : (Settings.ofSettings ⟨[]⟩).isSlanted = false := rfl
  have hordered : ∀ p ∈ levelProposals, p.corners.left ≤ p.corners.right := by decide
  exact ⟨hlevel, hordered, by decide +kernel,
    isWithin_textLines hlevel (by decide) (by decide) (by decide) (by decide) hordered⟩

/-- Two long proposals that start next to each other, the second one being lower. -/
def taperingProposals : List Proposal :=
  [⟨⟨0.0, 0.0, 512.0, 16.0⟩, 0.9375⟩, ⟨⟨16.0, 4.0, 512.0, 16.0⟩, 0.9375⟩]

/-- The edges fitted to them meet 64 pixels from the left, but they are read 256 pixels from it. -/
theorem not_top_le_bottom_taperingProposals :
    ¬ ∀ (s : Settings) (proposals : List Proposal) (extent : Extent), s.isSlanted = false →
      1 ≤ extent.modelWidth → extent.modelWidth ≤ 8192 →
      1 ≤ extent.modelHeight → extent.modelHeight ≤ 8192 →
      (∀ p ∈ proposals, p.corners.IsWithin extent.modelArea ∧ p.corners.IsOrdered ∧
        p.score.isFinite) →
      ∀ line ∈ s.textLines proposals (s.graph proposals extent.modelWidth) extent,
        ∃ c : Corners Float32, line.quad = c.toQuad ∧ c.IsWithin extent.modelArea ∧
          c.IsOrdered := by
  intro hall
  have hlines : (Settings.ofSettings ⟨[]⟩).textLines taperingProposals
      ((Settings.ofSettings ⟨[]⟩).graph taperingProposals 1024) ⟨1024, 128, 1024, 128⟩ =
      [⟨⟨0.0, 64.0, 512.0, 64.0, 512.0, 16.0, 0.0, 16.0⟩, 0.9375⟩] := by
    decide +kernel
  have hproposals : ∀ p ∈ taperingProposals,
      p.corners.IsWithin (Extent.modelArea ⟨1024, 128, 1024, 128⟩) ∧ p.corners.IsOrdered ∧
        p.score.isFinite := by
    intro p hp
    rcases List.mem_pair.1 hp with rfl | rfl <;>
      exact ⟨⟨by decide, by decide, by decide, by decide⟩, ⟨by decide, by decide⟩, rfl⟩
  obtain ⟨c, hquad, -, -, hle⟩ := hall (Settings.ofSettings ⟨[]⟩) taperingProposals
    ⟨1024, 128, 1024, 128⟩ rfl (by decide) (by decide) (by decide) (by decide)
    hproposals _ (hlines ▸ List.mem_singleton.2 rfl)
  have htop : (64.0 : Float32) = c.top := congrArg Quad.y0 hquad
  have hbottom : (16.0 : Float32) = c.bottom := congrArg Quad.y2 hquad
  rw [← htop, ← hbottom] at hle
  exact absurd hle (by decide)

end Ctpn

end Detection
