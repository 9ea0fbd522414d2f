/-
# The levels of a pyramid

The grids of a frame form a pyramid: each has twice as many columns as the one before.  From the
number of columns the level is told by a logarithm, and from the level the slice of the anchors.
Where the columns are a power of two times those of the coarsest grid, the level is that power; and
the slices of all levels make up the list of anchors, the finest level first.

## Main definitions

* `level`: the level of a grid, as the logarithm tells it.
* `Settings.exactStart`, `Settings.exactTerms`: where a slice begins, computed without a limit.
* `Settings.levelAnchors`: the anchors of a level.

The main result is `layer_eq_of_level`.
-/
import Detection.Proofs.Number.Logarithm
import Detection.Proofs.Overflow
import Detection.Yolo.Layer

namespace Detection
namespace Yolo

/-! ## The level of a grid -/

/-- How many of its own columns a grid has for each column of the coarsest one. -/
def ratio (gridWidth modelWidth : ℕ) : Float32 :=
  Float32.ofNat gridWidth * Float32.ofNat coarsestCell / Float32.ofNat modelWidth

/-- The level of a grid: zero for the coarsest one. -/
def level [Elementary] (gridWidth modelWidth : ℕ) : ℤ :=
  wholePart32 (Elementary.log2 (ratio gridWidth modelWidth))

lemma halvings_eq [Elementary] (gridWidth modelWidth : ℕ) :
    halvings gridWidth modelWidth = level gridWidth modelWidth := rfl

/-- Nothing is rounded if the model is as many cells wide as the coarsest grid has columns. -/
lemma isMultiple_ratio {m l : ℕ} (hm : 0 < m) (hm' : m ≤ 256) (hl : l ≤ 63) :
    Float32.IsMultiple 1 l (ratio (m * 2 ^ l) (coarsestCell * m)) := by
  have hgrid : Float32.IsMultiple m l (Float32.ofNat (m * 2 ^ l)) :=
    Float32.isMultiple_ofNat hm (by omega) (by omega)
  have hcell : Float32.IsMultiple 1 (5 : ℕ) (Float32.ofNat coarsestCell) :=
    Float32.isMultiple_ofNat one_pos (by decide) (by decide)
  have hmodel : Float32.IsMultiple m (5 : ℕ) (Float32.ofNat (coarsestCell * m)) := by
    rw [Nat.mul_comm]
    exact Float32.isMultiple_ofNat hm (by omega) (by decide)
  have hratio := (hgrid.mul hcell hm (by omega) (by omega) (by omega)).div hmodel hm (by omega)
    (by omega)
  rwa [add_sub_cancel_right] at hratio

/-- A grid with columns has a positive ratio. -/
lemma isWithin_ratio {gridWidth modelWidth : ℕ} (hgrid : 0 < gridWidth)
    (hgrid' : gridWidth < UInt64.size) (hmodel : 0 < modelWidth)
    (hmodel' : modelWidth < UInt32.size) :
    Float32.IsWithin (0 + 0 - 32) (64 + 5 - 0) (ratio gridWidth modelWidth) := by
  have hwidth : Float32.IsWithin 0 64 (Float32.ofNat gridWidth) :=
    Float32.isWithin_ofNat hgrid hgrid'.le (by decide)
  have hcell : Float32.IsWithin 0 5 (Float32.ofNat coarsestCell) :=
    Float32.isWithin_ofNat (by decide) (by decide) (by decide)
  have hmodelWidth : Float32.IsWithin 0 32 (Float32.ofNat modelWidth) :=
    Float32.isWithin_ofNat hmodel hmodel'.le (by decide)
  exact (hwidth.mul hcell (by decide) (by decide)).div hmodelWidth (by decide) (by decide)

/-- A grid without columns has the ratio zero. -/
lemma ratio_zero {modelWidth : ℕ} (hmodel : 0 < modelWidth)
    (hmodel' : modelWidth < UInt32.size) : ratio 0 modelWidth = 0.0 := by
  have hwidth : Float32.IsWithin 0 32 (Float32.ofNat modelWidth) :=
    Float32.isWithin_ofNat hmodel hmodel'.le (by decide)
  have hzero : Float32.ofNat 0 * Float32.ofNat coarsestCell = 0.0 := by decide
  unfold ratio
  rw [hzero]
  rcases Float32.eq_zero_or_eq_positive hwidth.isFinite hwidth.pos.le with
    ⟨s, hnone⟩ | ⟨m, e, hm, hdigits⟩
  · have hpos := hwidth.pos
    rw [Float32.value, hnone, valueOf_zero] at hpos
    exact absurd hpos (lt_irrefl 0)
  · change Float32.ofModel (.pack (.div .binary32 (0.0 : Float32).toModel.unpack
      (Float32.ofNat modelWidth).toModel.unpack)) = 0.0
    rw [hdigits]
    rfl

section Level

variable [Elementary] (hlog : IsLogarithm Elementary.log2)

include hlog

/-- The level of a grid is the power of two by which its columns exceed those of the coarsest. -/
lemma level_eq {m l : ℕ} (hm : 0 < m) (hm' : m ≤ 256) (hl : l ≤ 63) :
    level (m * 2 ^ l) (coarsestCell * m) = l := by
  have hratio := isMultiple_ratio hm hm' hl
  have hvalue : Float32.value (ratio (m * 2 ^ l) (coarsestCell * m)) = 2 ^ (l : ℤ) := by
    rw [hratio.value_eq, Nat.cast_one, one_mul]
  obtain ⟨hlogFinite, hlogValue⟩ := hlog.power _ l hratio.isFinite hvalue
  have hmem := Float32.wholePart32_mem_Icc (j := l) (k := l) hlogFinite
    (by unfold minInt64; omega) (by unfold maxInt64; omega) hlogValue.ge hlogValue.le
  exact le_antisymm hmem.2 hmem.1

lemma level_mem {gridWidth modelWidth : ℕ} (hgrid : 0 < gridWidth)
    (hgrid' : gridWidth < UInt64.size) (hmodel : 0 < modelWidth)
    (hmodel' : modelWidth < UInt32.size) : level gridWidth modelWidth ∈ Set.Icc (-149) 128 := by
  have hratio := isWithin_ratio hgrid hgrid' hmodel hmodel'
  obtain ⟨hfinite, hlow, hhigh⟩ := hlog.bounded _ hratio.isFinite hratio.pos
  exact Float32.wholePart32_mem_Icc hfinite (by decide) (by decide) (by exact_mod_cast hlow)
    (by exact_mod_cast hhigh)

/-- The level of a grid without columns is the lowest number there is. -/
lemma level_zero {modelWidth : ℕ} (hmodel : 0 < modelWidth)
    (hmodel' : modelWidth < UInt32.size) : level 0 modelWidth = minInt64 := by
  unfold level
  rw [ratio_zero hmodel hmodel', hlog.zero]
  decide

end Level

/-! ## Slices without a limit -/

/-- An integer fits into 64 bits. -/
def FitsInt64 (n : ℤ) : Prop :=
  minInt64 ≤ n ∧ n ≤ maxInt64

namespace Settings

/-- Where the anchors of a level begin among all, computed without a limit. -/
def exactStart (s : Settings) (level : ℤ) : ℤ :=
  (s.layerCount - 1 - level) * s.sliceLength

/-- All that is computed of a level, without a limit. -/
def exactTerms (s : Settings) (level : ℤ) : List ℤ :=
  [level, s.layerCount - 1 - level, s.exactStart level, s.exactStart level + s.sliceLength]

/-- The layer of a grid whose anchors begin at a place. -/
def layerFrom (s : Settings) (shape : List ℕ) (start : ℤ) : Except Fault Layer :=
  if start < 0 ∨ (s.anchorSizes.length : ℤ) < start + s.sliceLength then
    .error (.yolo .anchorSlice)
  else
    .ok ⟨shape.getD s.layout.widthAxis 0, shape.getD s.layout.heightAxis 0,
      (s.anchorSizes.drop start.toNat).take s.sliceLength⟩

variable {s : Settings}

/-- Settings name few enough anchors, layers and sizes for 64 bits. -/
structure IsModerate (s : Settings) : Prop where
  anchors_le : s.anchorsPerCell ≤ 3
  layers_le : s.layerCount ≤ 0x1000000000000000
  sizes_fit : FitsInt64 s.anchorSizes.length

namespace IsModerate

variable (h : s.IsModerate)

include h

lemma asInt64_layerCount : asInt64 s.layerCount = s.layerCount := by
  have hlayers := h.layers_le
  exact asInt64_of_le (by unfold maxInt64; omega)

lemma asInt64_sliceLength : asInt64 s.sliceLength = s.sliceLength := by
  have hanchors := h.anchors_le
  exact asInt64_of_le (by unfold maxInt64 sliceLength; omega)

/-- All that is computed of a level fits into 64 bits, as long as the level is one that a grid with
columns can have. -/
lemma fitsInt64 {level : ℤ} (hlevel : level ∈ Set.Icc (-149) 128) :
    ∀ n ∈ s.exactTerms level, FitsInt64 n := by
  obtain ⟨hlow, hhigh⟩ := hlevel
  have hlayers := h.layers_le
  have hcases : s.anchorsPerCell = 0 ∨ s.anchorsPerCell = 1 ∨ s.anchorsPerCell = 2 ∨
      s.anchorsPerCell = 3 := by
    have := h.anchors_le
    omega
  intro n hn
  simp only [exactTerms, exactStart, sliceLength, List.mem_cons, List.not_mem_nil, or_false] at hn
  unfold FitsInt64 minInt64 maxInt64
  -- With the number of anchors a numeral, the products are linear.
  rcases hcases with h | h | h | h <;> rw [h] at hn <;> push_cast at hn <;> omega

/-- Where all fits into 64 bits, nothing is cut off. -/
lemma sliceStart_eq_ok [Build] {level : ℤ} (hfits : ∀ n ∈ s.exactTerms level, FitsInt64 n) :
    s.sliceStart level = .ok (s.exactStart level) := by
  have hlayers := h.layers_le
  have hslice := hfits (s.layerCount - 1 - level) (by simp [exactTerms])
  have hstart := hfits (s.exactStart level) (by simp [exactTerms])
  unfold sliceStart
  rw [h.asInt64_layerCount, h.asInt64_sliceLength,
    Build.int64_of_mem (by unfold minInt64; omega) (by unfold maxInt64; omega), ok_bind,
    Build.int64_of_mem hslice.1 hslice.2, ok_bind]
  exact Build.int64_of_mem hstart.1 hstart.2

/-- All levels less the lowest number there is do not fit. -/
lemma sliceStart_minInt64_of_caught [Build] (hcaught : Build.overflow = .caught)
    (hsome : 1 ≤ s.layerCount) : s.sliceStart minInt64 = .error .overflow := by
  have hlayers := h.layers_le
  have hcut : ((s.layerCount : ℤ) - 1 - minInt64).bmod UInt64.size ≠
      (s.layerCount : ℤ) - 1 - minInt64 := by
    have hlt := Int.bmod_lt (x := (s.layerCount : ℤ) - 1 - minInt64) (m := UInt64.size) (by decide)
    unfold minInt64 UInt64.size at *
    omega
  unfold sliceStart
  rw [h.asInt64_layerCount, h.asInt64_sliceLength,
    Build.int64_of_mem (by unfold minInt64; omega) (by unfold maxInt64; omega), ok_bind,
    Build.int64_of_caught hcaught hcut]
  rfl

/-- What is left of it is the coarsest level: a slice has an even number of sizes, so what is too
much is a multiple of what does not fit. -/
lemma sliceStart_minInt64_of_wrapped [Build] (hwrapped : Build.overflow = .wrapped) :
    s.sliceStart minInt64 = .ok (s.exactStart 0) := by
  have hlayers := h.layers_le
  have hlevel : (0 : ℤ) ∈ Set.Icc (-149) 128 := ⟨by decide, by decide⟩
  have hfits := h.fitsInt64 hlevel (s.exactStart 0) (by simp [exactTerms])
  have hexcess : ((s.layerCount : ℤ) - 1 - minInt64) * s.sliceLength =
      s.exactStart 0 + UInt64.size * (s.anchorsPerCell : ℤ) := by
    simp only [exactStart, sliceLength, minInt64, UInt64.size]
    push_cast
    ring
  have hleft : (s.exactStart 0).bmod UInt64.size = s.exactStart 0 := by
    unfold FitsInt64 minInt64 maxInt64 at hfits
    exact Int.bmod_eq_of_le (by simp [UInt64.size]; omega) (by simp [UInt64.size]; omega)
  unfold sliceStart
  rw [h.asInt64_layerCount, h.asInt64_sliceLength,
    Build.int64_of_mem (by unfold minInt64; omega) (by unfold maxInt64; omega), ok_bind,
    Build.int64_of_wrapped hwrapped, ok_bind, Build.int64_of_wrapped hwrapped, Int.bmod_mul_bmod,
    hexcess, Int.add_mul_bmod_self_left, hleft]

/-- Where the anchors of a layer begin and end fits, so that they are found without a limit. -/
lemma layer_eq_layerFrom [Elementary] [Build] {shape : List ℕ} {modelWidth : ℕ} {start : ℤ}
    (hstart : s.sliceStart (halvings (shape.getD s.layout.widthAxis 0) modelWidth) = .ok start)
    (hstop : FitsInt64 (start + s.sliceLength)) :
    s.layer shape modelWidth = s.layerFrom shape start := by
  have hlength : ¬ start + (s.sliceLength : ℤ) < start := by omega
  unfold layer layerFrom
  dsimp only
  rw [hstart, ok_bind, h.asInt64_sliceLength, Build.int64_of_mem hstop.1 hstop.2, ok_bind,
    asInt64_of_le h.sizes_fit.2, if_neg hlength]

end IsModerate

section Layer

variable [Elementary] [Build] (h : s.IsModerate) (hlog : IsLogarithm Elementary.log2)
  {shape : List ℕ} {modelWidth : ℕ} (hmodel : 0 < modelWidth) (hmodel' : modelWidth < UInt32.size)

include h hlog hmodel hmodel'

/-- The layer of a grid with columns is the one that is computed without a limit. -/
lemma layer_of_columns (hgrid : 0 < shape.getD s.layout.widthAxis 0)
    (hgrid' : shape.getD s.layout.widthAxis 0 < UInt64.size) :
    s.layer shape modelWidth =
      s.layerFrom shape (s.exactStart (level (shape.getD s.layout.widthAxis 0) modelWidth)) := by
  have hfits := h.fitsInt64 (level_mem hlog hgrid hgrid' hmodel hmodel')
  exact h.layer_eq_layerFrom (h.sliceStart_eq_ok hfits) (hfits _ (by simp [exactTerms]))

/-- A build that gives up at an overflow does so at a grid without columns. -/
lemma layer_of_no_columns_of_caught (hcaught : Build.overflow = .caught)
    (hsome : 1 ≤ s.layerCount) (hgrid : shape.getD s.layout.widthAxis 0 = 0) :
    s.layer shape modelWidth = .error .overflow := by
  unfold layer
  dsimp only
  rw [hgrid, halvings_eq, level_zero hlog hmodel hmodel',
    h.sliceStart_minInt64_of_caught hcaught hsome]
  rfl

/-- In a build that goes on, a grid without columns gets the anchors of the coarsest level. -/
lemma layer_of_no_columns_of_wrapped (hwrapped : Build.overflow = .wrapped)
    (hgrid : shape.getD s.layout.widthAxis 0 = 0) :
    s.layer shape modelWidth = s.layerFrom shape (s.exactStart 0) := by
  have hfits : ∀ n ∈ s.exactTerms 0, FitsInt64 n := h.fitsInt64 ⟨by decide, by decide⟩
  refine h.layer_eq_layerFrom ?_ (hfits _ (by simp [exactTerms]))
  rw [hgrid, halvings_eq, level_zero hlog hmodel hmodel', h.sliceStart_minInt64_of_wrapped hwrapped]

end Layer

/-! ## The slices of all levels -/

/-- Where the anchors of a level begin: the coarsest level has the last slice. -/
def levelStart (s : Settings) (level : ℕ) : ℕ :=
  s.sliceLength * (s.layerCount - 1 - level)

/-- The anchors of a level. -/
def levelAnchors (s : Settings) (level : ℕ) : List Float32 :=
  (s.anchorSizes.drop (s.levelStart level)).take s.sliceLength

/-- For a level that there is, no limit matters. -/
lemma exactStart_natCast {l : ℕ} (hl : l < s.layerCount) :
    s.exactStart l = (s.levelStart l : ℤ) := by
  have hlast : ((s.layerCount - 1 - l : ℕ) : ℤ) = s.layerCount - 1 - l := by omega
  rw [exactStart, levelStart, Nat.cast_mul, hlast, mul_comm]

/-- The places of the anchors of a level among all. -/
def levelPlaces (s : Settings) (level : ℕ) : Set ℕ :=
  Set.Ico (s.levelStart level) (s.levelStart level + s.sliceLength)

/-- There is a slice of anchors for each layer, and nothing else. -/
structure IsPyramid (s : Settings) : Prop where
  /-- A cell has one to three anchors. -/
  one_le_anchors : 1 ≤ s.anchorsPerCell
  anchors_le : s.anchorsPerCell ≤ 3
  /-- There is a layer. -/
  one_le_layers : 1 ≤ s.layerCount
  /-- Each anchor of each layer has a width and a height. -/
  length_eq : s.anchorSizes.length = 2 * s.layerCount * s.anchorsPerCell
  /-- The sizes take no more bytes than a list can have. -/
  bytes_le : ((4 * s.anchorSizes.length : ℕ) : ℤ) ≤ maxInt64

lemma mem_levelPlaces_iff {level place : ℕ} (hslice : 0 < s.sliceLength) :
    place ∈ s.levelPlaces level ↔ place / s.sliceLength = s.layerCount - 1 - level := by
  rw [Nat.div_eq_iff hslice, levelPlaces, levelStart, Set.mem_Ico, mul_comm]
  omega

lemma flatMap_slices {α : Type} (k n : ℕ) (list : List α) :
    ((List.range n).flatMap fun i => (list.drop (k * i)).take k) = list.take (k * n) := by
  induction n with
  | zero => simp
  | succ n ih =>
    rw [List.range_succ, List.flatMap_append, ih, List.flatMap_singleton, Nat.mul_succ,
      List.take_add]

namespace IsPyramid

variable (h : s.IsPyramid)

include h

lemma sliceLength_pos : 0 < s.sliceLength := by
  have := h.one_le_anchors
  unfold sliceLength
  omega

lemma length_eq_mul : s.anchorSizes.length = s.layerCount * s.sliceLength := by
  rw [h.length_eq, sliceLength]
  ring

/-- No place belongs to two levels. -/
lemma pairwiseDisjoint : (Set.Iio s.layerCount).PairwiseDisjoint s.levelPlaces := by
  intro level hlevel level' hlevel' hne
  rw [Set.mem_Iio] at hlevel hlevel'
  refine Set.disjoint_left.2 fun place hplace hplace' => hne ?_
  rw [mem_levelPlaces_iff h.sliceLength_pos] at hplace hplace'
  omega

/-- Every place belongs to a level. -/
lemma biUnion_levelPlaces :
    ⋃ level ∈ Set.Iio s.layerCount, s.levelPlaces level = Set.Iio s.anchorSizes.length := by
  have hlayers := h.one_le_layers
  ext place
  simp only [Set.mem_iUnion, mem_levelPlaces_iff h.sliceLength_pos, Set.mem_Iio, exists_prop,
    h.length_eq_mul, ← Nat.div_lt_iff_lt_mul h.sliceLength_pos]
  generalize place / s.sliceLength = slice
  constructor
  · rintro ⟨level, hlevel, rfl⟩
    omega
  · intro hslice
    exact ⟨s.layerCount - 1 - slice, by omega, by omega⟩

/-- The slices make up the list, the finest level first. -/
lemma flatMap_levelAnchors :
    (List.range s.layerCount).reverse.flatMap s.levelAnchors = s.anchorSizes := by
  have hreverse : (List.range s.layerCount).reverse =
      (List.range s.layerCount).map (s.layerCount - 1 - ·) := by
    refine List.ext_getElem (by simp) fun i hi hi' => ?_
    simp
  have hslices : ∀ i ∈ List.range s.layerCount, s.levelAnchors (s.layerCount - 1 - i) =
      (s.anchorSizes.drop (s.sliceLength * i)).take s.sliceLength := by
    intro i hi
    have hlt := List.mem_range.1 hi
    have hback : s.layerCount - 1 - (s.layerCount - 1 - i) = i := by omega
    rw [levelAnchors, levelStart, hback]
  rw [hreverse, List.flatMap_map, List.flatMap_congr hslices, flatMap_slices, mul_comm,
    ← h.length_eq_mul, List.take_length]

/-- The layer of a level that is computed without a limit: it has the anchors of the level, if
there is such a level. -/
lemma layerFrom_exactStart (shape : List ℕ) (level : ℤ) :
    s.layerFrom shape (s.exactStart level) =
      if 0 ≤ level ∧ level < s.layerCount then
        .ok ⟨shape.getD s.layout.widthAxis 0, shape.getD s.layout.heightAxis 0,
          s.levelAnchors level.toNat⟩
      else .error (.yolo .anchorSlice) := by
  have hslice : (0 : ℤ) < s.sliceLength := by exact_mod_cast h.sliceLength_pos
  have hlength : (s.anchorSizes.length : ℤ) = s.layerCount * s.sliceLength := by
    exact_mod_cast h.length_eq_mul
  have hstop : s.exactStart level + s.sliceLength = (s.layerCount - level) * s.sliceLength := by
    unfold exactStart
    ring
  have hnegative : s.exactStart level < 0 ↔ s.layerCount ≤ level := by
    rw [exactStart, mul_neg_iff]
    omega
  have hbeyond : (s.anchorSizes.length : ℤ) < s.exactStart level + s.sliceLength ↔ level < 0 := by
    rw [hstop, hlength, mul_lt_mul_iff_left₀ hslice]
    omega
  have hrefused : s.exactStart level < 0 ∨
      (s.anchorSizes.length : ℤ) < s.exactStart level + s.sliceLength ↔
        ¬ (0 ≤ level ∧ level < s.layerCount) := by
    rw [hnegative, hbeyond]
    omega
  unfold layerFrom
  by_cases hlevel : 0 ≤ level ∧ level < s.layerCount
  · obtain ⟨l, rfl⟩ := Int.eq_ofNat_of_zero_le hlevel.1
    rw [if_pos hlevel, if_neg (fun h => hrefused.1 h hlevel),
      exactStart_natCast (by exact_mod_cast hlevel.2)]
    rfl
  · rw [if_neg hlevel, if_pos (hrefused.2 hlevel)]

lemma isModerate : s.IsModerate := by
  have hone := h.one_le_anchors
  have hlength := h.length_eq
  have hbytes := h.bytes_le
  have hlayers : s.layerCount ≤ s.layerCount * s.anchorsPerCell :=
    Nat.le_mul_of_pos_right _ (by omega)
  rw [Nat.mul_assoc] at hlength
  unfold maxInt64 at hbytes
  refine ⟨h.anchors_le, by omega, ?_⟩
  unfold FitsInt64 minInt64 maxInt64
  omega

end IsPyramid

end Settings

/-- **Every level of the pyramid gets its own anchors.**  Let there be a slice of anchors for each
layer, and a model that is a number of the largest cells wide.  A grid whose columns are a power of
two times those of the coarsest grid is accepted exactly if there is such a level, and gets the
slice of that level.  No size belongs to two levels, and the slices make up all sizes, those of the
finest level first.  Any other grid that is accepted gets the slice of one of the levels, too. -/
theorem layer_eq_of_level [Elementary] [Build] (hlog : IsLogarithm Elementary.log2) {s : Settings}
    (h : s.IsPyramid) {m : ℕ} (hm : 1 ≤ m) (hmodel : coarsestCell * m ≤ 8192) :
    (∀ shape l, shape.getD s.layout.widthAxis 0 = m * 2 ^ l → m * 2 ^ l < UInt64.size →
      s.layer shape (coarsestCell * m) =
        if l < s.layerCount then
          .ok ⟨m * 2 ^ l, shape.getD s.layout.heightAxis 0, s.levelAnchors l⟩
        else .error (.yolo .anchorSlice)) ∧
      ((Set.Iio s.layerCount).PairwiseDisjoint s.levelPlaces ∧
        ⋃ l ∈ Set.Iio s.layerCount, s.levelPlaces l = Set.Iio s.anchorSizes.length ∧
        (List.range s.layerCount).reverse.flatMap s.levelAnchors = s.anchorSizes) ∧
      ∀ shape layer, shape.getD s.layout.widthAxis 0 < UInt64.size →
        s.layer shape (coarsestCell * m) = .ok layer →
          ∃ l < s.layerCount, layer.anchors = s.levelAnchors l := by
  have hpos : 0 < coarsestCell * m := Nat.mul_pos (by decide) hm
  have hfits : coarsestCell * m < UInt32.size := hmodel.trans_lt (by decide)
  refine ⟨?_, ⟨h.pairwiseDisjoint, h.biUnion_levelPlaces, h.flatMap_levelAnchors⟩, ?_⟩
  · intro shape l hgrid hgrid'
    -- So many columns can only be counted if the power is small, and then nothing is rounded.
    have hpower : 2 ^ l < 2 ^ 64 := (Nat.le_mul_of_pos_left _ hm).trans_lt hgrid'
    have hl : l ≤ 63 := Nat.lt_succ_iff.1 ((Nat.pow_lt_pow_iff_right one_lt_two).1 hpower)
    have hm' : m ≤ 256 := by
      unfold coarsestCell at hmodel
      omega
    rw [Settings.layer_of_columns h.isModerate hlog hpos hfits (hgrid ▸ by positivity)
      (hgrid ▸ hgrid'), hgrid, level_eq hlog hm hm' hl, h.layerFrom_exactStart, hgrid,
      Int.toNat_natCast]
    exact if_congr (by omega) rfl rfl
  · intro shape layer hgrid hlayer
    obtain ⟨l, hl⟩ : ∃ l : ℤ, s.layer shape (coarsestCell * m) =
        s.layerFrom shape (s.exactStart l) := by
      rcases Nat.eq_zero_or_pos (shape.getD s.layout.widthAxis 0) with hnone | hsome
      · cases hoverflow : Build.overflow with
        | caught =>
          rw [Settings.layer_of_no_columns_of_caught h.isModerate hlog hpos hfits hoverflow
            h.one_le_layers hnone] at hlayer
          cases hlayer
        | wrapped =>
          exact ⟨0, Settings.layer_of_no_columns_of_wrapped h.isModerate hlog hpos hfits hoverflow
            hnone⟩
      · exact ⟨_, Settings.layer_of_columns h.isModerate hlog hpos hfits hsome hgrid⟩
    rw [hl, h.layerFrom_exactStart] at hlayer
    split at hlayer
    · rename_i hlevel
      cases hlayer
      exact ⟨l.toNat, by omega, rfl⟩
    · cases hlayer

/-- Functions of which only the logarithm is used: it is the exponent. -/
@[reducible] def exponentElementary : Elementary where
  exp32 _ := 1.0
  exp64 _ := 1.0
  log2 := exponent

/-- Settings of three layers with three anchors each. -/
def threeLevels : Settings where
  classes := ⟨1, 0.25, [0.25], true⟩
  objectnessThreshold := 0.25
  overlapThreshold := 0.5
  anchorsPerCell := 3
  anchorSizes := [10.0, 13.0, 16.0, 30.0, 33.0, 23.0, 30.0, 61.0, 62.0, 45.0, 59.0, 119.0, 116.0,
    90.0, 156.0, 198.0, 373.0, 326.0]
  layerCount := 3
  version := 3
  layout := .channelsLast
  framework := .tensorflow

/-- A model 13 cells wide: the finest of three grids has the first six sizes, the coarsest has the
last six, and there is no fourth grid. -/
theorem layer_eq_of_level_threeLevels :
    IsLogarithm exponent ∧ threeLevels.IsPyramid ∧
      @Settings.layer exponentElementary _ threeLevels [1, 52, 52, 18] 416 =
        .ok ⟨52, 52, [10.0, 13.0, 16.0, 30.0, 33.0, 23.0]⟩ ∧
      @Settings.layer exponentElementary _ threeLevels [1, 13, 13, 18] 416 =
        .ok ⟨13, 13, [116.0, 90.0, 156.0, 198.0, 373.0, 326.0]⟩ ∧
      @Settings.layer exponentElementary _ threeLevels [1, 104, 104, 18] 416 =
        .error (.yolo .anchorSlice) := by
  have hpyramid : threeLevels.IsPyramid :=
    ⟨by decide, by decide, by decide, by decide, by decide⟩
  obtain ⟨hlevel, -, -⟩ := @layer_eq_of_level exponentElementary _ isLogarithm_exponent threeLevels
    hpyramid 13 (by decide) (by decide)
  exact ⟨isLogarithm_exponent, hpyramid, hlevel [1, 52, 52, 18] 2 rfl (by decide),
    hlevel [1, 13, 13, 18] 0 rfl (by decide), hlevel [1, 104, 104, 18] 3 rfl (by decide)⟩

end Yolo
end Detection
