/-
# The grid of an output and its elements

Of the extents of an output the first counts pictures, some count channels and the others
cells.  Which are channels is told by their distance from either end of the shape, but the grid
is taken from two fixed dimensions.  Where a shape has just as many dimensions as its layout
names, the two agree; in a longer one the grid can miss some of the cells or take channels for
cells.

## Main definitions

* `Layout.cellExtents`: the extents that count cells.
* `Layout.rank`: the number of dimensions that a layout names.
* `Layer.AccountsFor`: the grid of a layer and the channels asked for make up a shape.
-/
import Detection.Proofs.Yolo.Layouts
import Mathlib.Algebra.BigOperators.Group.List.Basic
import Mathlib.Tactic.Ring

namespace Detection
namespace Yolo

lemma extentProduct_eq_prod (extents : List ℕ) : extentProduct extents = extents.prod :=
  List.prod_eq_foldl.symm

/-! ## Extents of cells -/

/-- The extents of a shape that count neither pictures nor channels. -/
def Layout.cellExtents (layout : Layout) (shape : List ℕ) : List ℕ :=
  match layout with
  | .channelsLast => (shape.drop 1).take 2
  | .channelsFirst => shape.drop (shape.length - 2)
  | .channelBlocks => (shape.drop 2).take 2 ++ shape.drop 5

/-- The number of dimensions that a layout names. -/
def Layout.rank : Layout → ℕ
  | .channelsLast => 4
  | .channelsFirst => 4
  | .channelBlocks => 5

lemma exists_four_of_minRank_le {shape : List ℕ} (h : minRank ≤ shape.length) :
    ∃ a b c d rest, shape = a :: b :: c :: d :: rest := by
  rcases shape with _ | ⟨a, _ | ⟨b, _ | ⟨c, _ | ⟨d, rest⟩⟩⟩⟩
  case cons.cons.cons.cons => exact ⟨a, b, c, d, rest, rfl⟩
  all_goals simp [minRank] at h

/-- The extents of a shape that count channels. -/
def Layout.channelExtents (layout : Layout) (shape : List ℕ) : List ℕ :=
  match layout with
  | .channelsLast => shape.drop 3
  | .channelsFirst => (shape.drop 1).take (shape.length - 3)
  | .channelBlocks => [shape.getD 1 0, shape.getD 4 0]

/-- Channels that are found are the product of their extents. -/
lemma eq_prod_of_shapeChannels_eq_ok {layout : Layout} {shape : List ℕ} {channels : ℕ}
    (h : layout.shapeChannels shape = .ok channels) :
    channels = (layout.channelExtents shape).prod ∧
      (layout = .channelBlocks → shape.length ≠ minRank) := by
  cases layout with
  | channelsLast => exact ⟨Build.eq_prod_of_product_eq_ok rfl h, nofun⟩
  | channelsFirst => exact ⟨Build.eq_prod_of_product_eq_ok rfl h, nofun⟩
  | channelBlocks =>
    unfold Layout.shapeChannels at h
    dsimp only at h
    split_ifs at h with hrank
    exact ⟨Build.eq_prod_of_product_eq_ok rfl h, fun _ => hrank⟩

/-- A shape is made up of pictures, channels and cells. -/
lemma extentProduct_eq {layout : Layout} {shape : List ℕ} {channels : ℕ}
    (hrank : minRank ≤ shape.length) (h : layout.shapeChannels shape = .ok channels) :
    extentProduct shape =
      shape.getD 0 0 * channels * extentProduct (layout.cellExtents shape) := by
  obtain ⟨rfl, hblocks⟩ := eq_prod_of_shapeChannels_eq_ok h
  obtain ⟨a, b, c, d, rest, rfl⟩ := exists_four_of_minRank_le hrank
  simp only [extentProduct_eq_prod]
  cases layout with
  | channelsLast =>
    simp [Layout.channelExtents, Layout.cellExtents]
    ring
  | channelsFirst =>
    -- The channels stand before the last two extents, the cells are those.
    have hsplit := List.prod_take_mul_prod_drop (b :: c :: d :: rest) (rest.length + 1)
    change (a :: b :: c :: d :: rest).prod = a *
      ((b :: c :: d :: rest).take (rest.length + 1)).prod *
        ((b :: c :: d :: rest).drop (rest.length + 1)).prod
    rw [mul_assoc, hsplit, List.prod_cons]
  | channelBlocks =>
    rcases rest with _ | ⟨e, rest⟩
    · exact absurd rfl (hblocks rfl)
    · simp [Layout.channelExtents, Layout.cellExtents]
      ring

/-- In a shape with as many dimensions as its layout names, the cells are those of the grid.
Where all channels of a cell are together, they are so in every shape. -/
lemma extentProduct_cellExtents {layout : Layout} {shape : List ℕ}
    (hmin : minRank ≤ shape.length) (hrank : shape.length = layout.rank ∨ layout = .channelsLast) :
    extentProduct (layout.cellExtents shape) =
      shape.getD layout.widthAxis 0 * shape.getD layout.heightAxis 0 := by
  obtain ⟨a, b, c, d, rest, rfl⟩ := exists_four_of_minRank_le hmin
  rw [extentProduct_eq_prod]
  cases layout with
  | channelsLast =>
    change [b, c].prod = c * b
    simp [mul_comm]
  | channelsFirst =>
    rcases rest with _ | ⟨e, rest⟩
    · change [c, d].prod = d * c
      simp [mul_comm]
    · simp [Layout.rank] at hrank
  | channelBlocks =>
    rcases rest with _ | ⟨e, _ | ⟨f, rest⟩⟩
    · simp [Layout.rank] at hrank
    · change [c, d].prod = d * c
      simp [mul_comm]
    · simp [Layout.rank] at hrank

/-! ## The grid of a layer -/

/-- The grid of a layer and the channels asked for make up a shape. -/
def Layer.AccountsFor (layer : Layer) (s : Settings) (shape : List ℕ) : Prop :=
  extentProduct shape = shape.getD 0 0 * layer.gridWidth * layer.gridHeight *
    s.anchorsPerCell * s.channels

namespace Settings

variable {s : Settings} {shapes : List (List ℕ)} {shape : List ℕ}

/-- The channels that settings ask for, if they can be counted. -/
lemma eq_of_cellChannels_eq_ok {expected : ℕ} (h : s.cellChannels = .ok expected) :
    expected = s.anchorsPerCell * s.channels := by
  obtain ⟨channels, hchannels, h⟩ := exists_of_bind_eq_ok h
  rw [Build.eq_prod_of_product_eq_ok rfl h, Build.eq_sum_of_sum_eq_ok rfl hchannels]
  simp [Settings.channels]

/-- A shape that is accepted has enough dimensions and the channels asked for. -/
lemma shapeChannels_of_checkShape {expected : ℕ} (h : s.checkShape expected shape = .ok ()) :
    minRank ≤ shape.length ∧ s.layout.shapeChannels shape = .ok expected := by
  unfold checkShape at h
  split at h
  · cases h
  · rename_i hrank
    refine ⟨not_lt.1 hrank, ?_⟩
    split at h
    · cases h
    · rename_i channels hchannels
      split at h
      · rename_i heq
        rw [hchannels, heq]
      · cases h

lemma checkEachShape_eq_ok_iff [Build] {expected : ℕ} :
    s.checkEachShape expected shapes = .ok () ↔
      ∀ shape ∈ shapes, s.checkShape expected shape = .ok () := by
  induction shapes with
  | nil => simp [checkEachShape]
  | cons first rest ih =>
    rw [List.forall_mem_cons, ← ih]
    cases hfirst : s.checkShape expected first with
    | error fault => simp [checkEachShape, hfirst]
    | ok _ => simp [checkEachShape, hfirst]

/-- Outputs are accepted if there is one for each layer and each of them is. -/
lemma checkShapes_eq_ok_iff [Build] :
    s.checkShapes shapes = .ok () ↔ shapes.length = s.layerCount ∧
      ∃ expected, s.cellChannels = .ok expected ∧
        ∀ shape ∈ shapes, s.checkShape expected shape = .ok () := by
  unfold checkShapes
  by_cases hcount : shapes.length = s.layerCount
  · rw [if_neg (not_not.2 hcount)]
    simp only [hcount, true_and, ← checkEachShape_eq_ok_iff]
    cases s.cellChannels with
    | error fault => exact iff_of_false nofun nofun
    | ok expected => exact ⟨fun h => ⟨expected, rfl, h⟩, fun ⟨_, rfl, h⟩ => h⟩
  · rw [if_pos hcount]
    exact iff_of_false nofun fun h => hcount h.1

/-- A shape among those that are accepted has enough dimensions and the channels asked for. -/
lemma shapeChannels_of_checkShapes (h : s.checkShapes shapes = .ok ()) (hmem : shape ∈ shapes) :
    minRank ≤ shape.length ∧
      s.layout.shapeChannels shape = .ok (s.anchorsPerCell * s.channels) := by
  obtain ⟨-, expected, hexpected, hall⟩ := checkShapes_eq_ok_iff.1 h
  rw [← eq_of_cellChannels_eq_ok hexpected]
  exact shapeChannels_of_checkShape (hall shape hmem)

end Settings

/-- Apart from the grid, a tensor of an accepted shape is made up as it should be. -/
lemma accountsFor_iff_of_checkShapes {s : Settings} {shapes : List (List ℕ)} {shape : List ℕ}
    {layer : Layer} (h : s.checkShapes shapes = .ok ()) (hmem : shape ∈ shapes) :
    layer.AccountsFor s shape ↔ shape.getD 0 0 * (s.anchorsPerCell * s.channels) = 0 ∨
      extentProduct (s.layout.cellExtents shape) = layer.gridWidth * layer.gridHeight := by
  obtain ⟨hrank, hchannels⟩ := Settings.shapeChannels_of_checkShapes h hmem
  have hgrid : shape.getD 0 0 * layer.gridWidth * layer.gridHeight * s.anchorsPerCell *
      s.channels = shape.getD 0 0 * (s.anchorsPerCell * s.channels) *
        (layer.gridWidth * layer.gridHeight) := by
    ring
  unfold Layer.AccountsFor
  rw [extentProduct_eq hrank hchannels, hgrid, mul_eq_mul_left_iff, or_comm]

section

variable [Elementary] {s : Settings} {shapes : List (List ℕ)} {shape : List ℕ} {modelWidth : ℕ}
  {layer : Layer}

/-- The grid of an accepted shape with as many dimensions as its layout names accounts for the
tensor; so does, with all channels of a cell together, the grid of every accepted shape. -/
theorem accountsFor_of_rank (hshapes : s.checkShapes shapes = .ok ()) (hmem : shape ∈ shapes)
    (hlayer : s.layer shape modelWidth = .ok layer)
    (hrank : shape.length = s.layout.rank ∨ s.layout = .channelsLast) :
    layer.AccountsFor s shape := by
  have hmin := (Settings.shapeChannels_of_checkShapes hshapes hmem).1
  obtain ⟨hwidth, hheight⟩ := grid_of_layer_eq_ok hlayer
  rw [accountsFor_iff_of_checkShapes hshapes hmem, hwidth, hheight]
  exact .inr (extentProduct_cellExtents hmin hrank)

/-- **A grid accounts for a tensor if it has all of its cells.**  The grid that is taken from an
accepted shape and the channels make up the whole tensor exactly if the extents that count cells
come to as much as the two dimensions that hold the grid, or if there are no channels or no
pictures at all. -/
theorem accountsFor_iff (hshapes : s.checkShapes shapes = .ok ()) (hmem : shape ∈ shapes)
    (hlayer : s.layer shape modelWidth = .ok layer) :
    layer.AccountsFor s shape ↔ shape.getD 0 0 * (s.anchorsPerCell * s.channels) = 0 ∨
      extentProduct (s.layout.cellExtents shape) =
        shape.getD s.layout.widthAxis 0 * shape.getD s.layout.heightAxis 0 := by
  obtain ⟨hwidth, hheight⟩ := grid_of_layer_eq_ok hlayer
  rw [accountsFor_iff_of_checkShapes hshapes hmem, hwidth, hheight]

end

/-- Settings of one class, one layer and one anchor, for outputs with channels first. -/
def oneAnchorFirst : Settings where
  classes := ⟨1, 0.3, [0.3], true⟩
  objectnessThreshold := 0.3
  overlapThreshold := 0.45
  anchorsPerCell := 1
  anchorSizes := [10.0, 13.0]
  layerCount := 1
  version := 3
  layout := .channelsFirst
  framework := .caffe

theorem accountsFor_fourDimensions :
    oneAnchorFirst.checkShapes [[1, 6, 2, 2]] = .ok () ∧
      @Settings.layer coarseElementary _ oneAnchorFirst [1, 6, 2, 2] 64 =
        .ok ⟨2, 2, [10.0, 13.0]⟩ ∧
      (Layer.AccountsFor ⟨2, 2, [10.0, 13.0]⟩ oneAnchorFirst [1, 6, 2, 2] ↔
        1 * (1 * 6) = 0 ∨
          extentProduct (Layout.channelsFirst.cellExtents [1, 6, 2, 2]) = 2 * 2) := by
  have hshapes : oneAnchorFirst.checkShapes [[1, 6, 2, 2]] = .ok () := rfl
  have hlayer : @Settings.layer coarseElementary _ oneAnchorFirst [1, 6, 2, 2] 64 =
      .ok ⟨2, 2, [10.0, 13.0]⟩ := by
    decide
  exact ⟨hshapes, hlayer, @accountsFor_iff coarseElementary oneAnchorFirst [[1, 6, 2, 2]]
    [1, 6, 2, 2] 64 ⟨2, 2, [10.0, 13.0]⟩ hshapes (List.mem_singleton.2 rfl) hlayer⟩

/-- With an extent of one between the channels and the cells, the channels are found but half of
the cells are not. -/
theorem not_accountsFor_fiveDimensions :
    ¬ ∀ [Elementary] (c : Detection.Settings) (s : Settings) (d : Detector)
        (shape : List ℕ) (modelWidth : ℕ) (layer : Layer),
      Settings.ofSettings c = .ok s → Detector.build s [shape] = .ok d →
        s.checkShapes [shape] = .ok () → s.layer shape modelWidth = .ok layer →
          layer.AccountsFor s shape := by
  intro hall
  have haccounts := @hall coarseElementary (configured smallSettings "caffe" "1") oneAnchorFirst
    ⟨oneAnchorFirst, .channelsFirst⟩ [1, 6, 1, 2, 2] 64 ⟨2, 1, [10.0, 13.0]⟩ (by decide +kernel)
    rfl rfl (by decide)
  have hnot : extentProduct [1, 6, 1, 2, 2] ≠ 1 * 2 * 1 * 1 * 6 := by decide
  exact hnot haccounts

end Yolo
end Detection
