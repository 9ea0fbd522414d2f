/-
# Candidates without failures

Outputs are checked before they are decoded, and a layer is read only if its buffer reaches as far
as its places do.  So nothing can fail any more once the layers are there: what is found at an
anchor of a cell is a function of the channels, and the objects of a frame are those of the layers,
one layer after the other.  This is so in every build, as long as nothing is cut off the number of
elements of a layer; a build that gives up has seen to it.

## Main definitions

* `Detector.extents`: the cells, anchors and channels of a layer.
* `Detector.FitsWord`: nothing is cut off the number of elements of a layer.
* `Detector.channel`: a channel of an anchor of a cell.
* `Detector.objectAt?`: the object at an anchor of a cell, if there is one.
* `Detector.layers`: the layers of a frame.

The main results are `candidates_eq_ok_of_layers` and `candidates_eq_map_layers`.
-/
import Detection.Proofs.Choice
import Detection.Proofs.Overflow
import Detection.Proofs.Tensor
import Detection.Proofs.Yolo.Places
import Detection.Yolo.Decoder

namespace Detection
namespace Yolo

/-! ## Layers that are covered -/

/-- The cells, anchors and channels of a layer, counted without a limit. -/
def Detector.extents (d : Detector) (layer : Layer) : Dimensions :=
  ⟨layer.cells, d.settings.anchorsPerCell, d.settings.channels⟩

/-- The channel of an anchor of a cell; zero where the buffer does not reach. -/
def Detector.channel (d : Detector) (data : LayerData) (cell anchor c : ℕ) : Float32 :=
  data.values.getD (d.variant.place (d.dimensions data.layer) cell anchor c) 0.0

/-- The buffer of a layer reaches as far as the places of the layer. -/
def Detector.Covers (d : Detector) (data : LayerData) : Prop :=
  (d.dimensions data.layer).count ≤ data.values.size

/-- Nothing is cut off the number of elements of a layer: the build has given up, or it fits. -/
def Detector.FitsWord [Build] (d : Detector) (layer : Layer) : Prop :=
  Build.overflow = .caught ∨ (d.extents layer).count < UInt64.size

lemma Settings.channels_pos (s : Settings) : 0 < s.channels :=
  Nat.lt_of_lt_of_le (by decide) (Nat.le_add_right leadingChannels _)

section Covered

variable {d : Detector} {layer : Layer} {data : LayerData} {cell anchor : ℕ}

lemma fitsWord_of_caught (d : Detector) (layer : Layer) : d.FitsWord layer :=
  .inl rfl

section

variable [Build]

lemma dimensions_eq (hfits : d.FitsWord layer) (hcell : cell < layer.cells)
    (hanchor : anchor < d.settings.anchorsPerCell) :
    d.dimensions layer = d.extents layer := by
  unfold Detector.dimensions Detector.extents
  rcases hfits with hcaught | hlt
  · rw [Build.kept_of_caught hcaught, Build.kept_of_caught hcaught]
  · have hcells : 0 < layer.cells := Nat.zero_lt_of_lt hcell
    have hanchors : 0 < d.settings.anchorsPerCell := Nat.zero_lt_of_lt hanchor
    unfold Detector.extents Dimensions.count at hlt
    rw [Nat.mul_assoc] at hlt
    rw [Build.kept_of_lt, Build.kept_of_lt]
    · exact (Nat.le_mul_of_pos_left _ hanchors).trans_lt
        ((Nat.le_mul_of_pos_left _ hcells).trans_lt hlt)
    · exact (Nat.le_mul_of_pos_right _
        (Nat.mul_pos hanchors d.settings.channels_pos)).trans_lt hlt

/-- A layer has the same places in every build, even if it has none. -/
lemma places_dimensions_eq (hfits : d.FitsWord layer) :
    (d.dimensions layer).places = (d.extents layer).places := by
  rcases Nat.eq_zero_or_pos layer.cells with hcells | hcells
  · have hnone : Build.kept 0 = 0 := Build.kept_of_lt (by decide)
    simp only [Detector.dimensions, Detector.extents, Dimensions.places, hcells, hnone]
  rcases Nat.eq_zero_or_pos d.settings.anchorsPerCell with hanchors | hanchors
  · have hnone : ∀ cells channels, Dimensions.places ⟨cells, 0, channels⟩ = [] :=
      fun cells channels => List.flatMap_eq_nil_iff.2 fun cell _ => rfl
    simp only [Detector.dimensions, Detector.extents, hanchors, hnone]
  · rw [dimensions_eq hfits hcells hanchors]

/-- Where the buffer reaches as far as the places do, all channels can be read. -/
lemma element_eq_channel (hfits : d.FitsWord data.layer) (h : d.Covers data)
    (hcell : cell < data.layer.cells) (hanchor : anchor < d.settings.anchorsPerCell) {c : ℕ}
    (hc : c < d.settings.channels) :
    element data.values (Build.kept (d.variant.place (d.dimensions data.layer) cell anchor c)) =
      .ok (d.channel data cell anchor c) := by
  have hlt : d.variant.place (d.extents data.layer) cell anchor c < (d.extents data.layer).count :=
    d.variant.place_lt hcell hanchor hc
  have hplace := Nat.lt_of_lt_of_le hlt h
  have hkept : Build.kept (d.variant.place (d.extents data.layer) cell anchor c) =
      d.variant.place (d.extents data.layer) cell anchor c := by
    rcases hfits with hcaught | hword
    · exact Build.kept_of_caught hcaught _
    · exact Build.kept_of_lt (hlt.trans hword)
  rw [dimensions_eq hfits hcell hanchor, hkept, element_of_lt hplace]
  unfold Detector.channel
  change _ = Except.ok (data.values.getD (d.variant.place (d.extents data.layer) cell anchor c) 0.0)
  simp [hplace]

/-- As long as nothing is cut off, the number of elements is found, if there are any. -/
lemma elementCount_eq_ok (hpos : 0 < (d.extents layer).count)
    (hlt : (d.extents layer).count < UInt64.size) :
    d.elementCount layer = .ok (d.extents layer).count := by
  have hcells : 0 < layer.cells * d.settings.anchorsPerCell := Nat.pos_of_mul_pos_right hpos
  have hsum : Build.sum [leadingChannels, d.settings.classes.classCount] =
      .ok d.settings.channels :=
    Build.sum_eq_ok ((Nat.le_mul_of_pos_left _ hcells).trans_lt hlt)
  have hprod : [layer.gridWidth, layer.gridHeight, d.settings.anchorsPerCell,
      d.settings.channels].prod = (d.extents layer).count := by
    simp [Detector.extents, Dimensions.count, Layer.cells, Nat.mul_assoc]
  unfold Detector.elementCount
  rw [hsum, ok_bind, ← hprod]
  exact Build.product_eq_ok (hprod ▸ hpos) (hprod ▸ hlt)

end

/-- What is computed by a build that gives up is the number of elements. -/
lemma eq_of_elementCount_eq_ok [Build] (hcaught : Build.overflow = .caught) {count : ℕ}
    (h : d.elementCount layer = .ok count) : count = (d.extents layer).count := by
  obtain ⟨channels, hchannels, h⟩ := exists_of_bind_eq_ok h
  rw [Build.eq_prod_of_product_eq_ok hcaught h, Build.eq_sum_of_sum_eq_ok hcaught hchannels]
  simp [Detector.extents, Dimensions.count, Layer.cells, Settings.channels, Nat.mul_assoc]

lemma Detector.elementCount_lt [Build] (d : Detector) {count : ℕ}
    (h : d.elementCount layer = .ok count) : count < UInt64.size := by
  obtain ⟨channels, -, h⟩ := exists_of_bind_eq_ok h
  exact Build.lt_of_product_eq_ok h

variable [Elementary] [Build]

/-- What has been read of an output: its layer, and elements as far as its places are counted to
reach. -/
lemma exists_of_layerData_eq_ok {modelWidth : ℕ} {output : Tensor}
    (h : d.layerData modelWidth output = .ok data) :
    d.settings.layer output.shape modelWidth = .ok data.layer ∧
      ∃ count, d.elementCount data.layer = .ok count ∧ count ≠ 0 ∧
        output.floatsCovering (count - 1) = .ok data.values := by
  obtain ⟨layer, hlayer, h⟩ := exists_of_bind_eq_ok h
  obtain ⟨count, hcount, h⟩ := exists_of_bind_eq_ok h
  split at h
  · cases h
  · rename_i hsome
    obtain ⟨values, hvalues, h⟩ := exists_of_bind_eq_ok h
    cases h
    exact ⟨hlayer, count, hcount, hsome, hvalues⟩

/-- What has been read of an output is as much as was counted, and the count was right. -/
lemma count_of_layerData_eq_ok {modelWidth : ℕ} {output : Tensor}
    (h : d.layerData modelWidth output = .ok data) (hfits : d.FitsWord data.layer) :
    (d.extents data.layer).count < UInt64.size ∧ d.Covers data := by
  obtain ⟨-, count, hcount, hsome, hvalues⟩ := exists_of_layerData_eq_ok h
  have hlast := (Tensor.floatsCovering_eq_ok_iff.1 hvalues).2
  have hword := d.elementCount_lt hcount
  unfold Detector.Covers
  change _ ∧ (d.extents data.layer).count ≤ data.values.size
  rcases Nat.eq_zero_or_pos (d.extents data.layer).count with hnone | hpos
  · rw [hnone]
    exact ⟨by decide, Nat.zero_le _⟩
  · have hexact : count = (d.extents data.layer).count := by
      rcases hfits with hcaught | hlt
      · exact eq_of_elementCount_eq_ok hcaught hcount
      · exact Except.ok.inj (hcount.symm.trans (elementCount_eq_ok hpos hlt))
    omega

end Covered

/-! ## The object at a place -/

section Objects

variable [Elementary] {d : Detector} {extent : Extent} {data : LayerData} {cell anchor : ℕ}

/-- The probabilities of all classes at an anchor of a cell. -/
def Detector.probabilities (d : Detector) (data : LayerData) (cell anchor : ℕ)
    (objectness : Float32) : List Float32 :=
  (List.range d.settings.classes.classCount).map fun c =>
    d.probability objectness (d.channel data cell anchor (leadingChannels + c))

/-- The object at an anchor of a cell with its class and probability. -/
def Detector.objectOfClass (d : Detector) (extent : Extent) (data : LayerData)
    (cell anchor : ℕ) (best : ℕ × Float32) : DetectedObject :=
  let (x, y, width, height) := d.rectangle extent data.layer cell anchor
    (d.channel data cell anchor 0) (d.channel data cell anchor 1)
    (d.channel data cell anchor 2) (d.channel data cell anchor 3)
  objectOf x y width height best.2 best.1

/-- The object at an anchor of a cell, if there is one. -/
def Detector.objectAt? (d : Detector) (extent : Extent) (data : LayerData)
    (cell anchor : ℕ) : Option DetectedObject :=
  (d.objectness? (d.channel data cell anchor boxChannels)).bind fun objectness =>
    (d.bestClass? (d.probabilities data cell anchor objectness)).map
      (d.objectOfClass extent data cell anchor)

/-- Where the channels can be read, looking for a candidate does not fail. -/
lemma candidate?_eq_ok [Build] (hfits : d.FitsWord data.layer) (h : d.Covers data)
    (hcell : cell < data.layer.cells) (hanchor : anchor < d.settings.anchorsPerCell) :
    d.candidate? extent data cell anchor = .ok (d.objectAt? extent data cell anchor) := by
  have hchannel : ∀ c < d.settings.channels,
      element data.values
          (Build.kept (d.variant.place (d.dimensions data.layer) cell anchor c)) =
        .ok (d.channel data cell anchor c) :=
    fun c hc => element_eq_channel hfits h hcell hanchor hc
  have hleading : ∀ c < leadingChannels, c < d.settings.channels := fun c hc =>
    Nat.lt_of_lt_of_le hc (Nat.le_add_right leadingChannels _)
  have hclasses : ((List.range d.settings.classes.classCount).mapM fun c =>
        element data.values (Build.kept (d.variant.place (d.dimensions data.layer) cell anchor
          (leadingChannels + c)))) =
      .ok ((List.range d.settings.classes.classCount).map fun c =>
        d.channel data cell anchor (leadingChannels + c)) := by
    refine mapM_eq_ok_map fun c hc => hchannel _ ?_
    exact Nat.add_lt_add_left (List.mem_range.1 hc) leadingChannels
  unfold Detector.candidate? Detector.objectAt?
  dsimp only
  rw [hchannel boxChannels (hleading _ (by decide)), hclasses,
    hchannel 0 (hleading _ (by decide)), hchannel 1 (hleading _ (by decide)),
    hchannel 2 (hleading _ (by decide)), hchannel 3 (hleading _ (by decide))]
  simp only [ok_bind]
  cases hobjectness : d.objectness? (d.channel data cell anchor boxChannels) with
  | none => rfl
  | some objectness =>
    have hprobabilities : ((List.range d.settings.classes.classCount).map fun c =>
          d.channel data cell anchor (leadingChannels + c)).map (d.probability objectness) =
        d.probabilities data cell anchor objectness := List.map_map
    dsimp only [Option.bind_some]
    rw [hprobabilities]
    cases hbest : d.bestClass? (d.probabilities data cell anchor objectness) with
    | none => rfl
    | some best => rfl

/-- The objects of a layer, cell by cell. -/
def Detector.objectsOf (d : Detector) (extent : Extent) (data : LayerData) :
    List DetectedObject :=
  (d.dimensions data.layer).places.filterMap fun place =>
    d.objectAt? extent data place.1 place.2

lemma layerObjects_eq_ok [Build] (hfits : d.FitsWord data.layer) (h : d.Covers data) :
    d.layerObjects extent data = .ok (d.objectsOf extent data) := by
  have hfound : (d.extents data.layer).places.mapM (fun place =>
        d.candidate? extent data place.1 place.2) =
      .ok ((d.extents data.layer).places.map fun place =>
        d.objectAt? extent data place.1 place.2) := by
    refine mapM_eq_ok_map fun place hplace => ?_
    obtain ⟨hcell, hanchor⟩ := mem_places.1 hplace
    exact candidate?_eq_ok hfits h hcell hanchor
  unfold Detector.layerObjects
  rw [places_dimensions_eq hfits, hfound]
  change Except.ok _ = Except.ok _
  rw [List.filterMap_map]
  rfl

/-! ## The objects of a frame -/

/-- The layers of a frame, all of them checked. -/
def Detector.layers [Build] (d : Detector) (outputs : List Tensor) (extent : Extent) :
    Except Fault (List LayerData) := do
  extent.checkModel
  d.settings.checkShapes (outputs.map (·.shape))
  outputs.mapM (d.layerData extent.modelWidth)

section Layers

variable [Build] {outputs : List Tensor} {layers : List LayerData}

/-- The layers of a frame are covered. -/
lemma covers_of_layers_eq_ok (h : d.layers outputs extent = .ok layers) :
    ∀ data ∈ layers, d.FitsWord data.layer → d.Covers data := by
  intro data hdata hfits
  obtain ⟨-, -, h⟩ := exists_of_bind_eq_ok h
  obtain ⟨-, -, h⟩ := exists_of_bind_eq_ok h
  obtain ⟨output, -, hlayer⟩ := exists_of_mem_of_mapM_eq_ok h hdata
  exact (count_of_layerData_eq_ok hlayer hfits).2

lemma candidates_eq_bind_layers (d : Detector) (outputs : List Tensor) (extent : Extent) :
    d.candidates outputs extent = d.layers outputs extent >>= fun layers =>
      layers.mapM (d.layerObjects extent) >>= fun objects => .ok objects.flatten := by
  unfold Detector.candidates Detector.layers
  simp only [bind_assoc]
  rfl

/-- **Decoding layers does not fail.**  Once the layers of a frame are there and nothing was cut
off their numbers of elements, the candidates are the objects of the layers, one layer after the
other. -/
theorem candidates_eq_ok_of_layers (h : d.layers outputs extent = .ok layers)
    (hfits : ∀ data ∈ layers, d.FitsWord data.layer) :
    d.candidates outputs extent = .ok (layers.flatMap (d.objectsOf extent)) := by
  have hobjects : ∀ data ∈ layers,
      d.layerObjects extent data = .ok (d.objectsOf extent data) := fun data hdata =>
    layerObjects_eq_ok (hfits data hdata) (covers_of_layers_eq_ok h data hdata (hfits data hdata))
  rw [candidates_eq_bind_layers, h, ok_bind, mapM_eq_ok_map hobjects, ok_bind]
  rfl

end Layers

/-- So a build that gives up at an overflow fails only until the layers are there. -/
theorem candidates_eq_map_layers (d : Detector) (outputs : List Tensor) (extent : Extent) :
    d.candidates outputs extent =
      (d.layers outputs extent).map fun layers => layers.flatMap (d.objectsOf extent) := by
  cases hlayers : d.layers outputs extent with
  | error fault =>
    rw [candidates_eq_bind_layers, hlayers]
    rfl
  | ok layers =>
    exact candidates_eq_ok_of_layers hlayers fun data _ => fitsWord_of_caught d data.layer

end Objects

end Yolo
end Detection
