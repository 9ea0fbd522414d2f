/-
# One output in two layouts

Outputs of version 3 come with all channels of a cell together, or with all cells of a channel
together.  Apart from where an element stands, the two layouts are decoded alike.

## Main definitions

* `SameChannels`: two buffers hold the same channels, in one layout and in the other.
* `Transposed`: two tensors of the two layouts hold the same channels.
* `configured`: settings with a framework and a layout put in.

The main result is `decoded_channelsLast_eq_decoded_channelsFirst`.
-/
import Detection.Proofs.Outcome
import Detection.Proofs.Settings.Reading
import Detection.Proofs.Tensor
import Detection.Proofs.Yolo.Candidates

namespace Detection
namespace Yolo

/-! ## The same channels -/

/-- Two buffers hold the same channels, one of them cell by cell and the other channel by
channel. -/
structure SameChannels (d : Dimensions) (last first : Array Float32) : Prop where
  /-- The buffer that goes cell by cell is full. -/
  size_last : last.size = d.count
  /-- The buffer that goes channel by channel is full. -/
  size_first : first.size = d.count
  /-- Every channel of every anchor of every cell is in both. -/
  getElem?_eq : ∀ cell < d.cells, ∀ anchor < d.anchors, ∀ channel < d.channels,
    first[(anchor * d.channels + channel) * d.cells + cell]? =
      last[(cell * d.anchors + anchor) * d.channels + channel]?

/-- A tensor with channels last, and a tensor with channels first that holds the same. -/
def Transposed (anchors channels : ℕ) (t t' : Tensor) : Prop :=
  ∃ height width last first, t = ⟨[1, height, width, anchors * channels], .float last⟩ ∧
    t' = ⟨[1, anchors * channels, height, width], .float first⟩ ∧
      SameChannels ⟨height * width, anchors, channels⟩ last first

/-- A shape with channels last, and the shape with channels first that belongs to it. -/
def TransposedShape (channels : ℕ) (shape shape' : List ℕ) : Prop :=
  ∃ height width, shape = [1, height, width, channels] ∧ shape' = [1, channels, height, width]

lemma Transposed.shape {anchors channels : ℕ} {t t' : Tensor}
    (h : Transposed anchors channels t t') :
    TransposedShape (anchors * channels) t.shape t'.shape := by
  obtain ⟨height, width, last, first, rfl, rfl, -⟩ := h
  exact ⟨height, width, rfl, rfl⟩

lemma SameChannels.element_place {d : Dimensions} {last first : Array Float32}
    (h : SameChannels d last first) {cell anchor channel : ℕ} (hcell : cell < d.cells)
    (hanchor : anchor < d.anchors) (hchannel : channel < d.channels) :
    element last (Variant.channelsLast.place d cell anchor channel) =
      element first (Variant.channelsFirst.place d cell anchor channel) := by
  have hlt : (cell * d.anchors + anchor) * d.channels + channel < last.size := by
    rw [h.size_last]
    exact row_add_lt (row_add_lt hcell hanchor) hchannel
  have heq := h.getElem?_eq cell hcell anchor hanchor channel hchannel
  rw [Variant.place_channelsLast, Variant.place_channelsFirst, element, element, heq,
    Array.getElem?_eq_getElem hlt]

/-! ## Reading layers -/

lemma grid_of_layer_eq_ok [Elementary] [Build] {s : Settings} {shape : List ℕ} {modelWidth : ℕ}
    {layer : Layer} (h : s.layer shape modelWidth = .ok layer) :
    layer.gridWidth = shape.getD s.layout.widthAxis 0 ∧
      layer.gridHeight = shape.getD s.layout.heightAxis 0 := by
  obtain ⟨start, -, h⟩ := exists_of_bind_eq_ok h
  obtain ⟨stop, -, h⟩ := exists_of_bind_eq_ok h
  split_ifs at h
  cases h
  exact ⟨rfl, rfl⟩

/-- Nothing is missing of an output whose buffer is full, unless it has no elements at all or too
many of them to count. -/
lemma layerData_of_size_eq [Elementary] {d : Detector} {shape : List ℕ} {values : Array Float32}
    {modelWidth : ℕ} {layer : Layer} (hlayer : d.settings.layer shape modelWidth = .ok layer)
    (hsize : values.size = (d.dimensions layer).count) :
    d.layerData modelWidth ⟨shape, .float values⟩ = d.elementCount layer >>= fun count =>
      if count = 0 then .error (.yolo .emptyOutput) else .ok ⟨layer, values⟩ := by
  unfold Detector.layerData
  rw [hlayer, ok_bind]
  cases hcount : d.elementCount layer with
  | error fault => rfl
  | ok count =>
    have hexact : count = values.size := (eq_of_elementCount_eq_ok rfl hcount).trans hsize.symm
    rw [ok_bind, ok_bind]
    split_ifs with hnone
    · rfl
    · rw [Tensor.floatsCovering_of_lt (by omega)]
      rfl

/-! ## Two detectors -/

/-- The detector of outputs with channels last. -/
def detectorLast (s : Settings) : Detector :=
  ⟨{ s with layout := .channelsLast, framework := .tensorflow }, .channelsLast⟩

/-- The detector of outputs with channels first. -/
def detectorFirst (s : Settings) : Detector :=
  ⟨{ s with layout := .channelsFirst, framework := .caffe }, .channelsFirst⟩

section

variable [Elementary] (s : Settings) (extent : Extent)

/-- Once its channels are read, a candidate is judged alike by both detectors. -/
lemma candidate?_eq {layer : Layer} {last first : Array Float32}
    (h : SameChannels ⟨layer.cells, s.anchorsPerCell, s.channels⟩ last first)
    {cell anchor : ℕ} (hcell : cell < layer.cells) (hanchor : anchor < s.anchorsPerCell) :
    (detectorLast s).candidate? extent ⟨layer, last⟩ cell anchor =
      (detectorFirst s).candidate? extent ⟨layer, first⟩ cell anchor := by
  have hchannel : ∀ c < s.channels,
      element last (Build.kept ((detectorLast s).variant.place ((detectorLast s).dimensions layer)
        cell anchor c)) =
      element first (Build.kept ((detectorFirst s).variant.place
        ((detectorFirst s).dimensions layer) cell anchor c)) :=
    fun c hc => h.element_place hcell hanchor hc
  have hclasses : ∀ c < s.classes.classCount, leadingChannels + c < s.channels :=
    fun c hc => Nat.add_lt_add_left hc leadingChannels
  have hmapM : ((List.range (detectorLast s).settings.classes.classCount).mapM fun c =>
        element last (Build.kept ((detectorLast s).variant.place
          ((detectorLast s).dimensions layer) cell anchor (leadingChannels + c)))) =
      (List.range (detectorFirst s).settings.classes.classCount).mapM fun c =>
        element first (Build.kept ((detectorFirst s).variant.place
          ((detectorFirst s).dimensions layer) cell anchor (leadingChannels + c))) :=
    mapM_congr fun c hc => hchannel _ (hclasses c (List.mem_range.1 hc))
  have hleading : ∀ c < leadingChannels, c < s.channels := fun c hc =>
    Nat.lt_of_lt_of_le hc (Nat.le_add_right leadingChannels _)
  -- With equal channels only the variants differ, and these two share every formula.
  unfold Detector.candidate?
  simp only [hmapM, hchannel boxChannels (hleading _ (by decide)),
    hchannel 0 (hleading _ (by decide)), hchannel 1 (hleading _ (by decide)),
    hchannel 2 (hleading _ (by decide)), hchannel 3 (hleading _ (by decide))]
  rfl

lemma layerObjects_eq {layer : Layer} {last first : Array Float32}
    (h : SameChannels ⟨layer.cells, s.anchorsPerCell, s.channels⟩ last first) :
    (detectorLast s).layerObjects extent ⟨layer, last⟩ =
      (detectorFirst s).layerObjects extent ⟨layer, first⟩ := by
  have hfound : ((detectorLast s).dimensions layer).places.mapM (fun place =>
        (detectorLast s).candidate? extent ⟨layer, last⟩ place.1 place.2) =
      ((detectorFirst s).dimensions layer).places.mapM fun place =>
        (detectorFirst s).candidate? extent ⟨layer, first⟩ place.1 place.2 := by
    refine mapM_congr fun place hplace => ?_
    obtain ⟨hcell, hanchor⟩ := mem_places.1 hplace
    exact candidate?_eq s extent h hcell hanchor
  unfold Detector.layerObjects
  rw [hfound]

/-- The data of one layer, in one layout and in the other. -/
def SameLayer (data data' : LayerData) : Prop :=
  data.layer = data'.layer ∧
    SameChannels ⟨data.layer.cells, s.anchorsPerCell, s.channels⟩ data.values data'.values

/-- What is read of transposed outputs is the same layer, or fails alike. -/
lemma agree_layerData {t t' : Tensor} (h : Transposed s.anchorsPerCell s.channels t t')
    (modelWidth : ℕ) :
    Agree (SameLayer s) ((detectorLast s).layerData modelWidth t)
      ((detectorFirst s).layerData modelWidth t') := by
  obtain ⟨height, width, last, first, rfl, rfl, hsame⟩ := h
  have hlayer : (detectorFirst s).settings.layer
      [1, s.anchorsPerCell * s.channels, height, width] modelWidth =
      (detectorLast s).settings.layer
        [1, height, width, s.anchorsPerCell * s.channels] modelWidth := rfl
  cases hlast : (detectorLast s).settings.layer
      [1, height, width, s.anchorsPerCell * s.channels] modelWidth with
  | error fault =>
    rw [hlast] at hlayer
    unfold Detector.layerData
    rw [hlast, hlayer]
    exact Agree.error fault
  | ok layer =>
    obtain ⟨hwidth, hheight⟩ := grid_of_layer_eq_ok hlast
    have hcells : height * width = layer.cells := by
      rw [Layer.cells, hwidth, hheight]
      exact Nat.mul_comm height width
    rw [hcells] at hsame
    -- Both buffers are full, so what is left to fail is to count the elements, which are as many.
    rw [layerData_of_size_eq hlast hsame.size_last,
      layerData_of_size_eq (hlayer.trans hlast) hsame.size_first]
    have hcount : (detectorFirst s).elementCount layer = (detectorLast s).elementCount layer := rfl
    rw [hcount]
    refine Agree.bind_same fun count _ => ?_
    split
    · exact Agree.error _
    · exact Agree.ok ⟨rfl, hsame⟩

lemma mapM_layerObjects_eq {layers layers' : List LayerData}
    (h : List.Forall₂ (SameLayer s) layers layers') :
    layers.mapM ((detectorLast s).layerObjects extent) =
      layers'.mapM ((detectorFirst s).layerObjects extent) := by
  have hobjects : Agree (List.Forall₂ (· = ·))
      (layers.mapM ((detectorLast s).layerObjects extent))
      (layers'.mapM ((detectorFirst s).layerObjects extent)) := by
    refine Agree.mapM h ?_
    rintro ⟨layer, last⟩ ⟨layer', first⟩ ⟨rfl, hsame⟩
    rw [layerObjects_eq s extent hsame]
    exact Agree.refl _
  rw [List.forall₂_eq_eq_eq] at hobjects
  exact hobjects.eq

/-! ## From shapes to objects -/

omit [Elementary] in
/-- Both detectors judge the shapes of transposed outputs alike. -/
lemma checkShapes_eq {shapes shapes' : List (List ℕ)}
    (h : List.Forall₂ (TransposedShape (s.anchorsPerCell * s.channels)) shapes shapes') :
    (detectorLast s).settings.checkShapes shapes =
      (detectorFirst s).settings.checkShapes shapes' := by
  have heach : ∀ expected, (detectorLast s).settings.checkEachShape expected shapes =
      (detectorFirst s).settings.checkEachShape expected shapes' := by
    intro expected
    induction h with
    | nil => rfl
    | @cons shape shape' rest rest' hshape _ ih =>
      obtain ⟨height, width, rfl, rfl⟩ := hshape
      -- The channels are one number in either layout.
      have hfirst : (detectorLast s).settings.checkShape expected
          [1, height, width, s.anchorsPerCell * s.channels] =
        (detectorFirst s).settings.checkShape expected
          [1, s.anchorsPerCell * s.channels, height, width] := rfl
      simp only [Settings.checkEachShape, hfirst, ih]
  have hexpected : (detectorLast s).settings.cellChannels =
      (detectorFirst s).settings.cellChannels := rfl
  unfold Settings.checkShapes
  rw [h.length_eq, hexpected]
  simp only [heach]
  rfl

lemma candidates_eq {outputs outputs' : List Tensor}
    (h : List.Forall₂ (Transposed s.anchorsPerCell s.channels) outputs outputs') :
    (detectorLast s).candidates outputs extent =
      (detectorFirst s).candidates outputs' extent := by
  have hshapes : List.Forall₂ (TransposedShape (s.anchorsPerCell * s.channels))
      (outputs.map (·.shape)) (outputs'.map (·.shape)) := by
    rw [List.forall₂_map_left_iff, List.forall₂_map_right_iff]
    exact h.imp fun _ _ => Transposed.shape
  unfold Detector.candidates
  rw [checkShapes_eq s hshapes]
  refine Agree.eq ((Agree.refl _).bind fun _ _ _ => (Agree.refl _).bind fun _ _ _ => ?_)
  refine (Agree.mapM h fun t t' ht => agree_layerData s ht extent.modelWidth).bind ?_
  intro layers layers' hlayers
  rw [mapM_layerObjects_eq s extent hlayers]
  exact Agree.refl _

lemma decode_eq {outputs outputs' : List Tensor}
    (h : List.Forall₂ (Transposed s.anchorsPerCell s.channels) outputs outputs') :
    (detectorLast s).decode outputs extent = (detectorFirst s).decode outputs' extent := by
  unfold Detector.decode
  rw [candidates_eq s extent h]
  rfl

end

/-! ## Building the detectors -/

/-- What building checks when the combination is supported. -/
lemma build_eq [Build] {s : Settings} {v : Variant} {shapes : List (List ℕ)}
    (hv : Variant.select? s.version s.framework s.layout = some v) :
    Detector.build s shapes =
      if maxAnchors < s.anchorsPerCell then .error (.yolo .anchorsPerCell)
      else if !shapes.isEmpty && s.classes.checksModel then
        (s.checkShapes shapes).bind fun _ => .ok ⟨s, v⟩
      else .ok ⟨s, v⟩ := by
  unfold Detector.build
  rw [hv]
  rfl

/-- Building fails with the same fault in both layouts, or gives the two detectors. -/
lemma agree_build {s : Settings} (hversion : s.version = 3) {shapes shapes' : List (List ℕ)}
    (h : List.Forall₂ (TransposedShape (s.anchorsPerCell * s.channels)) shapes shapes') :
    Agree (fun d d' => d = detectorLast s ∧ d' = detectorFirst s)
      (Detector.build (detectorLast s).settings shapes)
      (Detector.build (detectorFirst s).settings shapes') := by
  have hlast : Variant.select? (detectorLast s).settings.version
      (detectorLast s).settings.framework (detectorLast s).settings.layout =
      some .channelsLast := by
    simp [detectorLast, hversion, Variant.select?]
  have hfirst : Variant.select? (detectorFirst s).settings.version
      (detectorFirst s).settings.framework (detectorFirst s).settings.layout =
      some .channelsFirst := by
    simp [detectorFirst, hversion, Variant.select?]
  have hempty : shapes.isEmpty = shapes'.isEmpty := by
    cases h <;> rfl
  rw [build_eq hlast, build_eq hfirst, checkShapes_eq s h, hempty]
  change Agree _ (if maxAnchors < s.anchorsPerCell then _ else
    if !shapes'.isEmpty && s.classes.checksModel then _ else _) (if maxAnchors < s.anchorsPerCell
    then _ else if !shapes'.isEmpty && s.classes.checksModel then _ else _)
  split
  · exact Agree.error _
  · split
    · exact (Agree.refl _).bind fun _ _ _ => Agree.ok ⟨rfl, rfl⟩
    · exact Agree.ok ⟨rfl, rfl⟩

/-! ## Settings that name a framework and a layout -/

/-- Settings with a framework and a layout put in. -/
def configured (c : Detection.Settings) (framework layout : String) : Detection.Settings :=
  (c.insert "FRAMEWORK" framework).insert "MODEL_TYPE" layout

variable {c : Detection.Settings} {framework layout : String}

lemma get?_configured {key : String} (hframework : key ≠ "FRAMEWORK")
    (hlayout : key ≠ "MODEL_TYPE") : (configured c framework layout).get? key = c.get? key := by
  simp [configured, Table.get?_insert, hframework, hlayout]

lemma get?_configured_framework :
    (configured c framework layout).get? "FRAMEWORK" = some framework := by
  simp [configured, Table.get?_insert]

lemma get?_configured_layout :
    (configured c framework layout).get? "MODEL_TYPE" = some layout := by
  simp [configured, Table.get?_insert]

lemma readLayout_configured {index : UInt32} {l : Layout}
    (hread : SettingValue.read? layout.toList = some index) (hrange : ¬ (index < 0 ∨ 2 < index))
    (hlayout : Layout.ofIndex? index.toNat = some l) (version : ℕ) :
    Settings.readLayout (configured c framework layout) version = .ok l := by
  unfold Settings.readLayout Settings.readWithin? Settings.read?
  rw [get?_configured_layout]
  simp only [hread, if_neg hrange, hlayout]

lemma readOr_configured {α : Type} [SettingValue α] {key : String} {default low high : α}
    (hframework : key ≠ "FRAMEWORK") (hlayout : key ≠ "MODEL_TYPE") :
    (configured c framework layout).readOr key default low high =
      c.readOr key default low high :=
  Settings.readOr_congr (get?_configured hframework hlayout) default low high

lemma classes_configured :
    ClassSettings.ofSettings (configured c framework layout) = ClassSettings.ofSettings c :=
  ClassSettings.ofSettings_congr fun key hkey => get?_configured
    (by rintro rfl; exact absurd hkey (by decide)) (by rintro rfl; exact absurd hkey (by decide))

lemma readAnchorSizes_configured (count : ℕ) :
    Settings.readAnchorSizes (configured c framework layout) count =
      Settings.readAnchorSizes c count := by
  unfold Settings.readAnchorSizes
  rw [get?_configured (by decide) (by decide)]

/-- Settings of version 3 that name the two layouts differ in nothing else. -/
lemma agree_ofSettings (hversion : c.readOr "YOLO_VERSION" (3 : UInt32) 0 16 = 3) :
    Agree (fun s s' => s.version = 3 ∧ s = (detectorLast s).settings ∧
        s' = (detectorFirst s).settings)
      (Settings.ofSettings (configured c "tensorflow" "0"))
      (Settings.ofSettings (configured c "caffe" "1")) := by
  have hlast : ∀ version, Settings.readLayout (configured c "tensorflow" "0") version =
      .ok .channelsLast := readLayout_configured rfl (by decide) rfl
  have hfirst : ∀ version, Settings.readLayout (configured c "caffe" "1") version =
      .ok .channelsFirst := readLayout_configured rfl (by decide) rfl
  unfold Settings.ofSettings
  simp (disch := decide) only [readOr_configured, classes_configured, hversion, hlast, hfirst,
    readAnchorSizes_configured, get?_configured_framework]
  refine (Agree.refl _).bind ?_
  rintro classes _ rfl
  refine (Agree.refl (Settings.readAnchorSizes c _)).bind ?_
  rintro sizes _ rfl
  exact Agree.ok ⟨rfl, rfl, rfl⟩

/-- What the detector that settings describe decodes, if there is one: it may be told the
shapes of the outputs beforehand. -/
def decoded [Elementary] (c : Detection.Settings) (shapes : List (List ℕ))
    (outputs : List Tensor) (extent : Extent) :
    Except Fault (Except Fault (List DetectedObject)) := do
  let s ← Settings.ofSettings c
  let d ← Detector.build s shapes
  return d.decode outputs extent

/-- With the two layouts put in, settings of version 3 decode transposed outputs to the same
objects or to the same fault, and the detectors are built or refused alike. -/
theorem decoded_channelsLast_eq_decoded_channelsFirst [Elementary] (c : Detection.Settings)
    (hversion : c.readOr "YOLO_VERSION" (3 : UInt32) 0 16 = 3)
    (shapes shapes' : List (List ℕ)) (outputs outputs' : List Tensor) (extent : Extent)
    (hshapes : ∀ s, Settings.ofSettings (configured c "tensorflow" "0") = .ok s →
      List.Forall₂ (TransposedShape (s.anchorsPerCell * s.channels)) shapes shapes')
    (houtputs : ∀ s, Settings.ofSettings (configured c "tensorflow" "0") = .ok s →
      List.Forall₂ (Transposed s.anchorsPerCell s.channels) outputs outputs') :
    decoded (configured c "tensorflow" "0") shapes outputs extent =
      decoded (configured c "caffe" "1") shapes' outputs' extent := by
  refine Agree.eq ((agree_ofSettings hversion).and_eq_ok.bind ?_)
  rintro s s' ⟨hs, hthree, hlast, rfl⟩
  have hbuild := agree_build hthree (hshapes s hs)
  rw [← hlast] at hbuild
  refine hbuild.bind ?_
  rintro d d' ⟨rfl, rfl⟩
  rw [decode_eq s extent (houtputs s hs)]
  exact Agree.refl _

/-! ## Two cells -/

/-- Functions that are right at the few arguments that occur in the following example: the
exponential function at zero and far below it, and the logarithm at one. -/
@[reducible] def coarseElementary : Elementary where
  exp32 x := if x < -104.0 then 0.0 else 1.0
  exp64 x := if x < -746.0 then 0.0 else 1.0
  log2 _ := 0.0

/-- Settings of one class, one layer and one anchor. -/
def smallSettings : Detection.Settings :=
  .ofList [("ANCHOR_DIM", "1"), ("BIASES", "10,13"), ("BIASES_NUM", "2"), ("CLASS_NUM", "1"),
    ("YOLO_TYPE", "1")]

/-- Two cells, one after the other. -/
def twoCellsLast : Tensor :=
  ⟨[1, 1, 2, 6], .float #[0.0, 0.0, 0.0, 0.0, 200.0, 200.0, 200.0, 0.0, 0.0, 0.0, 0.0, 200.0]⟩

/-- The same two cells, channel by channel. -/
def twoCellsFirst : Tensor :=
  ⟨[1, 6, 1, 2], .float #[0.0, 200.0, 0.0, 0.0, 0.0, 0.0, 0.0, 0.0, 200.0, 0.0, 200.0, 200.0]⟩

lemma transposed_twoCells (s : Settings)
    (h : Settings.ofSettings (configured smallSettings "tensorflow" "0") = .ok s) :
    Transposed s.anchorsPerCell s.channels twoCellsLast twoCellsFirst := by
  have hread : (Settings.ofSettings (configured smallSettings "tensorflow" "0")).map
      (fun s => (s.anchorsPerCell, s.channels)) = .ok (1, 6) := rfl
  rw [h] at hread
  obtain ⟨hanchors, hchannels⟩ := Prod.mk.inj (Except.ok.inj hread)
  rw [hanchors, hchannels]
  exact ⟨1, 2, _, _, rfl, rfl, rfl, rfl, by decide⟩

theorem decoded_twoCells :
    smallSettings.readOr "YOLO_VERSION" (3 : UInt32) 0 16 = 3 ∧
      ((Settings.ofSettings (configured smallSettings "tensorflow" "0")).bind fun s =>
        (Detector.build s [twoCellsLast.shape]).bind fun d =>
          @Detector.candidates coarseElementary _ d [twoCellsLast]
            ⟨64, 32, 64, 32⟩).toOption.map List.length = some 2 ∧
      @decoded coarseElementary (configured smallSettings "tensorflow" "0")
          [twoCellsLast.shape] [twoCellsLast] ⟨64, 32, 64, 32⟩ =
        @decoded coarseElementary (configured smallSettings "caffe" "1")
          [twoCellsFirst.shape] [twoCellsFirst] ⟨64, 32, 64, 32⟩ := by
  have hversion : smallSettings.readOr "YOLO_VERSION" (3 : UInt32) 0 16 = 3 := rfl
  refine ⟨hversion, rfl, ?_⟩
  exact @decoded_channelsLast_eq_decoded_channelsFirst coarseElementary smallSettings hversion
    [twoCellsLast.shape] [twoCellsFirst.shape] [twoCellsLast] [twoCellsFirst] ⟨64, 32, 64, 32⟩
    (fun s hs => List.Forall₂.cons (transposed_twoCells s hs).shape List.Forall₂.nil)
    fun s hs => List.Forall₂.cons (transposed_twoCells s hs) List.Forall₂.nil

end Yolo
end Detection
