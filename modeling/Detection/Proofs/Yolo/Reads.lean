/-
# What is read of an output

The channels of an output are addressed by cell, anchor and channel.  This takes up every element
of the output, and none of them twice.  A buffer that reaches as far as the last element thus
holds all that is read, and decoding reads nothing outside of it.  This needs the number of
elements as it is: a build that goes on at an overflow is left with a smaller one, for which a
buffer can be too short that passes for long enough.

## Main definitions

* `Dimensions.positions`: the cells, anchors and channels of an output.
* `Variant.placeOf`: the index of such a position.

The main result is `bijOn_placeOf_and_reads_within`.
-/
import Detection.Proofs.Faults
import Detection.Proofs.Yolo.Candidates
import Detection.Proofs.Yolo.Layouts
import Mathlib.Data.Set.Function
import Mathlib.Order.Interval.Set.Defs

namespace Detection
namespace Yolo

/-- The cells, anchors and channels by which an output is addressed. -/
def Dimensions.positions (d : Dimensions) : Set (ℕ × ℕ × ℕ) :=
  {p | p.1 < d.cells ∧ p.2.1 < d.anchors ∧ p.2.2 < d.channels}

/-- The index of a cell, an anchor and a channel. -/
def Variant.placeOf (v : Variant) (d : Dimensions) (p : ℕ × ℕ × ℕ) : ℕ :=
  v.place d p.1 p.2.1 p.2.2

/-- The positions of an output and its elements correspond, whatever the layout. -/
lemma bijOn_placeOf (v : Variant) (d : Dimensions) :
    Set.BijOn (v.placeOf d) d.positions (Set.Iio d.count) := by
  refine ⟨?_, ?_, ?_⟩
  · rintro ⟨cell, anchor, channel⟩ ⟨hcell, hanchor, hchannel⟩
    exact v.place_lt hcell hanchor hchannel
  · rintro ⟨cell, anchor, channel⟩ ⟨hcell, hanchor, hchannel⟩ ⟨cell', anchor', channel'⟩
      ⟨hcell', hanchor', hchannel'⟩ heq
    obtain ⟨rfl, rfl, rfl⟩ :=
      v.place_inj hcell hanchor hchannel hcell' hanchor' hchannel' heq
    rfl
  · intro index hindex
    obtain ⟨cell, hcell, anchor, hanchor, channel, hchannel, rfl⟩ := v.exists_place_eq hindex
    exact ⟨(cell, anchor, channel), ⟨hcell, hanchor, hchannel⟩, rfl⟩

/-! ## Addresses in words -/

/-- The index of a channel of an anchor of a cell, computed in words one step after the other. -/
def Variant.address [Build] (v : Variant) (d : Dimensions) (cell anchor channel : ℕ) :
    Except Fault ℕ := do
  let base ←
    match v with
    | .channelsFirst => do Build.sum [← Build.product [d.channels, d.cells, anchor], cell]
    | .channelBlocks => do
      Build.sum [← Build.product [d.channels, d.cells, anchor], ← Build.product [cell, d.channels]]
    | _ => do
      Build.sum
        [← Build.product [d.channels, d.anchors, cell], ← Build.product [anchor, d.channels]]
  Build.sum [base, ← Build.product [channel, v.step d]]

section Addresses

variable [Build] {d : Dimensions} {cell anchor channel : ℕ}

/-- Where the number of elements fits into a word, so does all that an address is computed from. -/
lemma address_eq_ok (v : Variant) (hcell : cell < d.cells) (hanchor : anchor < d.anchors)
    (hchannel : channel < d.channels) (h : d.count < UInt64.size) :
    v.address d cell anchor channel = .ok (v.place d cell anchor channel) := by
  have hplace : v.base d cell anchor + channel * v.step d < UInt64.size :=
    (v.place_lt hcell hanchor hchannel).trans h
  have hpos : 0 < d.count := Nat.zero_lt_of_lt (v.place_lt hcell hanchor hchannel)
  have hsum : ∀ {m n : ℕ}, m + n < UInt64.size → Build.sum [m, n] = .ok (m + n) :=
    fun hlt => Build.sum_eq_ok hlt
  -- The factors of each product are within bounds whose product divides the number of elements.
  have hproduct := Build.product_eq_ok_of_dvd hpos h
  have hpair : ∀ {k bound n : ℕ}, k < bound → bound * n ∣ d.count →
      Build.product [k, n] = .ok (k * n) := by
    intro k bound n hk hdvd
    simpa using hproduct [k, n] [bound, n] (by simp [hk.le]) (by simpa using hdvd)
  have htriple : ∀ {m n k bound : ℕ}, k < bound → m * n * bound ∣ d.count →
      Build.product [m, n, k] = .ok (m * n * k) := by
    intro m n k bound hk hdvd
    simpa [mul_assoc] using
      hproduct [m, n, k] [m, n, bound] (by simp [hk.le]) (by simpa [mul_assoc] using hdvd)
  have hcount : d.count = d.cells * d.anchors * d.channels := rfl
  unfold Variant.address Variant.place
  cases v with
  | channelsFirst =>
    simp only [Variant.base, Variant.step] at hplace ⊢
    rw [htriple hanchor ⟨1, by rw [hcount]; ring⟩, hpair hchannel ⟨d.anchors, by rw [hcount]; ring⟩,
      ok_bind, hsum (by omega), ok_bind, ok_bind, hsum hplace]
  | channelBlocks =>
    simp only [Variant.base, Variant.step] at hplace ⊢
    rw [htriple hanchor ⟨1, by rw [hcount]; ring⟩, hpair hcell ⟨d.anchors, by rw [hcount]; ring⟩,
      hpair hchannel ⟨d.cells * d.anchors, by rw [hcount]; ring⟩, ok_bind, ok_bind,
      hsum (by omega), ok_bind, ok_bind, hsum hplace]
  | channelsLast | activated =>
    simp only [Variant.base, Variant.step] at hplace ⊢
    rw [htriple hcell ⟨1, by rw [hcount]; ring⟩, hpair hanchor ⟨d.cells, by rw [hcount]; ring⟩,
      hpair hchannel ⟨d.cells * d.anchors, by rw [hcount]; ring⟩, ok_bind, ok_bind,
      hsum (by omega), ok_bind, ok_bind, hsum hplace]

/-- For a build that goes on it makes no difference whether the index is cut off at each step or
once. -/
lemma address_of_wrapped (v : Variant) (h : Build.overflow = .wrapped) :
    v.address d cell anchor channel = .ok (Build.kept (v.place d cell anchor channel)) := by
  have hkept : ∀ n, Build.kept n = n % UInt64.size := fun n => by
    unfold Build.kept
    rw [h]
  rw [hkept]
  cases v <;>
  · simp [Variant.address, Variant.place, Variant.base, Variant.step, Build.product_of_wrapped h,
      Build.sum_of_wrapped h, ok_bind, Nat.mul_assoc, UInt64.size]
    omega

end Addresses

section

variable [Elementary] [Build] {d : Detector} {extent : Extent} {outputs : List Tensor}

/-! ## Faults of decoding -/

omit [Elementary] in
lemma failsOnly_shapeChannels (layout : Layout) (shape : List ℕ) :
    FailsOnly Fault.IsOfInputOrSize (layout.shapeChannels shape) := by
  unfold Layout.shapeChannels
  split
  · exact (Build.failsOnly_product _).ofSize
  · exact (Build.failsOnly_product _).ofSize
  · split
    · simp
    · exact (Build.failsOnly_product _).ofSize

omit [Elementary] in
lemma failsOnly_checkEachShape (s : Settings) (expected : ℕ) (shapes : List (List ℕ)) :
    FailsOnly Fault.IsOfInputOrSize (s.checkEachShape expected shapes) := by
  induction shapes with
  | nil => exact FailsOnly.ok ()
  | cons shape rest ih =>
    have hshape : FailsOnly Fault.IsOfInputOrSize (s.checkShape expected shape) := by
      unfold Settings.checkShape
      split
      · simp
      · have hchannels := failsOnly_shapeChannels s.layout shape
        split
        · rename_i fault hfault
          exact FailsOnly.error_iff.2 (hchannels fault hfault)
        · split
          · exact FailsOnly.ok ()
          · simp
    unfold Settings.checkEachShape
    split
    · rename_i fault hfault
      exact FailsOnly.error_iff.2 (hshape fault hfault)
    · exact ih

omit [Elementary] in
lemma failsOnly_checkShapes (s : Settings) (shapes : List (List ℕ)) :
    FailsOnly Fault.IsOfInputOrSize (s.checkShapes shapes) := by
  have hcells : FailsOnly Fault.IsOfInputOrSize s.cellChannels :=
    (Build.failsOnly_sum _).ofSize.bind fun channels _ => (Build.failsOnly_product _).ofSize
  unfold Settings.checkShapes
  split
  · simp
  · exact hcells.bind fun expected _ => failsOnly_checkEachShape s expected shapes

lemma failsOnly_layer (s : Settings) (shape : List ℕ) (modelWidth : ℕ) :
    FailsOnly Fault.IsOfInputOrSize (s.layer shape modelWidth) := by
  have hstart : ∀ halved, FailsOnly Fault.IsOfInputOrSize (s.sliceStart halved) := fun halved =>
    (Build.failsOnly_int64 _).ofSize.bind fun last _ =>
      (Build.failsOnly_int64 _).ofSize.bind fun slice _ => (Build.failsOnly_int64 _).ofSize
  refine (hstart _).bind fun start _ => (Build.failsOnly_int64 _).ofSize.bind fun stop _ => ?_
  split_ifs
  · simp
  · simp [Fault.IsOfInputOrSize, Fault.IsOverflow]
  · exact FailsOnly.ok _

lemma failsOnly_layerData (d : Detector) (modelWidth : ℕ) (output : Tensor) :
    FailsOnly Fault.IsOfInputOrSize (d.layerData modelWidth output) := by
  have hcount : ∀ layer, FailsOnly Fault.IsOfInputOrSize (d.elementCount layer) := fun layer =>
    (Build.failsOnly_sum _).ofSize.bind fun channels _ => (Build.failsOnly_product _).ofSize
  refine (failsOnly_layer _ _ _).bind fun layer _ => (hcount layer).bind fun count _ => ?_
  split
  · simp
  · have hvalues := output.failsOnly_floatsCovering (count - 1)
    exact hvalues.ofInput.ofInputOrSize.bind fun values _ => FailsOnly.ok _

lemma failsOnly_layers (d : Detector) (outputs : List Tensor) (extent : Extent) :
    FailsOnly Fault.IsOfInputOrSize (d.layers outputs extent) := by
  refine extent.failsOnly_checkModel.ofInputOrSize.bind fun _ _ => ?_
  refine (failsOnly_checkShapes _ _).bind fun _ _ => ?_
  exact FailsOnly.mapM fun output _ => failsOnly_layerData d extent.modelWidth output

/-- Once there are layers, and nothing was cut off their numbers of elements, only an object off
every picture is refused. -/
lemma failsOnly_decode_of_layers {layers : List LayerData}
    (h : d.layers outputs extent = .ok layers) (hfits : ∀ data ∈ layers, d.FitsWord data.layer) :
    FailsOnly Fault.IsOfInput (d.decode outputs extent) := by
  unfold Detector.decode
  rw [candidates_eq_ok_of_layers h hfits, ok_bind]
  exact DetectedObject.failsOnly_suppress _ _ _

/-- A build that gives up at an overflow reads nothing outside of a buffer. -/
lemma failsOnly_decode (hcaught : Build.overflow = .caught) (d : Detector) (outputs : List Tensor)
    (extent : Extent) : FailsOnly Fault.IsOfInputOrSize (d.decode outputs extent) := by
  cases hlayers : d.layers outputs extent with
  | error fault =>
    unfold Detector.decode
    rw [candidates_eq_bind_layers, hlayers]
    exact FailsOnly.error_iff.2 (failsOnly_layers d outputs extent fault hlayers)
  | ok layers =>
    exact (failsOnly_decode_of_layers hlayers fun _ _ => .inl hcaught).ofInputOrSize

end

/-- **Every element of an output is one channel.**  In every layout the cells, anchors and
channels of a layer correspond to the elements of its output, each to another one and none left
over.  Take a buffer that was found to be long enough, and let nothing be cut off the number of
elements; then the buffer has room for all of them, and the address of each is computed in words as
it is.  So decoding reads nothing outside of a buffer once the layers are there: it fails only
because of what was given.  A build that gives up at an overflow sees to it by itself, and one that
goes on reads at what is left of the index. -/
theorem bijOn_placeOf_and_reads_within [Elementary] [Build] (d : Detector) :
    (∀ layer, Set.BijOn (d.variant.placeOf (d.extents layer)) (d.extents layer).positions
        (Set.Iio (d.extents layer).count)) ∧
      (∀ modelWidth output data, d.layerData modelWidth output = .ok data →
        d.FitsWord data.layer → ∀ p ∈ (d.extents data.layer).positions,
          d.variant.address (d.dimensions data.layer) p.1 p.2.1 p.2.2 =
              .ok (d.variant.placeOf (d.extents data.layer) p) ∧
            d.variant.placeOf (d.extents data.layer) p < data.values.size) ∧
      (∀ outputs extent layers, d.layers outputs extent = .ok layers →
        (∀ data ∈ layers, d.FitsWord data.layer) →
          FailsOnly Fault.IsOfInput (d.decode outputs extent)) ∧
      (Build.overflow = .caught → (∀ layer, d.FitsWord layer) ∧
        ∀ outputs extent, FailsOnly Fault.IsOfInputOrSize (d.decode outputs extent)) ∧
      (Build.overflow = .wrapped → ∀ layer p,
        d.variant.address (d.dimensions layer) p.1 p.2.1 p.2.2 =
          .ok (Build.kept (d.variant.placeOf (d.dimensions layer) p))) := by
  refine ⟨fun layer => bijOn_placeOf d.variant (d.extents layer), ?_,
    fun outputs extent layers => failsOnly_decode_of_layers,
    fun hcaught => ⟨fun layer => .inl hcaught, failsOnly_decode hcaught d⟩,
    fun hwrapped layer p => address_of_wrapped d.variant hwrapped⟩
  rintro modelWidth output data hdata hfits ⟨cell, anchor, channel⟩ ⟨hcell, hanchor, hchannel⟩
  obtain ⟨hword, hcovers⟩ := count_of_layerData_eq_ok hdata hfits
  rw [dimensions_eq hfits hcell hanchor]
  exact ⟨address_eq_ok d.variant hcell hanchor hchannel hword,
    (d.variant.place_lt hcell hanchor hchannel).trans_le hcovers⟩

/-! ## Two anchors -/

/-- A detector of one class with two anchors, for outputs in channel blocks. -/
def twoAnchorDetector : Detector where
  settings :=
    { classes := ⟨1, 0.25, [0.25], true⟩
      objectnessThreshold := 0.25
      overlapThreshold := 0.5
      anchorsPerCell := 2
      anchorSizes := [10.0, 13.0, 16.0, 30.0]
      layerCount := 1
      version := 5
      layout := .channelBlocks
      framework := .pytorch }
  variant := .channelBlocks

/-- An output of two cells: the class of the second anchor of the second cell comes last. -/
theorem placeOf_lt_twoAnchorDetector :
    ∃ data, @Detector.layerData coarseElementary _ twoAnchorDetector 64
        ⟨[1, 2, 1, 2, 6], .float (Array.replicate 24 0.0)⟩ = .ok data ∧
      (1, 1, 5) ∈ (twoAnchorDetector.dimensions data.layer).positions ∧
      twoAnchorDetector.variant.placeOf (twoAnchorDetector.dimensions data.layer) (1, 1, 5) = 23 ∧
      twoAnchorDetector.variant.placeOf (twoAnchorDetector.dimensions data.layer) (1, 1, 5) <
        data.values.size := by
  have hlayer : @Settings.layer coarseElementary _ twoAnchorDetector.settings [1, 2, 1, 2, 6] 64 =
      .ok ⟨2, 1, [10.0, 13.0, 16.0, 30.0]⟩ := by
    decide
  have hdata := @layerData_of_size_eq coarseElementary twoAnchorDetector _
    (Array.replicate 24 0.0) _ _ hlayer rfl
  have hposition : (1, 1, 5) ∈
      (twoAnchorDetector.dimensions ⟨2, 1, [10.0, 13.0, 16.0, 30.0]⟩).positions := by
    change 1 < 2 ∧ 1 < 2 ∧ 5 < 6
    decide
  obtain ⟨-, hwithin, -⟩ := @bijOn_placeOf_and_reads_within coarseElementary _ twoAnchorDetector
  exact ⟨_, hdata, hposition, rfl, (hwithin 64 _ _ hdata (.inl rfl) _ hposition).2⟩

/-- A detector of one class, one layer and one anchor. -/
def oneAnchorDetector : Detector where
  settings :=
    { classes := ⟨1, 0.25, [0.25], true⟩
      objectnessThreshold := 0.25
      overlapThreshold := 0.5
      anchorsPerCell := 1
      anchorSizes := [10.0, 13.0]
      layerCount := 1
      version := 3
      layout := .channelsLast
      framework := .tensorflow }
  variant := .channelsLast

/-- Two to the power of 63 and one cells, with a buffer for one of them. -/
def tallOutput : Tensor :=
  ⟨[1, 0x8000000000000001, 1, 6], .float (Array.replicate 6 (-200.0))⟩

/-- The layer of that output. -/
def tallData : LayerData :=
  ⟨⟨1, 0x8000000000000001, [10.0, 13.0]⟩, Array.replicate 6 (-200.0)⟩

/-- The build that goes on is left with six elements, so the buffer passes for long enough. -/
lemma layerData_tallOutput :
    @Detector.layerData coarseElementary .wrapping oneAnchorDetector 32 tallOutput =
      .ok tallData := by
  have hlayer : @Settings.layer coarseElementary .wrapping oneAnchorDetector.settings
      tallOutput.shape 32 = .ok tallData.layer := by
    decide
  have hcount : @Detector.elementCount .wrapping oneAnchorDetector tallData.layer = .ok 6 := rfl
  unfold Detector.layerData
  rw [hlayer, ok_bind, hcount, ok_bind, if_neg (by decide), tallOutput,
    Tensor.floatsCovering_of_lt (by decide)]
  rfl

lemma layers_tallOutput :
    @Detector.layers coarseElementary .wrapping oneAnchorDetector [tallOutput] ⟨32, 32, 32, 32⟩ =
      .ok [tallData] := by
  have hshapes : @Settings.checkShapes .wrapping oneAnchorDetector.settings
      [tallOutput.shape] = .ok () := rfl
  have hmodel : Extent.checkModel ⟨32, 32, 32, 32⟩ = .ok () := by decide
  unfold Detector.layers
  rw [hmodel, ok_bind, List.map_singleton, hshapes, ok_bind, List.mapM_cons, layerData_tallOutput]
  rfl

/-- The places of at least two cells with one anchor each. -/
lemma exists_places_eq_cons (n channels : ℕ) :
    ∃ rest, Dimensions.places ⟨n + 2, 1, channels⟩ = (0, 0) :: (1, 0) :: rest := by
  have hcells : List.range (n + 2) = 0 :: 1 :: ((List.range n).map Nat.succ).map Nat.succ := by
    rw [List.range_succ_eq_map, List.range_succ_eq_map]
    rfl
  unfold Dimensions.places
  rw [hcells]
  exact ⟨_, rfl⟩

/-- Already the second cell is beyond the buffer. -/
lemma decode_tallOutput :
    @Detector.decode coarseElementary .wrapping oneAnchorDetector [tallOutput] ⟨32, 32, 32, 32⟩ =
      .error (.tensor (.outside 6 10)) := by
  have hfirst : @Detector.candidate? coarseElementary .wrapping oneAnchorDetector ⟨32, 32, 32, 32⟩
      tallData 0 0 = .ok none := rfl
  have hsecond : @Detector.candidate? coarseElementary .wrapping oneAnchorDetector
      ⟨32, 32, 32, 32⟩ tallData 1 0 = .error (.tensor (.outside 6 10)) := rfl
  have hdimensions : @Detector.dimensions .wrapping oneAnchorDetector tallData.layer =
      ⟨0x7FFFFFFFFFFFFFFF + 2, 1, 6⟩ := rfl
  obtain ⟨rest, hplaces⟩ := exists_places_eq_cons 0x7FFFFFFFFFFFFFFF 6
  have hobjects : @Detector.layerObjects coarseElementary .wrapping oneAnchorDetector
      ⟨32, 32, 32, 32⟩ tallData = .error (.tensor (.outside 6 10)) := by
    unfold Detector.layerObjects
    rw [hdimensions, hplaces, List.mapM_cons, List.mapM_cons, hfirst, hsecond]
    rfl
  unfold Detector.decode
  rw [@candidates_eq_bind_layers coarseElementary .wrapping, layers_tallOutput, ok_bind,
    List.mapM_cons, hobjects]
  rfl

/-- **A count that was cut off admits a buffer that is too short.**  The build that goes on at an
overflow then reads outside of it; the build that gives up does so before it looks at the buffer. -/
theorem exists_place_outside_tallOutput :
    @Detector.layerData coarseElementary .wrapping oneAnchorDetector 32 tallOutput =
        .ok tallData ∧
      (1, 0, 4) ∈ (oneAnchorDetector.extents tallData.layer).positions ∧
      ¬ oneAnchorDetector.variant.placeOf (oneAnchorDetector.extents tallData.layer) (1, 0, 4) <
        tallData.values.size ∧
      @Detector.decode coarseElementary .wrapping oneAnchorDetector [tallOutput]
        ⟨32, 32, 32, 32⟩ = .error (.tensor (.outside 6 10)) ∧
      @Detector.decode coarseElementary _ oneAnchorDetector [tallOutput] ⟨32, 32, 32, 32⟩ =
        .error .overflow := by
  have hposition : (1, 0, 4) ∈ (oneAnchorDetector.extents tallData.layer).positions := by
    change 1 < 0x8000000000000001 ∧ 0 < 1 ∧ 4 < 6
    decide
  have hplace : ¬ oneAnchorDetector.variant.placeOf (oneAnchorDetector.extents tallData.layer)
      (1, 0, 4) < tallData.values.size := by
    change ¬ 10 < 6
    decide
  exact ⟨layerData_tallOutput, hposition, hplace, decode_tallOutput, rfl⟩

end Yolo
end Detection
