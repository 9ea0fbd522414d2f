/-
# Grids without columns

The shapes of outputs are checked for their channels only, so a grid may have no columns.  Its
level is the lowest number there is, and where its anchors begin does not fit into 64 bits.  A build
that gives up at an overflow does so there, before the output is found to be empty.  In a build that
goes on, what is cut off is such that the grid passes for the coarsest one, and it is refused
afterwards.  For every grid that has columns all that is computed fits.

The main result is `fitsInt64_iff_columns`.
-/
import Detection.Proofs.Settings.Ranges
import Detection.Proofs.Yolo.CommonThreshold
import Detection.Proofs.Yolo.Grids
import Detection.Proofs.Yolo.Pyramid

namespace Detection
namespace Yolo

/-! ## Settings that a detector is built from -/

namespace Settings

lemma length_of_readAnchorSizes_eq_ok {c : Detection.Settings} {count : ℕ} {sizes : List Float32}
    (h : readAnchorSizes c count = .ok sizes) : sizes.length = count := by
  unfold readAnchorSizes at h
  split at h
  · cases h
  · split at h
    · cases h
    · split at h
      · cases h
        assumption
      · cases h

/-- What is read about layers and anchors is limited. -/
lemma le_of_ofSettings_eq_ok {c : Detection.Settings} {s : Settings} (h : ofSettings c = .ok s) :
    s.layerCount ≤ 16 ∧ s.anchorSizes.length ≤ 100 := by
  obtain ⟨classes, -, h⟩ := exists_of_bind_eq_ok h
  obtain ⟨layout, -, h⟩ := exists_of_bind_eq_ok h
  obtain ⟨sizes, hsizes, h⟩ := exists_of_bind_eq_ok h
  have hlength := length_of_readAnchorSizes_eq_ok hsizes
  have hlayers : ¬ (16 : UInt64) < c.readOr "YOLO_TYPE" (3 : UInt64) 0 16 :=
    c.not_lt_readOr _ (by decide)
  have hcount : ¬ (100 : UInt64) < c.readOr "BIASES_NUM" (18 : UInt64) 0 100 :=
    c.not_lt_readOr _ (by decide)
  rw [UInt64.not_lt, UInt64.le_iff_toNat_le] at hlayers hcount
  cases h
  exact ⟨hlayers, hlength.trans_le hcount⟩

end Settings

lemma isModerate_of_built_eq_ok [Build] {c : Detection.Settings} {known : List (List ℕ)}
    {d : Detector} (h : built c known = .ok d) : d.settings.IsModerate := by
  obtain ⟨s, hs, h⟩ := exists_of_bind_eq_ok h
  obtain ⟨hsettings, hanchors⟩ := settings_and_anchors_of_build_eq_ok h
  obtain ⟨hlayers, hsizes⟩ := Settings.le_of_ofSettings_eq_ok hs
  rw [hsettings]
  refine ⟨hanchors, by omega, ?_⟩
  unfold FitsInt64 minInt64 maxInt64
  omega

/-! ## The layer of a grid without columns -/

namespace Settings

variable {s : Settings}

/-- Below the lowest number there is, nothing fits. -/
lemma not_fitsInt64_exactTerms_minInt64 (hlayers : 1 ≤ s.layerCount) :
    ¬ ∀ n ∈ s.exactTerms minInt64, FitsInt64 n := by
  intro hall
  have hfits := (hall (s.layerCount - 1 - minInt64) (by simp [exactTerms])).2
  unfold minInt64 maxInt64 at hfits
  omega

/-- All that is computed of a grid fits into 64 bits exactly if the grid has columns. -/
lemma IsModerate.forall_fitsInt64_iff [Elementary] (h : s.IsModerate)
    (hlog : IsLogarithm Elementary.log2) (hlayers : 1 ≤ s.layerCount) {columns modelWidth : ℕ}
    (hcolumns : columns < UInt64.size) (hmodel : 0 < modelWidth)
    (hmodel' : modelWidth < UInt32.size) :
    (∀ n ∈ s.exactTerms (level columns modelWidth), FitsInt64 n) ↔ 0 < columns := by
  -- Without columns already the second term is too large: all levels less the lowest number.
  rcases Nat.eq_zero_or_pos columns with rfl | hpos
  · rw [level_zero hlog hmodel hmodel']
    exact iff_of_false (not_fitsInt64_exactTerms_minInt64 hlayers) (lt_irrefl 0)
  · exact iff_of_true (h.fitsInt64 (level_mem hlog hpos hcolumns hmodel hmodel')) hpos

/-- The coarsest level is accepted if there are enough sizes for all levels. -/
lemma layerFrom_exactStart_zero (hlayers : 1 ≤ s.layerCount) (shape : List ℕ) :
    s.layerFrom shape (s.exactStart 0) =
      if s.layerCount * s.sliceLength ≤ s.anchorSizes.length then
        .ok ⟨shape.getD s.layout.widthAxis 0, shape.getD s.layout.heightAxis 0, s.levelAnchors 0⟩
      else .error (.yolo .anchorSlice) := by
  have hstart : s.exactStart 0 = (s.levelStart 0 : ℤ) := exactStart_natCast hlayers
  have hstop : s.levelStart 0 + s.sliceLength = s.layerCount * s.sliceLength := by
    obtain ⟨finer, hfiner⟩ := Nat.exists_eq_add_of_le hlayers
    rw [levelStart, hfiner, Nat.sub_zero, Nat.add_sub_cancel_left]
    ring
  have hrefused : s.exactStart 0 < 0 ∨
      (s.anchorSizes.length : ℤ) < s.exactStart 0 + s.sliceLength ↔
        ¬ s.layerCount * s.sliceLength ≤ s.anchorSizes.length := by
    rw [hstart, ← hstop]
    omega
  unfold layerFrom
  split_ifs with hout hin hin
  · exact absurd hin (hrefused.1 hout)
  · rfl
  · rw [hstart]
    rfl
  · exact absurd (hrefused.2 hin) hout

end Settings

/-- In a build that goes on, an output without cells is refused, if not for its anchors. -/
lemma layerData_of_no_columns [Elementary] [Build] (hwrapped : Build.overflow = .wrapped)
    {d : Detector} {modelWidth : ℕ} {output : Tensor} {layer : Layer}
    (h : d.settings.layer output.shape modelWidth = .ok layer) (hnone : layer.gridWidth = 0) :
    d.layerData modelWidth output = .error (.yolo .emptyOutput) := by
  have hcount : d.elementCount layer = .ok 0 := by
    unfold Detector.elementCount
    rw [Build.sum_of_wrapped hwrapped, ok_bind, Build.product_of_wrapped hwrapped, hnone,
      List.prod_cons, Nat.zero_mul]
    rfl
  unfold Detector.layerData
  rw [h, ok_bind, hcount, ok_bind, if_pos rfl]
  rfl

/-- **The anchors of every grid with columns are found without overflow, and of no other.**  Take a
detector that is built from any settings, a model that has a width, and a shape among those that
are accepted for the outputs of a frame.  Where the anchors of the grid begin and end, and all that
this is computed from, fits into 64 bits exactly if the grid has columns; and then the layer is the
one that is computed without a limit.  At a grid without columns a build that gives up at an
overflow gives up.  In a build that goes on, such a grid passes for one of the coarsest level: if
there are sizes for all levels it gets the anchors of that level, and its output is refused for
being empty; otherwise it is refused for its anchors. -/
theorem fitsInt64_iff_columns [Elementary] [Build] (hlog : IsLogarithm Elementary.log2)
    {c : Detection.Settings} {known : List (List ℕ)} {d : Detector}
    (hbuilt : built c known = .ok d) {modelWidth : ℕ} (hmodel : 0 < modelWidth)
    (hmodel' : modelWidth < UInt32.size) {shapes : List (List ℕ)}
    (hshapes : d.settings.checkShapes shapes = .ok ()) {shape : List ℕ} (hmem : shape ∈ shapes)
    {columns : ℕ} (hgrid : shape.getD d.settings.layout.widthAxis 0 = columns)
    (hcolumns : columns < UInt64.size) :
    ((∀ n ∈ d.settings.exactTerms (level columns modelWidth), FitsInt64 n) ↔ 0 < columns) ∧
      (0 < columns → d.settings.layer shape modelWidth =
        d.settings.layerFrom shape (d.settings.exactStart (level columns modelWidth))) ∧
      (columns = 0 → Build.overflow = .caught →
        d.settings.layer shape modelWidth = .error .overflow ∧
          ∀ output : Tensor, output.shape = shape →
            d.layerData modelWidth output = .error .overflow) ∧
      (columns = 0 → Build.overflow = .wrapped →
        d.settings.layer shape modelWidth =
            (if d.settings.layerCount * d.settings.sliceLength ≤ d.settings.anchorSizes.length then
              .ok ⟨0, shape.getD d.settings.layout.heightAxis 0, d.settings.levelAnchors 0⟩
            else .error (.yolo .anchorSlice)) ∧
          ∀ output : Tensor, output.shape = shape → d.layerData modelWidth output =
            .error (.yolo (if d.settings.layerCount * d.settings.sliceLength ≤
              d.settings.anchorSizes.length then .emptyOutput else .anchorSlice))) := by
  have hmoderate := isModerate_of_built_eq_ok hbuilt
  have hlayers : 1 ≤ d.settings.layerCount := by
    rw [← (Settings.checkShapes_eq_ok_iff.1 hshapes).1]
    exact List.length_pos_of_mem hmem
  refine ⟨hmoderate.forall_fitsInt64_iff hlog hlayers hcolumns hmodel hmodel', ?_, ?_, ?_⟩
  · intro hpos
    subst hgrid
    exact Settings.layer_of_columns hmoderate hlog hmodel hmodel' hpos hcolumns
  · rintro rfl hcaught
    have hlayer := Settings.layer_of_no_columns_of_caught hmoderate hlog hmodel hmodel' hcaught
      hlayers hgrid
    refine ⟨hlayer, ?_⟩
    rintro output rfl
    unfold Detector.layerData
    rw [hlayer]
    rfl
  · rintro rfl hwrapped
    have hlayer := Settings.layer_of_no_columns_of_wrapped hmoderate hlog hmodel hmodel' hwrapped
      hgrid
    rw [Settings.layerFrom_exactStart_zero hlayers, hgrid] at hlayer
    refine ⟨hlayer, ?_⟩
    rintro output rfl
    split_ifs at hlayer ⊢ with henough
    · exact layerData_of_no_columns hwrapped hlayer rfl
    · unfold Detector.layerData
      rw [hlayer]
      rfl

/-- The detector of one class, one layer and one anchor. -/
def smallDetector : Detector where
  settings :=
    { classes := ⟨1, 0.3, [0.3], true⟩
      objectnessThreshold := 0.3
      overlapThreshold := 0.45
      anchorsPerCell := 1
      anchorSizes := [10.0, 13.0]
      layerCount := 1
      version := 3
      layout := .channelsLast
      framework := .tensorflow }
  variant := .channelsLast

lemma built_smallSettings : built smallSettings [[1, 1, 0, 6]] = .ok smallDetector := by
  rfl

lemma built_smallSettings_of_wrapping :
    @built .wrapping smallSettings [[1, 1, 0, 6]] = .ok smallDetector := by
  rfl

/-- A grid of one cell is on the coarsest level.  One without columns passes for such a grid where
what does not fit is cut off, and is given up otherwise. -/
theorem fitsInt64_iff_columns_smallDetector :
    IsLogarithm exponent ∧ built smallSettings [[1, 1, 0, 6]] = .ok smallDetector ∧
      smallDetector.settings.checkShapes [[1, 1, 1, 6]] = .ok () ∧
      smallDetector.settings.checkShapes [[1, 1, 0, 6]] = .ok () ∧
      @Settings.layer exponentElementary _ smallDetector.settings [1, 1, 1, 6] 32 =
        .ok ⟨1, 1, [10.0, 13.0]⟩ ∧
      @Detector.layerData exponentElementary _ smallDetector 32 ⟨[1, 1, 0, 6], .float #[]⟩ =
        .error .overflow ∧
      @Settings.layer exponentElementary .wrapping smallDetector.settings [1, 1, 0, 6] 32 =
        .ok ⟨0, 1, [10.0, 13.0]⟩ ∧
      @Detector.layerData exponentElementary .wrapping smallDetector 32
        ⟨[1, 1, 0, 6], .float #[]⟩ = .error (.yolo .emptyOutput) := by
  have hcell : smallDetector.settings.checkShapes [[1, 1, 1, 6]] = .ok () := by decide
  have hempty : smallDetector.settings.checkShapes [[1, 1, 0, 6]] = .ok () := by decide
  obtain ⟨-, hlayer, -⟩ := @fitsInt64_iff_columns exponentElementary _ isLogarithm_exponent _ _ _
    built_smallSettings 32 (by decide) (by decide) _ hcell _ (List.mem_singleton.2 rfl) 1 rfl
    (by decide)
  obtain ⟨-, -, hnone, -⟩ := @fitsInt64_iff_columns exponentElementary _ isLogarithm_exponent _ _ _
    built_smallSettings 32 (by decide) (by decide) _ hempty _ (List.mem_singleton.2 rfl) 0 rfl
    (by decide)
  obtain ⟨-, hgivenUp⟩ := hnone rfl rfl
  obtain ⟨-, -, -, hnone'⟩ := @fitsInt64_iff_columns exponentElementary .wrapping
    isLogarithm_exponent _ _ _ built_smallSettings_of_wrapping 32 (by decide) (by decide)
    [[1, 1, 0, 6]] rfl _ (List.mem_singleton.2 rfl) 0 rfl (by decide)
  obtain ⟨hlayer', hrefused⟩ := hnone' rfl rfl
  have hlevel : @level exponentElementary 1 32 = 0 := by decide
  refine ⟨isLogarithm_exponent, built_smallSettings, hcell, hempty, ?_, hgivenUp _ rfl, hlayer',
    hrefused _ rfl⟩
  rw [hlayer one_pos, hlevel]
  decide

/-- The only level less the lowest number there is does not fit, although the shape is accepted. -/
theorem not_fitsInt64_emptyGrid :
    ¬ ∀ [Elementary] (c : Detection.Settings) (known shapes : List (List ℕ)) (d : Detector)
        (modelWidth : ℕ) (shape : List ℕ),
      IsLogarithm Elementary.log2 → built c known = .ok d → 0 < modelWidth →
        modelWidth < UInt32.size → d.settings.checkShapes shapes = .ok () → shape ∈ shapes →
          ∀ n ∈ d.settings.exactTerms
            (level (shape.getD d.settings.layout.widthAxis 0) modelWidth), FitsInt64 n := by
  intro hall
  have hfits := @hall exponentElementary smallSettings [[1, 1, 0, 6]] [[1, 1, 0, 6]]
    smallDetector 32 [1, 1, 0, 6] isLogarithm_exponent built_smallSettings (by decide)
    (by decide) (by decide) (List.mem_singleton.2 rfl) 0x8000000000000000 (by decide)
  exact absurd hfits.2 (by decide)

end Yolo
end Detection
