/-
# Reading within a range

A reader that is given a range refuses what is below it and what is above it.  A missing number is
neither, so where the text under a key is a word for a missing number, a reader of numbers with a
fraction lets it pass, whatever the range.  Everything else that is read within a range lies in it,
and so does what a reader falls back on.

## Main definitions

* `Settings.NamesMissing`: the text under a key is a word for a missing number.
* `KeepsRange`: readers of a kind of number keep to their ranges, some keys apart.
* `ClassSettings.fractions` and its like: what is read between zero and one, with the keys.

The main result is `keepsRange_unless_missing`.
-/
import Detection.Ctpn.Settings
import Detection.FasterRcnn.Settings
import Detection.Proofs.Number.Missing
import Detection.Proofs.Outcome
import Detection.Yolo.Settings

namespace Detection

/-- The text under a key is a word for a missing number. -/
def Settings.NamesMissing (s : Settings) (key : String) : Prop :=
  ∃ text, s.get? key = some text ∧ Text.SpellsMissing text.toList

/-- Readers of a kind of number keep to every range that has a default in it, except for the keys
that escape them. -/
structure KeepsRange (α : Type) [SettingValue α] [LE α] (s : Settings) (escapes : String → Prop) :
    Prop where
  /-- What is read lies in the range, unless the key escapes. -/
  readWithin? : ∀ (key : String) (low default high value : α), low ≤ default → default ≤ high →
    s.readWithin? key low high = .ok (some value) →
      (low ≤ value ∧ value ≤ high ↔ ¬ escapes key)
  /-- What is read or fallen back on lies in the range, unless the key escapes. -/
  readOr : ∀ (key : String) (low default high : α), low ≤ default → default ≤ high →
    (low ≤ s.readOr key default low high ∧ s.readOr key default low high ≤ high ↔ ¬ escapes key)

/-! ## What readers look at -/

namespace Settings

variable {α : Type} [SettingValue α] {s : Settings} {key : String} {default low high value : α}

lemma readWithin?_eq_ok_some_iff : s.readWithin? key low high = .ok (some value) ↔
    ∃ text, s.get? key = some text ∧ SettingValue.read? text.toList = some value ∧
      ¬ value < low ∧ ¬ high < value := by
  unfold readWithin? read?
  cases s.get? key with
  | none => simp
  | some text =>
    cases hreads : (SettingValue.read? text.toList : Option α) with
    | none => simp [hreads]
    | some found =>
      by_cases hrange : found < low ∨ high < found
      · have hout : ∀ value, found = value → ¬ value < low → high < value := by
          rintro value rfl hlow
          exact hrange.resolve_left hlow
        simpa [hreads, hrange] using hout value
      · have hin : found = value → ¬ value < low ∧ ¬ high < value := by
          rintro rfl
          exact not_or.1 hrange
        simpa [hreads, hrange] using hin

/-- What a reader gives is a value that it has read within the range, or the default. -/
lemma readOr_cases (s : Settings) (key : String) (default low high : α) :
    s.readWithin? key low high = .ok (some (s.readOr key default low high)) ∨
      s.readOr key default low high = default ∧
        ∀ value, s.readWithin? key low high ≠ .ok (some value) := by
  unfold readOr
  rcases s.readWithin? key low high with fault | _ | value
  · simp
  · simp
  · simp

/-- Nothing above the range is read, nor fallen back on if the default is not. -/
lemma not_lt_readOr (s : Settings) (key : String) {default low high : α}
    (h : ¬ high < default) : ¬ high < s.readOr key default low high := by
  rcases s.readOr_cases key default low high with hread | ⟨hdefault, -⟩
  · obtain ⟨text, -, -, -, hle⟩ := readWithin?_eq_ok_some_iff.1 hread
    exact hle
  · rwa [hdefault]

/-- Nothing below the range is read, nor fallen back on if the default is not. -/
lemma not_readOr_lt (s : Settings) (key : String) {default low high : α}
    (h : ¬ default < low) : ¬ s.readOr key default low high < low := by
  rcases s.readOr_cases key default low high with hread | ⟨hdefault, -⟩
  · obtain ⟨text, -, -, hle, -⟩ := readWithin?_eq_ok_some_iff.1 hread
    exact hle
  · rwa [hdefault]

end Settings

/-! ## Kinds of number -/

/-- The values of a kind compare as numbers do.  Some are missing: they compare with none, and
certain texts, and no others, are read as such. -/
structure ReadsNumbers (α : Type) [SettingValue α] [LE α] (isMissing : α → Bool)
    (spells : List Char → Prop) : Prop where
  not_lt_iff : ∀ {a b : α}, isMissing a = false → isMissing b = false → (¬ a < b ↔ b ≤ a)
  there_of_lt : ∀ {a b : α}, a < b → isMissing a = false ∧ isMissing b = false
  there_of_le : ∀ {a b : α}, a ≤ b → isMissing a = false ∧ isMissing b = false
  spells_iff : ∀ {text : List Char},
    spells text ↔ ∃ a : α, SettingValue.read? text = some a ∧ isMissing a = true

namespace ReadsNumbers

variable {α : Type} [SettingValue α] [LE α] {isMissing : α → Bool} {spells : List Char → Prop}

lemma keepsRange (h : ReadsNumbers α isMissing spells) (s : Settings) :
    KeepsRange α s fun key => ∃ text, s.get? key = some text ∧ spells text.toList := by
  have hread : ∀ (key : String) (low default high value : α), low ≤ default → default ≤ high →
      s.readWithin? key low high = .ok (some value) →
        (low ≤ value ∧ value ≤ high ↔
          ¬ ∃ text, s.get? key = some text ∧ spells text.toList) := by
    intro key low default high value hlow hhigh hvalue
    obtain ⟨text, htext, hreads, hbelow, habove⟩ := Settings.readWithin?_eq_ok_some_iff.1 hvalue
    have hmissing : (∃ text, s.get? key = some text ∧ spells text.toList) ↔
        isMissing value = true := by
      simp [htext, h.spells_iff, hreads]
    rw [hmissing, Bool.not_eq_true]
    constructor
    · intro hrange
      exact (h.there_of_le hrange.1).2
    · intro hthere
      exact ⟨(h.not_lt_iff hthere (h.there_of_le hlow).1).1 hbelow,
        (h.not_lt_iff (h.there_of_le hhigh).2 hthere).1 habove⟩
  refine ⟨hread, fun key low default high hlow hhigh => ?_⟩
  obtain hvalue | ⟨hdefault, hnone⟩ := s.readOr_cases key default low high
  · exact hread key low default high _ hlow hhigh hvalue
  · rw [hdefault]
    refine iff_of_true ⟨hlow, hhigh⟩ ?_
    -- A missing number would have been read, since it is neither below nor above the range.
    rintro ⟨text, htext, hspells⟩
    obtain ⟨value, hreads, hmissing⟩ := h.spells_iff.1 hspells
    refine hnone value (Settings.readWithin?_eq_ok_some_iff.2 ⟨text, htext, hreads, ?_, ?_⟩)
    · intro hlt
      exact Bool.eq_false_iff.1 (h.there_of_lt hlt).1 hmissing
    · intro hlt
      exact Bool.eq_false_iff.1 (h.there_of_lt hlt).2 hmissing

/-- Of integers none is missing. -/
lemma keepsRange_of_not_lt_iff (h : ∀ a b : α, ¬ a < b ↔ b ≤ a) (s : Settings) :
    KeepsRange α s fun _ => False := by
  have hreads : ReadsNumbers α (fun _ => false) fun _ => False :=
    ⟨fun _ _ => h _ _, fun _ => ⟨rfl, rfl⟩, fun _ => ⟨rfl, rfl⟩, by simp⟩
  simpa using hreads.keepsRange s

lemma float32 : ReadsNumbers Float32 Float32.isNaN Text.SpellsMissing where
  not_lt_iff := Float32.not_lt
  there_of_lt h := by
    obtain ⟨ha, hb, -⟩ := Float32.lt_iff.1 h
    exact ⟨ha, hb⟩
  there_of_le h := by
    obtain ⟨ha, hb, -⟩ := Float32.le_iff.1 h
    exact ⟨ha, hb⟩
  spells_iff := by
    intro text
    rw [← Text.numeral?_eq_missing_iff]
    simp only [SettingValue.read?, Option.map_eq_some_iff, exists_exists_and_eq_and,
      Numeral.isNaN_toFloat32_iff, exists_eq_right]

lemma float : ReadsNumbers Float Float.isNaN Text.SpellsMissing where
  not_lt_iff := Float.not_lt
  there_of_lt h := by
    obtain ⟨ha, hb, -⟩ := Float.lt_iff.1 h
    exact ⟨ha, hb⟩
  there_of_le h := by
    obtain ⟨ha, hb, -⟩ := Float.le_iff.1 h
    exact ⟨ha, hb⟩
  spells_iff := by
    intro text
    rw [← Text.numeral?_eq_missing_iff]
    simp only [SettingValue.read?, Option.map_eq_some_iff, exists_exists_and_eq_and,
      Numeral.isNaN_toFloat_iff, exists_eq_right]

end ReadsNumbers

/-! ## Fractions -/

/-- The fraction that detectors of objects are told about classes, with its key. -/
def ClassSettings.fractions (c : ClassSettings) : List (String × Float32) :=
  [("SCORE_THRESH", c.scoreThreshold)]

/-- The fractions that a grid detector is told, with their keys. -/
def Yolo.Settings.fractions (d : Yolo.Settings) : List (String × Float32) :=
  ("OBJECTNESS_THRESH", d.objectnessThreshold) :: ("IOU_THRESH", d.overlapThreshold) ::
    d.classes.fractions

/-- The fractions that a region detector is told, with their keys. -/
def FasterRcnn.Settings.fractions (d : FasterRcnn.Settings) : List (String × Float32) :=
  ("IOU_THRESH", d.overlapThreshold) :: d.classes.fractions

/-- The fractions that a text detector is told, with their keys. -/
def Ctpn.Settings.fractions (d : Ctpn.Settings) : List (String × Float32) :=
  [("BOX_IOU_THRESH", d.boxOverlap), ("TEXT_IOU_THRESH", d.textOverlap),
    ("TEXT_PROPOSALS_MIN_SCORE", d.minScore), ("LINE_MIN_SCORE", d.minLineScore)]

/-- Each value lies between zero and one, unless the text under its key is a word for a missing
number. -/
def Settings.KeepsFractions (s : Settings) (fractions : List (String × Float32)) : Prop :=
  ∀ f ∈ fractions, (0.0 ≤ f.2 ∧ f.2 ≤ 1.0 ↔ ¬ s.NamesMissing f.1)

section Fractions

variable {s : Settings}

lemma readOr_fraction (s : Settings) (key : String) {default : Float32} (hlow : 0.0 ≤ default)
    (hhigh : default ≤ 1.0) :
    0.0 ≤ s.readOr key default 0.0 1.0 ∧ s.readOr key default 0.0 1.0 ≤ 1.0 ↔
      ¬ s.NamesMissing key :=
  (ReadsNumbers.float32.keepsRange s).readOr key 0.0 default 1.0 hlow hhigh

lemma keepsFractions_classes {c : ClassSettings} (h : ClassSettings.ofSettings s = .ok c) :
    s.KeepsFractions c.fractions := by
  obtain ⟨thresholds, -, h⟩ := exists_of_bind_eq_ok h
  cases h
  intro f hf
  obtain rfl := List.mem_singleton.1 hf
  exact readOr_fraction s "SCORE_THRESH" rfl rfl

lemma keepsFractions_yolo {d : Yolo.Settings} (h : Yolo.Settings.ofSettings s = .ok d) :
    s.KeepsFractions d.fractions := by
  obtain ⟨classes, hclasses, h⟩ := exists_of_bind_eq_ok h
  obtain ⟨layout, -, h⟩ := exists_of_bind_eq_ok h
  obtain ⟨sizes, -, h⟩ := exists_of_bind_eq_ok h
  cases h
  intro f hf
  simp only [Yolo.Settings.fractions, List.mem_cons] at hf
  rcases hf with rfl | rfl | hf
  · exact readOr_fraction s "OBJECTNESS_THRESH" rfl rfl
  · exact readOr_fraction s "IOU_THRESH" rfl rfl
  · exact keepsFractions_classes hclasses f hf

lemma keepsFractions_fasterRcnn {d : FasterRcnn.Settings}
    (h : FasterRcnn.Settings.ofSettings s = .ok d) : s.KeepsFractions d.fractions := by
  obtain ⟨classes, hclasses, h⟩ := exists_of_bind_eq_ok h
  cases h
  intro f hf
  simp only [FasterRcnn.Settings.fractions, List.mem_cons] at hf
  rcases hf with rfl | hf
  · exact readOr_fraction s "IOU_THRESH" rfl rfl
  · exact keepsFractions_classes hclasses f hf

lemma keepsFractions_ctpn (s : Settings) :
    s.KeepsFractions (Ctpn.Settings.ofSettings s).fractions := by
  intro f hf
  simp only [Ctpn.Settings.fractions, List.mem_cons, List.not_mem_nil, or_false] at hf
  rcases hf with rfl | rfl | rfl | rfl
  · exact readOr_fraction s "BOX_IOU_THRESH" rfl rfl
  · exact readOr_fraction s "TEXT_IOU_THRESH" rfl rfl
  · exact readOr_fraction s "TEXT_PROPOSALS_MIN_SCORE" rfl rfl
  · exact readOr_fraction s "LINE_MIN_SCORE" rfl rfl

end Fractions

/-- **Readers keep to their ranges, missing numbers apart.**  An integer that is read within a
range, or fallen back on, lies in the range; a number with a fraction does so exactly if the text
under its key is no word for a missing number.  The fractions that detectors are told lie between
zero and one on the same condition. -/
theorem keepsRange_unless_missing (s : Settings) :
    (KeepsRange UInt64 s (fun _ => False) ∧ KeepsRange UInt32 s (fun _ => False) ∧
      KeepsRange Int64 s (fun _ => False) ∧ KeepsRange Int32 s (fun _ => False)) ∧
    (KeepsRange Float32 s s.NamesMissing ∧ KeepsRange Float s s.NamesMissing) ∧
    (∀ c, ClassSettings.ofSettings s = .ok c → s.KeepsFractions c.fractions) ∧
    (∀ d, Yolo.Settings.ofSettings s = .ok d → s.KeepsFractions d.fractions) ∧
    (∀ d, FasterRcnn.Settings.ofSettings s = .ok d → s.KeepsFractions d.fractions) ∧
    s.KeepsFractions (Ctpn.Settings.ofSettings s).fractions := by
  refine ⟨⟨?_, ?_, ?_, ?_⟩,
    ⟨ReadsNumbers.float32.keepsRange s, ReadsNumbers.float.keepsRange s⟩,
    fun c => keepsFractions_classes, fun d => keepsFractions_yolo,
    fun d => keepsFractions_fasterRcnn, keepsFractions_ctpn s⟩
  · exact ReadsNumbers.keepsRange_of_not_lt_iff (fun a b => UInt64.not_lt) s
  · exact ReadsNumbers.keepsRange_of_not_lt_iff (fun a b => UInt32.not_lt) s
  · exact ReadsNumbers.keepsRange_of_not_lt_iff (fun a b => Int64.not_lt) s
  · exact ReadsNumbers.keepsRange_of_not_lt_iff (fun a b => Int32.not_lt) s

/-- Settings in which one threshold is a fraction and another one is a word for a missing number. -/
def partlyMissing : Settings :=
  .ofList [("CLASS_NUM", "1"), ("SCORE_THRESH", "-NaN"), ("IOU_THRESH", "0.75"),
    ("BIASES", "10,13"), ("BIASES_NUM", "2")]

/-- What these settings say about classes. -/
def oneClassWithoutThreshold : ClassSettings := ⟨1, 0.0 / 0.0, [0.0 / 0.0], true⟩

/-- What these settings say about a grid detector. -/
def gridWithoutThreshold : Yolo.Settings :=
  ⟨oneClassWithoutThreshold, 0.3, 0.75, 3, [10.0, 13.0], 3, 3, .channelsLast, .tensorflow⟩

/-- What these settings say about a region detector. -/
def regionsWithoutThreshold : FasterRcnn.Settings :=
  ⟨oneClassWithoutThreshold, 0.75, .perClass, 0, 0, 1, 2, 1, 2, 3⟩

theorem keepsRange_partlyMissing :
    ((0 : UInt64) ≤ 80 ∧ (80 : UInt64) ≤ 1000 ∧
      partlyMissing.readWithin? "CLASS_NUM" (0 : UInt64) 1000 = .ok (some 1) ∧
      (0 : UInt64) ≤ 1 ∧ (1 : UInt64) ≤ 1000) ∧
    ((0.0 : Float32) ≤ 0.45 ∧ (0.45 : Float32) ≤ 1.0 ∧
      partlyMissing.readWithin? "IOU_THRESH" (0.0 : Float32) 1.0 = .ok (some 0.75) ∧
      ¬ partlyMissing.NamesMissing "IOU_THRESH") ∧
    (ClassSettings.ofSettings partlyMissing = .ok oneClassWithoutThreshold ∧
      partlyMissing.NamesMissing "SCORE_THRESH") ∧
    (Yolo.Settings.ofSettings partlyMissing = .ok gridWithoutThreshold ∧
      partlyMissing.KeepsFractions gridWithoutThreshold.fractions) ∧
    (FasterRcnn.Settings.ofSettings partlyMissing = .ok regionsWithoutThreshold ∧
      partlyMissing.KeepsFractions regionsWithoutThreshold.fractions) := by
  obtain ⟨⟨hcount, -⟩, ⟨hfraction, -⟩, hclasses, hyolo, hregions, -⟩ :=
    keepsRange_unless_missing partlyMissing
  have hone : partlyMissing.readWithin? "CLASS_NUM" (0 : UInt64) 1000 = .ok (some 1) := rfl
  have hquarters : partlyMissing.readWithin? "IOU_THRESH" (0.0 : Float32) 1.0 =
      .ok (some 0.75) := rfl
  have htold : ClassSettings.ofSettings partlyMissing = .ok oneClassWithoutThreshold := rfl
  have htold' : Yolo.Settings.ofSettings partlyMissing = .ok gridWithoutThreshold := rfl
  have htold'' : FasterRcnn.Settings.ofSettings partlyMissing = .ok regionsWithoutThreshold := rfl
  refine ⟨⟨by decide, by decide, hone, ?_⟩, ⟨rfl, rfl, hquarters, ?_⟩,
    ⟨htold, ?_⟩, ⟨htold', hyolo _ htold'⟩, ⟨htold'', hregions _ htold''⟩⟩
  · have hrange := hcount.readWithin? _ 0 80 1000 1 (by decide) (by decide) hone
    exact hrange.2 not_false
  · have hrange := hfraction.readWithin? _ 0.0 0.45 1.0 0.75 rfl rfl hquarters
    exact hrange.1 (by decide)
  · have hmissing := hclasses _ htold _ (List.mem_singleton.2 rfl)
    exact not_not.1 (hmissing.not.1 (by decide))

/-- A threshold that is no number is taken for one between zero and one. -/
theorem not_readOr_le_missingThreshold :
    ¬ ∀ (s : Settings) (key : String) (low default high : Float32), low ≤ default →
      default ≤ high → low ≤ s.readOr key default low high ∧
        s.readOr key default low high ≤ high := by
  intro hall
  have hrange := hall (.ofList [("IOU_THRESH", "nan")]) "IOU_THRESH" 0.0 0.45 1.0 rfl rfl
  exact absurd hrange.2 (by decide)

end Detection
