/-
# Integers in recordings

The elements of all tensors of a file are read as 64-bit numbers, and those of a tensor of integers
are turned into integers afterwards.  So an integer of the file is loaded as it is if it needs no
more digits than such a number has, or if it is the largest one of 64 bits.  Other integers are
replaced by others.

## Main definitions

* `Json.Number.IsLiteral`: a number is written as an integer.
* `TensorRecord.IsIntegral`: a tensor is written as one of integers.
* `FrameRecord.IsTensorAt`: a value is where a file has a tensor.

The main result is `Recording.ofText_of_isIntegral`.
-/
import Detection.Proofs.Number.Integers
import Detection.Proofs.Recording.Frames

namespace Detection

/-! ## Integers as they are written -/

namespace Json

/-- A number is written as an integer: digits, perhaps with a minus before them, and no point and
no exponent. -/
def Number.IsLiteral (x : Number) (n : ℤ) : Prop :=
  ∃ s : Spelling, s.fraction = none ∧ s.exponent = none ∧
    n = (if s.negative then -(Text.digitsValue s.whole : ℤ) else Text.digitsValue s.whole) ∧
    Number.ofSpelling? s = some x

variable {digits : List Char} {x : Number} {n : ℤ}

lemma le_foldl_digitValue (value : ℕ) (digits : List Char) :
    value ≤ digits.foldl (fun value c => 10 * value + Text.digitValue c) value := by
  induction digits generalizing value with
  | nil => exact le_rfl
  | cons c rest ih =>
    exact le_trans (by omega) (ih (10 * value + Text.digitValue c))

/-- Digits whose value has 64 bits are all taken up. -/
lemma takeUp_eq {count : ℕ} (h : digits.foldl (fun value c => 10 * value + Text.digitValue c)
    count < UInt64.size) : Number.takeUp count digits =
      (digits.foldl (fun value c => 10 * value + Text.digitValue c) count, 0) := by
  induction digits generalizing count with
  | nil => rfl
  | cons c rest ih =>
    rw [List.foldl_cons] at h ⊢
    have hle := le_foldl_digitValue (10 * count + Text.digitValue c) rest
    rw [Number.takeUp, if_pos (hle.trans_lt h), ih h]

/-- Minus zero is a 64-bit number. -/
lemma ofSpelling?_negative_zero (h : Text.digitsValue digits = 0) :
    Number.ofSpelling? ⟨true, digits, none, none⟩ = some (.double (-0.0)) := by
  have htake : Number.takeUp 0 digits = (0, 0) := by
    have hlt : Text.digitsValue digits < UInt64.size := by
      rw [h]
      decide
    rw [takeUp_eq hlt, ← Text.digitsValue, h]
  have hscaled : Number.scaled? (Float.ofNat 0) 0 = some 0.0 := by
    rw [Number.scaled?]
    rfl
  have hdouble : Number.double? ⟨true, digits, none, none⟩ = some (-0.0) := by
    simp only [Number.double?, htake]
    change (Number.scaled? (Float.ofNat 0) 0).map _ = _
    rw [hscaled]
    rfl
  simp [Number.ofSpelling?, Number.integer?, h, hdouble]

/-- An integer of 64 bits is read as an integer, but for minus zero. -/
lemma ofSpelling?_eq (negative : Bool) (hn : n ∈ Set.Icc minInt64 maxInt64)
    (h : n = if negative then -(Text.digitsValue digits : ℤ) else Text.digitsValue digits)
    (hzero : negative = true → n ≠ 0) :
    Number.ofSpelling? ⟨negative, digits, none, none⟩ = some (.integer n) := by
  have hinteger : Number.integer? ⟨negative, digits, none, none⟩ = some n := by
    simp only [Set.mem_Icc, minInt64, maxInt64] at hn
    cases negative with
    | false =>
      rw [if_neg Bool.false_ne_true] at h
      have hsize : Text.digitsValue digits < UInt64.size := by
        simp only [UInt64.size]
        omega
      simp [Number.integer?, hsize, h]
    | true =>
      rw [if_pos rfl] at h
      have hne := hzero rfl
      have hlimit : Text.digitsValue digits ≠ 0 ∧
          Text.digitsValue digits ≤ minInt64.natAbs := by
        simp only [minInt64]
        omega
      simp [Number.integer?, hlimit, h]
  rw [Number.ofSpelling?, hinteger]

/-- An integer is read as a 64-bit number: the nearest one, but for minus zero. -/
lemma Number.IsLiteral.exists_double? (h : x.IsLiteral n) (hn : n ∈ Set.Icc minInt64 maxInt64) :
    ∃ a, (Json.number x).double? = some a ∧ wholePart64 a = wholePart64 (Float.ofInt n) := by
  obtain ⟨⟨negative, digits, fraction, exponent⟩, rfl, rfl, hvalue, hx⟩ := h
  by_cases hzero : negative = true → n ≠ 0
  · rw [ofSpelling?_eq negative hn hvalue hzero] at hx
    cases hx
    exact ⟨_, rfl, rfl⟩
  · push Not at hzero
    obtain ⟨rfl, rfl⟩ := hzero
    replace hvalue : (0 : ℤ) = -(Text.digitsValue digits : ℤ) := hvalue
    rw [ofSpelling?_negative_zero (by omega)] at hx
    cases hx
    exact ⟨_, rfl, rfl⟩

end Json

/-! ## Tensors of integers -/

namespace TensorRecord

/-- A tensor is written as one of integers, with these integers as its elements. -/
def IsIntegral (item : Json) (ns : List ℤ) : Prop :=
  ∃ kind shape numbers, item.fields? ["dtype", "shape", "data"] =
      some [some kind, some shape, some (.array (numbers.map .number))] ∧
    kind.word? = some "int64" ∧ List.Forall₂ Json.Number.IsLiteral numbers ns

variable {item : Json} {ns : List ℤ} {r : TensorRecord}

/-- Of the elements of such a tensor, those have the integers as integer parts that are short, and
the largest one. -/
lemma IsIntegral.of_ofJson? (h : IsIntegral item ns) (hn : ∀ n ∈ ns, n ∈ Set.Icc minInt64 maxInt64)
    (hread : TensorRecord.ofJson? item = some r) : r.kind = .integer ∧
      List.Forall₂ (fun n a => wholePart64 a = n ↔ IsShort n ∨ n = maxInt64) ns r.values := by
  obtain ⟨kind, shape, numbers, hfields, hkind, hnumbers⟩ := h
  simp only [TensorRecord.ofJson?, hfields, hkind, Json.items?, Option.bind_eq_bind,
    Option.bind_some, Option.bind_eq_some_iff, mapM_eq_some_iff, List.forall₂_map_left_iff]
    at hread
  obtain ⟨k, hk, extents, -, shape, -, values, hvalues, hr⟩ := hread
  cases hr
  cases hk
  refine ⟨rfl, ?_⟩
  dsimp only
  clear hfields
  induction hnumbers generalizing values with
  | nil =>
    cases hvalues
    exact .nil
  | cons hx _ ih =>
    cases hvalues with
    | cons hvalue hvalues =>
      rw [List.forall_mem_cons] at hn
      obtain ⟨a, ha, hwhole⟩ := hx.exists_double? hn.1
      obtain rfl : a = _ := Option.some.inj (ha.symm.trans hvalue)
      exact .cons (hwhole ▸ wholePart64_ofInt_eq_iff hn.1) (ih hn.2 _ hvalues)

lemma toInt_ofInt_wholePart64 (a : Float) :
    (Int64.ofInt (wholePart64 a)).toInt = wholePart64 a := by
  obtain ⟨hlow, hhigh⟩ := truncate_mem a.toModel.unpack
  exact Int64.toInt_ofInt_of_le hlow (Int.lt_add_one_of_le hhigh)

/-- Of the elements of such a tensor, those are loaded as they are that are short, and the largest
one. -/
lemma IsIntegral.exists_data (h : IsIntegral item ns)
    (hn : ∀ n ∈ ns, n ∈ Set.Icc minInt64 maxInt64) (hread : TensorRecord.ofJson? item = some r) :
    ∃ values : List Int64, r.data = .integer values.toArray ∧
      List.Forall₂ (fun n x => x.toInt = n ↔ IsShort n ∨ n = maxInt64) ns values := by
  obtain ⟨hkind, hvalues⟩ := h.of_ofJson? hn hread
  refine ⟨r.values.map fun x => Int64.ofInt (wholePart64 x), by rw [data, hkind], ?_⟩
  rw [List.forall₂_map_right_iff]
  refine hvalues.imp fun n a hiff => ?_
  rwa [toInt_ofInt_wholePart64]

end TensorRecord

namespace FrameRecord

/-- The values that describe the frames of a file: the whole value if it is one frame, or else its
items. -/
def items (value : Json) : List Json :=
  match FrameRecord.ofJson? value with
  | some _ => [value]
  | none => value.items?.getD []

/-- A value is where a file has a tensor, given by the index of its frame and its own. -/
def IsTensorAt (value : Json) (i j : ℕ) (item : Json) : Prop :=
  ∃ frame picture tensors tensorItems, (items value)[i]? = some frame ∧
    frame.fields? ["image", "tensors"] = some [some picture, some tensors] ∧
    tensors.items? = some tensorItems ∧ tensorItems[j]? = some item

variable {value item : Json} {records : List FrameRecord} {i j : ℕ}

lemma forall₂_items (h : FrameRecord.listOfJson? value = some records) :
    List.Forall₂ (fun item r => FrameRecord.ofJson? item = some r) (items value) records := by
  rw [FrameRecord.listOfJson?] at h
  rw [items]
  cases hframe : FrameRecord.ofJson? value with
  | some frame =>
    rw [hframe] at h
    cases h
    exact .cons hframe .nil
  | none =>
    rw [hframe] at h
    obtain ⟨found, hfound, h⟩ := Option.bind_eq_some_iff.1 h
    rw [hfound]
    exact mapM_eq_some_iff.1 h

/-- A tensor of a file is read as the one at its place. -/
lemma IsTensorAt.exists_record (h : IsTensorAt value i j item)
    (hrecords : FrameRecord.listOfJson? value = some records) :
    ∃ frame r, records[i]? = some frame ∧ frame.tensors[j]? = some r ∧
      TensorRecord.ofJson? item = some r := by
  obtain ⟨frameItem, picture, tensors, tensorItems, hframe, hfields, hitems, hitem⟩ := h
  obtain ⟨frame, hat, hread⟩ := exists_getElem?_of_forall₂ (forall₂_items hrecords) hframe
  simp only [FrameRecord.ofJson?, hfields, hitems, Option.bind_eq_bind,
    Option.bind_some, Option.bind_eq_some_iff, mapM_eq_some_iff] at hread
  obtain ⟨_, -, found, hfound, hr⟩ := hread
  cases hr
  obtain ⟨r, hr, htensor⟩ := exists_getElem?_of_forall₂ hfound hitem
  exact ⟨_, r, hat, hr, htensor⟩

end FrameRecord

namespace Recording

/-- **Which integers of a file are loaded as they are.**  A recording is read, and the tensor at
the place of one of integers has as many integers as were written; but each of them is the one
that was written if and only if that is short, or the largest one. -/
theorem ofText_of_isIntegral {text : String} {value item : Json} {records : List FrameRecord}
    {i j : ℕ} {ns : List ℤ} (htext : Json.ofText? text = some value)
    (hrecords : FrameRecord.listOfJson? value = some records)
    (hagrees : ∀ r ∈ records, r.Agrees) (hitem : FrameRecord.IsTensorAt value i j item)
    (hintegral : TensorRecord.IsIntegral item ns)
    (hns : ∀ n ∈ ns, n ∈ Set.Icc minInt64 maxInt64) :
    ∃ recording frame tensor, ∃ values : List Int64, ofText text = .ok recording ∧
      recording.frames[i]? = some frame ∧ frame.tensors[j]? = some tensor ∧
      tensor.data = .integer values.toArray ∧
      tensor.integers = (if ns = [] then .error (.tensor .empty) else .ok values.toArray) ∧
      List.Forall₂ (fun n x => x.toInt = n ↔ IsShort n ∨ n = maxInt64) ns values := by
  obtain ⟨frame, r, hframe, hr, hread⟩ := hitem.exists_record hrecords
  obtain ⟨values, hdata, hvalues⟩ := hintegral.exists_data hns hread
  have hne : records ≠ [] := by
    rintro rfl
    cases hframe
  refine ⟨⟨records.map FrameRecord.frame⟩, frame.frame, r.tensor, values, ?_, ?_, ?_, hdata, ?_,
    hvalues⟩
  · rw [ofText, htext, Option.bind_some, hrecords]
    exact ofRecords_of_agrees hne hagrees
  · rw [List.getElem?_map, hframe]
    rfl
  · rw [FrameRecord.frame, List.getElem?_map, hr]
    rfl
  · have hempty : values.toArray.isEmpty = true ↔ ns = [] := by
      rw [List.isEmpty_toArray, List.isEmpty_iff_length_eq_zero, ← hvalues.length_eq,
        List.length_eq_zero_iff]
    rw [Tensor.integers, TensorRecord.tensor, hdata]
    simp only [hempty]

/-- A file with a tensor of three integers, the second of which has 54 digits. -/
def threeIntegers : String :=
  "\x7b\"image\":[1,1,1,1],\"tensors\":[[\"int64\",[3]," ++
    "[-9223372036854775808,9007199254740993,9223372036854775807]]]\x7d"

/-- What is written for the tensor. -/
def threeIntegersTensor : Json :=
  .array [.string "int64", .array [.number (.integer 3)],
    .array (List.map .number [.integer (-9223372036854775808), .integer 9007199254740993,
      .integer 9223372036854775807])]

/-- What is written in this file. -/
def threeIntegersFile : Json :=
  .object [("image", .array (List.replicate 4 (.number (.integer 1)))),
    ("tensors", .array [threeIntegersTensor])]

/-- What this file describes. -/
def threeIntegersRecords : List FrameRecord :=
  [⟨⟨1, 1, 1, 1, .stretch, 1.0, none⟩, [⟨.integer, [3], [Float.ofInt (-9223372036854775808),
    Float.ofInt 9007199254740993, Float.ofInt 9223372036854775807]⟩]⟩]

set_option maxRecDepth 2000 in
lemma ofText?_threeIntegers : Json.ofText? threeIntegers = some threeIntegersFile := by rfl

lemma listOfJson?_threeIntegers :
    FrameRecord.listOfJson? threeIntegersFile = some threeIntegersRecords := rfl

lemma agrees_threeIntegers : ∀ r ∈ threeIntegersRecords, r.Agrees := by
  simp [threeIntegersRecords, FrameRecord.Agrees, TensorRecord.Agrees]

lemma isTensorAt_threeIntegers : FrameRecord.IsTensorAt threeIntegersFile 0 0 threeIntegersTensor :=
  ⟨threeIntegersFile, _, _, _, rfl, rfl, rfl, rfl⟩

lemma isIntegral_threeIntegers : TensorRecord.IsIntegral threeIntegersTensor
    [-9223372036854775808, 9007199254740993, 9223372036854775807] := by
  refine ⟨.string "int64", .array [.number (.integer 3)], _, rfl, rfl, ?_⟩
  refine .cons ⟨⟨true, "9223372036854775808".toList, none, none⟩, rfl, rfl, ?_, rfl⟩ <|
    .cons ⟨⟨false, "9007199254740993".toList, none, none⟩, rfl, rfl, ?_, rfl⟩ <|
    .cons ⟨⟨false, "9223372036854775807".toList, none, none⟩, rfl, rfl, ?_, rfl⟩ .nil
  all_goals decide

/-- The first and the last integer of this file are loaded as they were written. -/
theorem ofText_of_isIntegral_threeIntegers :
    Json.ofText? threeIntegers = some threeIntegersFile ∧
    FrameRecord.listOfJson? threeIntegersFile = some threeIntegersRecords ∧
    (∀ r ∈ threeIntegersRecords, r.Agrees) ∧
    FrameRecord.IsTensorAt threeIntegersFile 0 0 threeIntegersTensor ∧
    TensorRecord.IsIntegral threeIntegersTensor
      [-9223372036854775808, 9007199254740993, 9223372036854775807] ∧
    ∃ recording frame tensor, ∃ a b c : Int64, ofText threeIntegers = .ok recording ∧
      recording.frames[0]? = some frame ∧ frame.tensors[0]? = some tensor ∧
      tensor.integers = .ok #[a, b, c] ∧
      a.toInt = -9223372036854775808 ∧ c.toInt = 9223372036854775807 := by
  refine ⟨ofText?_threeIntegers, listOfJson?_threeIntegers, agrees_threeIntegers,
    isTensorAt_threeIntegers, isIntegral_threeIntegers, ?_⟩
  obtain ⟨recording, frame, tensor, values, hread, hframe, htensor, -, hintegers, hvalues⟩ :=
    ofText_of_isIntegral ofText?_threeIntegers listOfJson?_threeIntegers agrees_threeIntegers
      isTensorAt_threeIntegers isIntegral_threeIntegers (by decide)
  cases hvalues with
  | @cons _ a _ _ ha hvalues =>
    cases hvalues with
    | @cons _ b _ _ _ hvalues =>
      cases hvalues with
      | @cons _ c _ _ hc hvalues =>
        cases hvalues
        exact ⟨recording, frame, tensor, a, b, c, hread, hframe, htensor, hintegers,
          ha.2 (.inl isShort_minInt64), hc.2 (.inr rfl)⟩

/-- The second integer of this file is not loaded as it was written. -/
theorem ofText_threeIntegers_ne :
    Json.ofText? threeIntegers = some threeIntegersFile ∧
    FrameRecord.listOfJson? threeIntegersFile = some threeIntegersRecords ∧
    (∀ r ∈ threeIntegersRecords, r.Agrees) ∧
    FrameRecord.IsTensorAt threeIntegersFile 0 0 threeIntegersTensor ∧
    TensorRecord.IsIntegral threeIntegersTensor
      [-9223372036854775808, 9007199254740993, 9223372036854775807] ∧
    ∃ recording frame tensor, ofText threeIntegers = .ok recording ∧
      recording.frames[0]? = some frame ∧ frame.tensors[0]? = some tensor ∧
      tensor.integers = .ok #[-9223372036854775808, 9007199254740992, 9223372036854775807] := by
  refine ⟨ofText?_threeIntegers, listOfJson?_threeIntegers, agrees_threeIntegers,
    isTensorAt_threeIntegers, isIntegral_threeIntegers, ?_⟩
  have hread : ofText threeIntegers = .ok ⟨threeIntegersRecords.map FrameRecord.frame⟩ := by
    rw [ofText, ofText?_threeIntegers, Option.bind_some, listOfJson?_threeIntegers]
    exact ofRecords_of_agrees (by simp [threeIntegersRecords]) agrees_threeIntegers
  refine ⟨_, _, _, hread, rfl, rfl, ?_⟩
  have hvalues : [-9223372036854775808, 9007199254740993, 9223372036854775807].map
      (fun n => Int64.ofInt (wholePart64 (Float.ofInt n))) =
        [-9223372036854775808, 9007199254740992, 9223372036854775807] := rfl
  exact congrArg (fun values : List Int64 => Except.ok values.toArray) hvalues

end Recording
end Detection
