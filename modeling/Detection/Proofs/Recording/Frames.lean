/-
# Recordings are read whole or not at all

The frames of a file are read in order, and so are the tensors of a frame.  The first tensor with a
shape and elements that disagree ends it, and is reported with its frame.  A recording that was read
yields all frames of the file, one after the other.

## Main definitions

* `TensorRecord.Agrees`: there are as many elements as the shape describes.
* `FrameRecord.IsFirstMismatch`: the first tensor of a file that does not agree.
* `Recording.afterTaking`: what is left of a recording after some frames were taken.
* `Recording.Yields`: a recording yields the frames of a file.

The main result is `Recording.ofText_of_records`.
-/
import Detection.Proofs.Outcome
import Detection.Recording.Text
import Mathlib.Algebra.Order.Ring.Nat
import Mathlib.Data.Prod.Lex
import Mathlib.Order.WellFounded

namespace Detection

/-! ## Tensors and frames -/

lemma extentProduct_eq_prod (extents : List ℕ) : extentProduct extents = extents.prod :=
  List.prod_eq_foldl.symm

namespace TensorRecord

/-- There are as many elements as the shape describes. -/
def Agrees (r : TensorRecord) : Prop := r.values.length = r.shape.prod

/-- The tensor that a record describes. -/
def tensor (r : TensorRecord) : Tensor := ⟨r.shape, r.data⟩

variable {r : TensorRecord} {rest before after : List TensorRecord} {frame index : ℕ}

lemma toTensor_of_agrees (h : r.Agrees) : r.toTensor frame index = .ok r.tensor := by
  rw [toTensor, extentProduct_eq_prod, if_pos h.symm]
  rfl

lemma toTensor_of_not_agrees (h : ¬ r.Agrees) :
    r.toTensor frame index = .error (.shape frame index r.shape r.values.length) := by
  rw [toTensor, extentProduct_eq_prod, if_neg fun heq => h heq.symm]

lemma toTensors_cons (h : r.Agrees) : toTensors frame index (r :: rest) =
    (toTensors frame (index + 1) rest).map (r.tensor :: ·) := by
  rw [toTensors, toTensor_of_agrees h]
  cases toTensors frame (index + 1) rest <;> rfl

lemma toTensors_of_agrees (h : ∀ r ∈ rest, r.Agrees) :
    toTensors frame index rest = .ok (rest.map tensor) := by
  induction rest generalizing index with
  | nil => rfl
  | cons r rest ih =>
    rw [List.forall_mem_cons] at h
    rw [toTensors_cons h.1, ih h.2]
    rfl

/-- The first tensor that does not agree is reported. -/
lemma toTensors_of_not_agrees (hbefore : ∀ r ∈ before, r.Agrees) (h : ¬ r.Agrees) :
    toTensors frame index (before ++ r :: after) =
      .error (.shape frame (index + before.length) r.shape r.values.length) := by
  induction before generalizing index with
  | nil =>
    rw [List.nil_append, toTensors, toTensor_of_not_agrees h]
    rfl
  | cons first before ih =>
    rw [List.forall_mem_cons] at hbefore
    rw [List.cons_append, toTensors_cons hbefore.1, ih hbefore.2, List.length_cons,
      Nat.add_right_comm]
    rfl

end TensorRecord

namespace FrameRecord

/-- All tensors of a frame agree. -/
def Agrees (r : FrameRecord) : Prop := ∀ tensor ∈ r.tensors, tensor.Agrees

/-- The frame that a record describes. -/
def frame (r : FrameRecord) : Frame := ⟨r.tensors.map TensorRecord.tensor, r.picture⟩

variable {r : FrameRecord} {records before after : List FrameRecord} {index : ℕ}

lemma toFrame_of_agrees (h : r.Agrees) : r.toFrame index = .ok r.frame := by
  rw [toFrame, TensorRecord.toTensors_of_agrees h]
  rfl

lemma toFrames_cons (h : r.Agrees) : toFrames index (r :: records) =
    (toFrames (index + 1) records).map (r.frame :: ·) := by
  rw [toFrames, toFrame_of_agrees h]
  cases toFrames (index + 1) records <;> rfl

lemma toFrames_of_agrees (h : ∀ r ∈ records, r.Agrees) :
    toFrames index records = .ok (records.map frame) := by
  induction records generalizing index with
  | nil => rfl
  | cons r records ih =>
    rw [List.forall_mem_cons] at h
    rw [toFrames_cons h.1, ih h.2]
    rfl

/-- The first frame with a tensor that does not agree is reported, and its first such tensor. -/
lemma toFrames_of_not_agrees {tensor : TensorRecord} {earlier later : List TensorRecord}
    (hbefore : ∀ r ∈ before, r.Agrees) (htensors : r.tensors = earlier ++ tensor :: later)
    (hearlier : ∀ t ∈ earlier, t.Agrees) (h : ¬ tensor.Agrees) :
    toFrames index (before ++ r :: after) =
      .error (.shape (index + before.length) earlier.length tensor.shape
        tensor.values.length) := by
  induction before generalizing index with
  | nil =>
    rw [List.nil_append, toFrames, toFrame, htensors,
      TensorRecord.toTensors_of_not_agrees hearlier h, Nat.zero_add]
    rfl
  | cons first before ih =>
    rw [List.forall_mem_cons] at hbefore
    rw [List.cons_append, toFrames_cons hbefore.1, ih hbefore.2, List.length_cons,
      Nat.add_right_comm]
    rfl

/-! ### The first mismatch -/

/-- A tensor of a file, given by the index of its frame and its own, does not agree. -/
def IsMismatch (records : List FrameRecord) (i j : ℕ) (tensor : TensorRecord) : Prop :=
  ∃ r, records[i]? = some r ∧ r.tensors[j]? = some tensor ∧ ¬ tensor.Agrees

/-- A tensor of a file does not agree, and no other one before it: neither in a frame before, nor
before it in its frame. -/
def IsFirstMismatch (records : List FrameRecord) (i j : ℕ) (tensor : TensorRecord) : Prop :=
  IsMismatch records i j tensor ∧
    ∀ i' j' other, IsMismatch records i' j' other → toLex (i, j) ≤ toLex (i', j')

lemma exists_isMismatch (h : ¬ ∀ r ∈ records, r.Agrees) :
    ∃ i j tensor, IsMismatch records i j tensor := by
  simp only [Agrees, not_forall] at h
  obtain ⟨r, hr, tensor, htensor, hnot⟩ := h
  obtain ⟨i, hi⟩ := List.getElem?_of_mem hr
  obtain ⟨j, hj⟩ := List.getElem?_of_mem htensor
  exact ⟨i, j, tensor, r, hi, hj, hnot⟩

/-- Of the tensors that do not agree, one is the first. -/
lemma exists_isFirstMismatch (h : ¬ ∀ r ∈ records, r.Agrees) :
    ∃ i j tensor, IsFirstMismatch records i j tensor := by
  obtain ⟨i, j, tensor, hmismatch⟩ := exists_isMismatch h
  obtain ⟨first, ⟨tensor, hfirst⟩, hleast⟩ := WellFounded.has_min (wellFounded_lt (α := ℕ ×ₗ ℕ))
    {place | ∃ tensor, IsMismatch records (ofLex place).1 (ofLex place).2 tensor}
    ⟨toLex (i, j), tensor, hmismatch⟩
  exact ⟨_, _, tensor, hfirst, fun i' j' other hother =>
    not_lt.1 (hleast (toLex (i', j')) ⟨other, hother⟩)⟩

lemma toFrames_of_isFirstMismatch {i j : ℕ} {tensor : TensorRecord}
    (h : IsFirstMismatch records i j tensor) :
    toFrames 0 records = .error (.shape i j tensor.shape tensor.values.length) := by
  obtain ⟨⟨r, hr, htensor, hnot⟩, hleast⟩ := h
  obtain ⟨hi, rfl⟩ := List.getElem?_eq_some_iff.1 hr
  obtain ⟨hj, rfl⟩ := List.getElem?_eq_some_iff.1 htensor
  have hbefore : ∀ r ∈ records.take i, r.Agrees := by
    intro r hr t ht
    by_contra hnot
    obtain ⟨i', hi', rfl⟩ := List.mem_take_iff_getElem.1 hr
    obtain ⟨j', hj'⟩ := List.getElem?_of_mem ht
    have hle := hleast i' j' t ⟨_, List.getElem?_eq_getElem _, hj', hnot⟩
    rw [Prod.Lex.toLex_le_toLex] at hle
    omega
  have hearlier : ∀ t ∈ records[i].tensors.take j, t.Agrees := by
    intro t ht
    by_contra hnot
    obtain ⟨j', hj', rfl⟩ := List.mem_take_iff_getElem.1 ht
    have hle := hleast i j' _ ⟨_, hr, List.getElem?_eq_getElem _, hnot⟩
    rw [Prod.Lex.toLex_le_toLex] at hle
    omega
  have hrecords : records.take i ++ records[i] :: records.drop (i + 1) = records := by simp
  have htensors : records[i].tensors.take j ++ records[i].tensors[j] ::
      records[i].tensors.drop (j + 1) = records[i].tensors := by simp
  have herror : toFrames 0 (records.take i ++ records[i] :: records.drop (i + 1)) = _ :=
    toFrames_of_not_agrees hbefore htensors.symm hearlier hnot
  rwa [hrecords, List.length_take_of_le hi.le, List.length_take_of_le hj.le, Nat.zero_add]
    at herror

end FrameRecord

/-! ## Taking frames -/

namespace Recording

/-- What is left of a recording when the next frame was asked for a number of times. -/
def afterTaking (r : Recording) : ℕ → Recording
  | 0 => r
  | k + 1 => ((r.afterTaking k).next?.map Prod.snd).getD (r.afterTaking k)

/-- Asked for one frame after the other, a recording yields those of a file, each once and in their
order, and then none.  At any time it knows how many are left, and the shapes of the next one. -/
structure Yields (r : Recording) (records : List FrameRecord) : Prop where
  /-- The frame taken next is the next one of the file. -/
  next?_eq (k : ℕ) : (r.afterTaking k).next?.map Prod.fst = records[k]?.map FrameRecord.frame
  /-- There is one frame less with each one taken. -/
  size_eq (k : ℕ) : (r.afterTaking k).size = records.length - k
  /-- The shapes are those of the frame taken next; there are none when no frame is left. -/
  shapes_eq (k : ℕ) : (r.afterTaking k).shapes =
    (records[k]?.map fun record => record.tensors.map (·.shape)).getD []

variable {r recording : Recording} {k : ℕ}

lemma next?_eq (r : Recording) :
    r.next? = r.frames.head?.map fun frame => (frame, ⟨r.frames.tail⟩) := by
  obtain ⟨_ | ⟨frame, rest⟩⟩ := r <;> rfl

lemma shapes_eq (r : Recording) : r.shapes = (r.frames.head?.map Frame.shapes).getD [] := by
  obtain ⟨_ | ⟨frame, rest⟩⟩ := r <;> rfl

/-- One frame is taken, if there is one. -/
lemma frames_after_next? (r : Recording) :
    ((r.next?.map Prod.snd).getD r).frames = r.frames.tail := by
  obtain ⟨_ | ⟨frame, rest⟩⟩ := r <;> rfl

lemma frames_afterTaking (r : Recording) (k : ℕ) : (r.afterTaking k).frames = r.frames.drop k := by
  induction k with
  | zero => rfl
  | succ k ih => rw [afterTaking, frames_after_next?, ih, List.tail_drop]

lemma yields_map_frame (records : List FrameRecord) :
    Yields ⟨records.map FrameRecord.frame⟩ records where
  next?_eq k := by
    simp [next?_eq, frames_afterTaking, ← List.map_drop, Function.comp_def]
  size_eq k := by
    simp [size, frames_afterTaking]
  shapes_eq k := by
    simp [shapes_eq, frames_afterTaking, ← List.map_drop, Function.comp_def, Frame.shapes,
      FrameRecord.frame, TensorRecord.tensor]

lemma ofRecords_of_agrees {records : List FrameRecord} (hne : records ≠ [])
    (h : ∀ r ∈ records, r.Agrees) : ofRecords records = .ok ⟨records.map FrameRecord.frame⟩ := by
  rw [ofRecords, if_neg (by simpa using hne), FrameRecord.toFrames_of_agrees h]
  rfl

lemma ofRecords_of_isFirstMismatch {records : List FrameRecord} {i j : ℕ} {tensor : TensorRecord}
    (h : FrameRecord.IsFirstMismatch records i j tensor) :
    ofRecords records = .error (.shape i j tensor.shape tensor.values.length) := by
  have hne : records ≠ [] := by
    rintro rfl
    obtain ⟨⟨r, hr, -⟩, -⟩ := h
    simp at hr
  rw [ofRecords, if_neg (by simpa using hne), FrameRecord.toFrames_of_isFirstMismatch h]
  rfl

/-- **A recording is read whole or not at all.**  It is read if and only if the file has a frame
and all tensors agree, and then it yields the frames of the file.  Otherwise the file is empty, or
the first tensor that does not agree is reported. -/
theorem ofText_of_records {text : String} {records : List FrameRecord}
    (h : (Json.ofText? text).bind FrameRecord.listOfJson? = some records) :
    ((∃ recording, ofText text = .ok recording) ↔
      records ≠ [] ∧ ∀ r ∈ records, ∀ tensor ∈ r.tensors, tensor.Agrees) ∧
    (∀ recording, ofText text = .ok recording → recording.Yields records) ∧
    ∀ fault, ofText text = .error fault ↔
      (records = [] ∧ fault = .empty) ∨
      ∃ i j tensor, FrameRecord.IsFirstMismatch records i j tensor ∧
        fault = .shape i j tensor.shape tensor.values.length := by
  have hread : ofText text = ofRecords records := by
    rw [ofText, h]
  rw [hread]
  rcases eq_or_ne records [] with rfl | hne
  · refine ⟨iff_of_false nofun fun hgood => hgood.1 rfl, nofun, fun fault => ⟨?_, ?_⟩⟩
    · intro hfault
      cases hfault
      exact .inl ⟨rfl, rfl⟩
    · rintro (⟨-, rfl⟩ | ⟨i, j, tensor, hfirst, rfl⟩)
      · rfl
      · exact ofRecords_of_isFirstMismatch hfirst
  by_cases hgood : ∀ r ∈ records, r.Agrees
  · rw [ofRecords_of_agrees hne hgood]
    refine ⟨iff_of_true ⟨_, rfl⟩ ⟨hne, hgood⟩, ?_, fun fault => iff_of_false nofun ?_⟩
    · rintro recording hrecording
      cases hrecording
      exact yields_map_frame records
    · rintro (⟨hempty, -⟩ | ⟨i, j, tensor, ⟨⟨r, hr, htensor, hnot⟩, -⟩, -⟩)
      · exact hne hempty
      · exact hnot (hgood r (List.mem_of_getElem? hr) tensor (List.mem_of_getElem? htensor))
  · obtain ⟨i, j, tensor, hfirst⟩ := FrameRecord.exists_isFirstMismatch hgood
    rw [ofRecords_of_isFirstMismatch hfirst]
    refine ⟨iff_of_false nofun fun h => hgood h.2, nofun, fun fault => ⟨fun hfault => ?_, ?_⟩⟩
    · cases hfault
      exact .inr ⟨i, j, tensor, hfirst, rfl⟩
    · rintro (⟨hempty, -⟩ | ⟨i', j', tensor', hfirst', rfl⟩)
      · exact absurd hempty hne
      · rw [← ofRecords_of_isFirstMismatch hfirst, ofRecords_of_isFirstMismatch hfirst']

/-- A file with two frames, the first of which has two tensors. -/
def twoFrames : String :=
  "[\x7b\"image\":[1,1,1,1],\"tensors\":[[\"int64\",[2],[3,4]],[\"float32\",[0],[]]]\x7d," ++
    "\x7b\"image\":[1,1,2,2],\"tensors\":[]\x7d]"

/-- What this file describes. -/
def twoFrameRecords : List FrameRecord :=
  [⟨⟨1, 1, 1, 1, .stretch, 1.0, none⟩, [⟨.integer, [2], [3.0, 4.0]⟩, ⟨.float, [0], []⟩]⟩,
    ⟨⟨1, 1, 2, 2, .stretch, 1.0, none⟩, []⟩]

/-- A file with one frame, the second tensor of which has an element less than its shape says. -/
def oneElementLess : String :=
  "\x7b\"image\":[1,1,1,1],\"tensors\":[[\"float32\",[0],[]],[\"int64\",[3],[3,4]]]\x7d"

/-- What this file describes. -/
def oneElementLessRecords : List FrameRecord :=
  [⟨⟨1, 1, 1, 1, .stretch, 1.0, none⟩, [⟨.float, [0], []⟩, ⟨.integer, [3], [3.0, 4.0]⟩]⟩]

theorem ofText_twoFrames_oneElementLess :
    ((Json.ofText? twoFrames).bind FrameRecord.listOfJson? = some twoFrameRecords ∧
      ∃ recording, ofText twoFrames = .ok recording ∧ recording.size = 2 ∧
        recording.shapes = [[2], [0]] ∧ (recording.afterTaking 1).shapes = [] ∧
        (recording.afterTaking 2).next?.map Prod.fst = none) ∧
    ((Json.ofText? oneElementLess).bind FrameRecord.listOfJson? = some oneElementLessRecords ∧
      ofText oneElementLess = .error (.shape 0 1 [3] 2)) := by
  have htwo : (Json.ofText? twoFrames).bind FrameRecord.listOfJson? = some twoFrameRecords := rfl
  have hless : (Json.ofText? oneElementLess).bind FrameRecord.listOfJson? =
      some oneElementLessRecords := rfl
  refine ⟨⟨htwo, ?_⟩, hless, ?_⟩
  · obtain ⟨hread, hyields, -⟩ := ofText_of_records htwo
    obtain ⟨recording, hrecording⟩ := hread.2
      ⟨nofun, by simp [twoFrameRecords, TensorRecord.Agrees]⟩
    obtain ⟨hnext, hsize, hshapes⟩ := hyields recording hrecording
    exact ⟨recording, hrecording, hsize 0, hshapes 0, hshapes 1, hnext 2⟩
  · obtain ⟨-, -, hfault⟩ := ofText_of_records hless
    refine (hfault _).2 (.inr ⟨0, 1, ⟨.integer, [3], [3.0, 4.0]⟩, ⟨?_, ?_⟩, rfl⟩)
    · exact ⟨_, rfl, rfl, by simp [TensorRecord.Agrees]⟩
    · rintro i j other ⟨r, hr, hother, hnot⟩
      rw [Prod.Lex.toLex_le_toLex]
      rcases Nat.eq_zero_or_pos i with rfl | hi
      · rcases Nat.eq_zero_or_pos j with rfl | hj
        · cases hr
          cases hother
          exact absurd (by simp [TensorRecord.Agrees]) hnot
        · exact .inr ⟨rfl, hj⟩
      · exact .inl hi

end Recording

end Detection
