/-
# Records in a folder do not replace each other

A sink that puts records into files names each file after the moment and after the number of the
record, of which four hexadecimal digits are kept.  A frame without findings has no record unless
it is asked for, and takes no number.  So two records of a run have files of the same name only if
they were written in the same second and a multiple of 65536 records lies between them.

The time is asked for once for each record, and may go back and forth.  Directories can be made and
files can be written; what was written is kept in a diary, so that a file that replaces another one
does not make its record disappear.

## Main definitions

* `Diary`: a host that keeps everything that is written.
* `FolderSink.putAll`: putting the findings of frames, one after the other.
* `FolderSink.after`: a sink that has put a number of records.

The main result is `FolderSink.keep_eq_and_path_eq_iff`.
-/
import Detection.Proofs.Outcome
import Detection.Proofs.Text.Lines
import Detection.Run.Sink
import Mathlib.Data.List.Nodup
import Mathlib.Data.Nat.ModEq
import Mathlib.Data.UInt

namespace Detection

/-! ## Digits -/

namespace Text

variable {count n m : ℕ} {c : Char}

lemma not_mem_hexDigits (hc : hexValue? c = none) : c ∉ hexDigits count n := by
  induction count generalizing n with
  | zero => exact List.not_mem_nil
  | succ count ih =>
    refine List.not_mem_append ih fun hmem => ?_
    obtain rfl := List.mem_singleton.1 hmem
    rw [hexValue?_hexDigit (Nat.mod_lt n (by decide))] at hc
    cases hc

/-- Digits tell the number, as far as there are enough of them. -/
lemma hexDigits_inj (hn : n < 16 ^ count) (hm : m < 16 ^ count) :
    hexDigits count n = hexDigits count m ↔ n = m := by
  refine ⟨fun h => ?_, congrArg (hexDigits count)⟩
  induction count generalizing n m with
  | zero =>
    rw [pow_zero, Nat.lt_one_iff] at hn hm
    rw [hn, hm]
  | succ count ih =>
    rw [pow_succ'] at hn hm
    obtain ⟨hfront, hlast⟩ := List.append_inj' h rfl
    have hquotient : n / 16 = m / 16 :=
      ih (Nat.div_lt_of_lt_mul hn) (Nat.div_lt_of_lt_mul hm) hfront
    have hdigit : n % 16 = m % 16 := by
      have hvalue := congrArg hexValue? (List.singleton_inj.1 hlast)
      rw [hexValue?_hexDigit (Nat.mod_lt n (by decide)),
        hexValue?_hexDigit (Nat.mod_lt m (by decide))] at hvalue
      exact Option.some.inj hvalue
    omega

end Text

section

variable {n m : ℕ} {c : Char}

lemma not_mem_toDigits (hc : c.isDigit = false) : c ∉ Nat.toDigits 10 n := by
  intro hmem
  rw [Nat.isDigit_of_mem_toDigits (by decide) (by decide) hmem] at hc
  cases hc

lemma toList_twoDigits (n : ℕ) : (twoDigits n).toList =
    if n < 10 then '0' :: Nat.toDigits 10 n else Nat.toDigits 10 n := by
  unfold twoDigits
  split <;> simp [Nat.toList_repr]

lemma not_mem_twoDigits (hc : c.isDigit = false) : c ∉ (twoDigits n).toList := by
  rw [toList_twoDigits]
  split
  · rw [List.mem_cons, not_or]
    refine ⟨?_, not_mem_toDigits hc⟩
    rintro rfl
    cases hc
  · exact not_mem_toDigits hc

lemma twoDigits_ne_nil : (twoDigits n).toList ≠ [] := by
  rw [toList_twoDigits]
  split
  · exact List.cons_ne_nil _ _
  · exact Nat.toDigits_ne_nil

lemma toList_twoDigits_inj : (twoDigits n).toList = (twoDigits m).toList ↔ n = m := by
  -- A zero in front does not change what digits stand for.
  have hvalue (k : ℕ) : Nat.ofDigitChars 10 (twoDigits k).toList 0 = k := by
    rw [toList_twoDigits]
    split <;> simp [Nat.ofDigitChars_cons]
  refine ⟨fun h => ?_, fun h => h ▸ rfl⟩
  rw [← hvalue n, h, hvalue]

end

/-! ## Paths -/

/-- What stands before a name that is put behind a directory. -/
def opening (directory : String) : List Char :=
  if directory = "" then []
  else if directory.toList.getLast? = some '/' then directory.toList
  else directory.toList ++ ['/']

lemma toList_joinPath (directory name : String) :
    (joinPath directory name).toList = opening directory ++ name.toList := by
  unfold joinPath opening
  split
  · simp
  · split <;> simp

/-- Behind a name that does not end in a slash, there is to be one. -/
lemma opening_joinPath {directory name : String} (hne : name.toList ≠ [])
    (hslash : '/' ∉ name.toList) :
    opening (joinPath directory name) = opening directory ++ name.toList ++ ['/'] := by
  have hnonempty : joinPath directory name ≠ "" := by
    intro h
    have hempty := congrArg String.toList h
    rw [toList_joinPath] at hempty
    exact hne (List.append_eq_nil_iff.1 hempty).2
  have hlast : (joinPath directory name).toList.getLast? ≠ some '/' := by
    rw [toList_joinPath, List.getLast?_append_of_ne_nil _ hne]
    exact fun h => hslash (List.mem_of_getLast? h)
  rw [opening, if_neg hnonempty, if_neg hlast, toList_joinPath]

namespace FolderSink

variable {s t : FolderSink} {moment moment' : Moment}

/-- What stands between the dashes of the name of a file. -/
def fileParts (s : FolderSink) (moment : Moment) : List (List Char) :=
  [(twoDigits moment.hour).toList, (twoDigits moment.minute).toList,
    (twoDigits moment.second).toList, Text.hexDigits 4 s.lastId.toNat ++ ".json".toList]

/-- The names on the way from the folder to a file. -/
def pathParts (s : FolderSink) (moment : Moment) : List (List Char) :=
  [Nat.toDigits 10 moment.year, (twoDigits moment.month).toList, (twoDigits moment.day).toList,
    (s.fileName moment).toList]

lemma toList_fileName (s : FolderSink) (moment : Moment) :
    (s.fileName moment).toList = ['-'].intercalate (s.fileParts moment) := by
  simp [fileName, fileParts, List.intercalate]

lemma not_mem_fileParts {c : Char} (hdigit : c.isDigit = false) (hhex : Text.hexValue? c = none)
    (hjson : c ∉ ".json".toList) : ∀ part ∈ s.fileParts moment, c ∉ part := by
  have hid : c ∉ Text.hexDigits 4 s.lastId.toNat ++ ".json".toList :=
    List.not_mem_append (Text.not_mem_hexDigits hhex) hjson
  simp only [fileParts, List.forall_mem_cons]
  exact ⟨not_mem_twoDigits hdigit, not_mem_twoDigits hdigit, not_mem_twoDigits hdigit, hid,
    List.forall_mem_nil _⟩

lemma dash_not_mem_fileParts : ∀ part ∈ s.fileParts moment, '-' ∉ part :=
  not_mem_fileParts (by decide) (by decide) (by decide)

lemma slash_not_mem_pathParts : ∀ part ∈ s.pathParts moment, '/' ∉ part := by
  have hfile : '/' ∉ (s.fileName moment).toList := by
    rw [toList_fileName]
    exact Text.not_mem_intercalate (by decide)
      (not_mem_fileParts (by decide) (by decide) (by decide))
  simp only [pathParts, List.forall_mem_cons]
  exact ⟨not_mem_toDigits (by decide), not_mem_twoDigits (by decide),
    not_mem_twoDigits (by decide), hfile, List.forall_mem_nil _⟩

lemma toList_path (s : FolderSink) (moment : Moment) :
    (s.path moment).toList = opening s.directory ++ ['/'].intercalate (s.pathParts moment) := by
  have hyear : (toString moment.year).toList = Nat.toDigits 10 moment.year := Nat.toList_repr
  have hyear_ne : (toString moment.year).toList ≠ [] := hyear ▸ Nat.toDigits_ne_nil
  have hyear_slash : '/' ∉ (toString moment.year).toList := hyear ▸ not_mem_toDigits (by decide)
  rw [path, dayDirectory, toList_joinPath,
    opening_joinPath twoDigits_ne_nil (not_mem_twoDigits (by decide)),
    opening_joinPath twoDigits_ne_nil (not_mem_twoDigits (by decide)),
    opening_joinPath hyear_ne hyear_slash, hyear]
  simp [pathParts, List.intercalate]

/-- A path in a folder tells the moment and the number of the record. -/
lemma path_eq_path_iff (h : s.directory = t.directory) :
    s.path moment = t.path moment' ↔ moment = moment' ∧ s.lastId = t.lastId := by
  constructor
  · intro hpath
    have hparts : s.pathParts moment = t.pathParts moment' := by
      rw [← String.toList_inj, toList_path, toList_path, h, List.append_cancel_left_eq] at hpath
      exact (Text.intercalate_inj (List.cons_ne_nil _ _) (List.cons_ne_nil _ _)
        slash_not_mem_pathParts slash_not_mem_pathParts).1 hpath
    simp only [pathParts, List.cons.injEq, and_true] at hparts
    obtain ⟨hyear, hmonth, hday, hfile⟩ := hparts
    have hfileParts : s.fileParts moment = t.fileParts moment' := by
      rw [toList_fileName, toList_fileName] at hfile
      exact (Text.intercalate_inj (List.cons_ne_nil _ _) (List.cons_ne_nil _ _)
        dash_not_mem_fileParts dash_not_mem_fileParts).1 hfile
    simp only [fileParts, List.cons.injEq, and_true] at hfileParts
    obtain ⟨hhour, hminute, hsecond, hid⟩ := hfileParts
    rw [toList_twoDigits_inj] at hmonth hday hhour hminute hsecond
    rw [List.append_cancel_right_eq,
      Text.hexDigits_inj s.lastId.toNat_lt t.lastId.toNat_lt] at hid
    have hyear' : moment.year = moment'.year := by
      simpa using congrArg (fun digits => Nat.ofDigitChars 10 digits 0) hyear
    refine ⟨?_, UInt16.toNat_inj.1 hid⟩
    obtain ⟨year, month, day, hour, minute, second⟩ := moment
    simp_all
  · rintro ⟨rfl, hid⟩
    simp [path, dayDirectory, fileName, h, hid]

/-! ## Records -/

/-- Whatever the host is, a frame without a record changes nothing. -/
lemma put_of_takes_eq_false {m : Type → Type} [Monad m] [Host m] {found : Findings}
    (h : s.takes found = false) (frame : Frame) : s.put frame found = (pure (.ok s) : m _) := by
  unfold put
  rw [h]
  rfl

lemma takes_eq_false_iff {found : Findings} :
    s.takes found = false ↔ s.keepsEmpty = false ∧ found.count = 0 := by
  simp [takes]

/-- The text of the record of a frame. -/
def recordText (s : FolderSink) (result : Frame × Findings) : String :=
  (result.2.record s.labels result.1.picture).write .indented

/-- A sink that has put a number of records. -/
def after (s : FolderSink) (count : ℕ) : FolderSink :=
  { s with lastId := s.lastId + UInt16.ofNat count }

lemma after_zero (s : FolderSink) : s.after 0 = s := by
  simp [after]

lemma after_advance (s : FolderSink) (count : ℕ) : s.advance.after count = s.after (count + 1) := by
  simp only [after, advance, UInt16.ofNat_add]
  rw [add_comm (UInt16.ofNat count), add_assoc]
  rfl

/-- The numbers of records begin anew after 65536 of them. -/
lemma lastId_after_eq_iff {i j : ℕ} (h : i ≤ j) :
    (s.after i).lastId = (s.after j).lastId ↔ 65536 ∣ j - i := by
  rw [after, after, UInt16.add_right_inj, UInt16.ofNat_eq_iff_mod_eq_toNat, UInt16.toNat_ofNat']
  exact Nat.modEq_iff_dvd' h

end FolderSink

/-! ## Runs -/

/-- A host that can make every directory and write every file, and keeps what was written. -/
structure Diary where
  /-- The moment at which it is asked for the time for the first time, the second time and so on. -/
  clock : ℕ → Moment
  /-- How often it was asked for the time. -/
  asked : ℕ
  /-- The paths and texts of the files in the order in which they were written. -/
  files : List (String × String)

instance : Host (StateM Diary) where
  readText path := fun d =>
    match d.files.reverse.lookup path with
    | some text => (.ok text, d)
    | none => (.error .notFound, d)
  makeDirectory _ := fun d => (.ok (), d)
  writeText path text := fun d => (.ok (), { d with files := d.files ++ [(path, text)] })
  printLine _ := fun d => ((), d)
  now := fun d => (d.clock d.asked, { d with asked := d.asked + 1 })

namespace FolderSink

/-- What was found in frames is put, one after the other. -/
def putAll {m : Type → Type} [Monad m] [Host m] (s : FolderSink)
    (results : List (Frame × Findings)) : ExceptT SinkFault m FolderSink :=
  results.foldlM (fun s result => ExceptT.mk (s.put result.1 result.2)) s

/-- What becomes of a sink and of a diary when the findings of frames are put. -/
def keep (s : FolderSink) (results : List (Frame × Findings)) (d : Diary) :
    Except SinkFault FolderSink × Diary :=
  (s.putAll results : ExceptT SinkFault (StateM Diary) FolderSink) d

/-- The frames that have a record. -/
def kept (s : FolderSink) (results : List (Frame × Findings)) : List (Frame × Findings) :=
  results.filter fun result => s.takes result.2

/-- The files of records that are written at the moments of a clock. -/
def filesOf (s : FolderSink) (clock : ℕ → Moment) (results : List (Frame × Findings)) :
    List (String × String) :=
  results.mapIdx fun i result => ((s.after (i + 1)).path (clock i), s.recordText result)

variable {s t : FolderSink} {clock : ℕ → Moment} {result : Frame × Findings}
  {results rest : List (Frame × Findings)} {d d' : Diary}

lemma filesOf_cons : s.filesOf clock (result :: rest) =
    (s.advance.path (clock 0), s.recordText result) ::
      s.advance.filesOf (fun i => clock (i + 1)) rest := by
  have hone : s.after 1 = s.advance := by
    rw [← after_advance, after_zero]
  simp only [filesOf, List.mapIdx_cons, zero_add, hone, after_advance]
  rfl

lemma keep_cons (hput : (s.put result.1 result.2 : StateM Diary _) d = (.ok t, d')) :
    s.keep (result :: rest) d = t.keep rest d' := by
  rw [keep, putAll, List.foldlM_cons]
  exact bind_of_eq_ok hput _

/-- A record is put into the file that is next, at the moment that the clock tells. -/
lemma put_of_takes (h : s.takes result.2 = true) :
    (s.put result.1 result.2 : StateM Diary _) d = (.ok s.advance,
      { d with
        asked := d.asked + 1
        files := d.files ++ [(s.advance.path (d.clock d.asked), s.recordText result)] }) := by
  unfold put
  rw [h]
  rfl

/-- The records of a run are those of the frames that have one, in their order. -/
lemma keep_eq (s : FolderSink) (results : List (Frame × Findings)) (d : Diary) :
    s.keep results d = (.ok (s.after (s.kept results).length),
      { d with
        asked := d.asked + (s.kept results).length
        files := d.files ++ s.filesOf (fun i => d.clock (d.asked + i)) (s.kept results) }) := by
  induction results generalizing s d with
  | nil =>
    have hnone : d.files = d.files ++ s.filesOf (fun i => d.clock (d.asked + i)) [] :=
      (List.append_nil _).symm
    rw [kept, List.filter_nil, List.length_nil, after_zero, ← hnone]
    rfl
  | cons result rest ih =>
    cases htakes : s.takes result.2 with
    | false =>
      have hkept : s.kept (result :: rest) = s.kept rest :=
        List.filter_cons_of_neg (by simp [htakes])
      rw [keep_cons (congrFun (put_of_takes_eq_false htakes result.1) d), ih, hkept]
    | true =>
      have hkept : s.kept (result :: rest) = result :: s.advance.kept rest :=
        List.filter_cons_of_pos htakes
      rw [keep_cons (put_of_takes htakes), ih, hkept, List.length_cons, filesOf_cons,
        after_advance]
      simp only [List.append_assoc, List.singleton_append, add_zero, add_assoc, add_comm 1]

/-- Two records of a run have the same path only if the numbers begin anew between them. -/
lemma path_filesOf_eq_iff {i j : ℕ} (hij : i < j) {file file' : String × String}
    (hi : (s.filesOf clock results)[i]? = some file)
    (hj : (s.filesOf clock results)[j]? = some file') :
    file.1 = file'.1 ↔ clock i = clock j ∧ 65536 ∣ j - i := by
  simp only [filesOf, List.getElem?_mapIdx, Option.map_eq_some_iff] at hi hj
  obtain ⟨_, -, rfl⟩ := hi
  obtain ⟨_, -, rfl⟩ := hj
  have hdirectory : (s.after (i + 1)).directory = (s.after (j + 1)).directory := rfl
  rw [path_eq_path_iff hdirectory, lastId_after_eq_iff (by omega), Nat.add_sub_add_right]

lemma nodup_paths_filesOf (h : results.length < 65537) :
    ((s.filesOf clock results).map Prod.fst).Nodup := by
  rw [List.nodup_iff_getElem?_ne_getElem?]
  intro i j hij hj heq
  have hlength : (s.filesOf clock results).length = results.length := List.length_mapIdx
  rw [List.length_map] at hj
  have hi : i < (s.filesOf clock results).length := hij.trans hj
  rw [List.getElem?_map, List.getElem?_map, List.getElem?_eq_getElem hi,
    List.getElem?_eq_getElem hj] at heq
  have hpath := Option.some.inj heq
  rw [path_filesOf_eq_iff hij (List.getElem?_eq_getElem hi) (List.getElem?_eq_getElem hj)] at hpath
  have hle := Nat.le_of_dvd (by omega) hpath.2
  omega

/-- **Records in a folder do not replace each other.**  A frame without findings, where those have
no record, changes nothing, whatever the host is.  A run on a host without faults succeeds, and
writes a file for each frame that has a record and no other one; the numbers of the records
follow each other.  The files of two records have the same path if and only if they are
written at the same moment, to the second, and a multiple of 65536 is between their places.  So up
to 65536 records never replace each other. -/
theorem keep_eq_and_path_eq_iff (s : FolderSink) (clock : ℕ → Moment)
    (results : List (Frame × Findings)) :
    (∀ (m : Type → Type) [Monad m] [Host m] (frame : Frame) (found : Findings),
      s.keepsEmpty = false → found.count = 0 → (s.put frame found : m _) = pure (.ok s)) ∧
    s.keep results ⟨clock, 0, []⟩ = (.ok (s.after (s.kept results).length),
      ⟨clock, (s.kept results).length, s.filesOf clock (s.kept results)⟩) ∧
    (∀ i j, i < j → ∀ file file', (s.filesOf clock (s.kept results))[i]? = some file →
      (s.filesOf clock (s.kept results))[j]? = some file' →
        (file.1 = file'.1 ↔ clock i = clock j ∧ 65536 ∣ j - i)) ∧
    ((s.kept results).length < 65537 →
      ((s.filesOf clock (s.kept results)).map Prod.fst).Nodup) := by
  refine ⟨?_, ?_, ?_, nodup_paths_filesOf⟩
  · intro m _ _ frame found hempty hcount
    exact put_of_takes_eq_false (takes_eq_false_iff.2 ⟨hempty, hcount⟩) frame
  · simpa using s.keep_eq results ⟨clock, 0, []⟩
  · intro i j hij file file' hi hj
    exact path_filesOf_eq_iff hij hi hj

end FolderSink

end Detection
