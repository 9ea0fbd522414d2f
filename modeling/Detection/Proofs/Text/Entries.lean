/-
# What a table of assignments holds

A table holds its keys in ascending order, each once, whatever the order in which they were
assigned.  A key has the value that was assigned to it last.

## Main definitions

* `Table.IsAscending`: the keys of a table ascend.
* `IsLast`: the value that a list of assignments gives last to a key.

The main results are `Table.get?_ofList_eq_some_iff` and `Table.size_ofList`.
-/
import Detection.Text.Table
import Mathlib.Data.Finset.Card
import Mathlib.Data.List.Induction
import Mathlib.Data.String.Basic

namespace Detection

/-- A value is assigned to a key, and nothing is assigned to the key afterwards. -/
def IsLast {β : Type} (assignments : List (String × β)) (key : String) (value : β) : Prop :=
  ∃ before after, assignments = before ++ (key, value) :: after ∧ ∀ later ∈ after, later.1 ≠ key

lemma IsLast.mem {β : Type} {assignments : List (String × β)} {key : String} {value : β}
    (h : IsLast assignments key value) : (key, value) ∈ assignments := by
  obtain ⟨before, after, rfl, -⟩ := h
  exact List.mem_append_right before List.mem_cons_self

namespace Table

variable {β : Type} {t : Table β} {assignments : List (String × β)} {key k : String} {value : β}

/-! ## Keys -/

/-- The keys of a table. -/
def keys (t : Table β) : List String := t.entries.map Prod.fst

/-- The keys of a table ascend, so that no key stands twice. -/
def IsAscending (t : Table β) : Prop := t.keys.Pairwise (· < ·)

lemma mem_keys_insert : k ∈ (t.insert key value).keys ↔ k = key ∨ k ∈ t.keys := by
  obtain ⟨entries⟩ := t
  change k ∈ (insertEntry key value entries).map Prod.fst ↔ k = key ∨ k ∈ entries.map Prod.fst
  induction entries with
  | nil => simp [insertEntry]
  | cons entry rest ih =>
    unfold insertEntry
    split_ifs with heq hlt
    · simp [heq]
    · simp
    · rw [List.map_cons, List.map_cons, List.mem_cons, List.mem_cons, ih]
      exact or_left_comm

/-- A key is put behind all that are less. -/
lemma IsAscending.insert (h : t.IsAscending) : (t.insert key value).IsAscending := by
  obtain ⟨entries⟩ := t
  change ((insertEntry key value entries).map Prod.fst).Pairwise (· < ·)
  induction entries with
  | nil => exact List.pairwise_singleton _ _
  | cons entry rest ih =>
    obtain ⟨hfirst, hrest⟩ := List.pairwise_cons.1 h
    unfold insertEntry
    split_ifs with heq hlt
    · rw [List.map_cons, heq]
      exact List.pairwise_cons.2 ⟨hfirst, hrest⟩
    · refine List.pairwise_cons.2 ⟨fun k hk => ?_, List.pairwise_cons.2 ⟨hfirst, hrest⟩⟩
      rcases List.mem_cons.1 hk with rfl | hk
      · exact hlt
      · exact hlt.trans (hfirst k hk)
    · refine List.pairwise_cons.2 ⟨fun k hk => ?_, ih hrest⟩
      rcases (mem_keys_insert (t := ⟨rest⟩)).1 hk with rfl | hk
      · exact lt_of_le_of_ne (not_lt.1 hlt) (Ne.symm heq)
      · exact hfirst k hk

lemma ofList_concat (assignments : List (String × β)) (key : String) (value : β) :
    ofList (assignments ++ [(key, value)]) = (ofList assignments).insert key value := by
  simp [ofList]

lemma isAscending_ofList (assignments : List (String × β)) : (ofList assignments).IsAscending := by
  induction assignments using List.reverseRecOn with
  | nil => exact List.Pairwise.nil
  | append_singleton assignments last ih =>
    rw [ofList_concat]
    exact ih.insert

lemma mem_keys_ofList : k ∈ (ofList assignments).keys ↔ k ∈ assignments.map Prod.fst := by
  induction assignments using List.reverseRecOn with
  | nil => exact Iff.rfl
  | append_singleton assignments last ih =>
    rw [ofList_concat, mem_keys_insert, ih]
    simp [or_comm]

/-- There are as many keys in a table as different keys were assigned. -/
theorem size_ofList (assignments : List (String × β)) :
    (ofList assignments).size = (assignments.map Prod.fst).toFinset.card := by
  have hkeys : (ofList assignments).keys.toFinset = (assignments.map Prod.fst).toFinset := by
    ext k
    rw [List.mem_toFinset, List.mem_toFinset, mem_keys_ofList]
  have hnodup : (ofList assignments).keys.Nodup :=
    (isAscending_ofList assignments).imp fun hlt => hlt.ne
  rw [← hkeys, List.toFinset_card_of_nodup hnodup]
  exact (List.length_map _).symm

/-! ## Values -/

/-- The last assignment of a key is the first one from the end. -/
lemma get?_ofList (assignments : List (String × β)) (key : String) :
    (ofList assignments).get? key = assignments.reverse.lookup key := by
  induction assignments using List.reverseRecOn with
  | nil => rfl
  | append_singleton assignments last ih =>
    rw [ofList_concat, get?_insert, ih, List.reverse_concat, List.lookup_cons]
    by_cases heq : key = last.1
    · rw [if_pos heq, beq_iff_eq.2 heq]
    · rw [if_neg heq, beq_false_of_ne heq]

/-- A key has the value that was assigned to it last. -/
theorem get?_ofList_eq_some_iff :
    (ofList assignments).get? key = some value ↔ IsLast assignments key value := by
  rw [get?_ofList, List.lookup_eq_some_iff]
  constructor
  · rintro ⟨later, earlier, heq, hlater⟩
    refine ⟨earlier.reverse, later.reverse, ?_, fun entry hentry => ?_⟩
    · rw [← List.reverse_reverse assignments, heq]
      simp
    · exact (bne_iff_ne.1 (hlater entry (List.mem_reverse.1 hentry))).symm
  · rintro ⟨before, after, rfl, hafter⟩
    refine ⟨after.reverse, before.reverse, by simp, fun entry hentry => ?_⟩
    exact bne_iff_ne.2 (hafter entry (List.mem_reverse.1 hentry)).symm

/-- A key has no value if none was assigned to it. -/
theorem get?_ofList_eq_none_iff :
    (ofList assignments).get? key = none ↔ ∀ entry ∈ assignments, entry.1 ≠ key := by
  rw [get?_ofList, List.lookup_eq_none_iff]
  refine ⟨fun h entry hentry => ?_, fun h entry hentry => ?_⟩
  · exact (bne_iff_ne.1 (h entry (List.mem_reverse.2 hentry))).symm
  · exact bne_iff_ne.2 (h entry (List.mem_reverse.1 hentry)).symm

/-- Where the keys ascend, each entry is the one that is found under its key. -/
lemma IsAscending.mem_entries_iff (h : t.IsAscending) :
    (key, value) ∈ t.entries ↔ t.get? key = some value := by
  obtain ⟨entries⟩ := t
  change _ ↔ entries.lookup key = some value
  rw [List.lookup_eq_some_iff]
  constructor
  · intro hmem
    obtain ⟨before, after, rfl⟩ := List.append_of_mem hmem
    refine ⟨before, after, rfl, fun entry hentry => bne_iff_ne.2 ?_⟩
    have hkeys : (before.map Prod.fst ++ key :: after.map Prod.fst).Pairwise (· < ·) := by
      simpa [IsAscending, keys] using h
    have hlt : entry.1 < key :=
      (List.pairwise_append.1 hkeys).2.2 _ (List.mem_map_of_mem hentry) _ List.mem_cons_self
    exact hlt.ne'
  · rintro ⟨before, after, rfl, -⟩
    exact List.mem_append_right before List.mem_cons_self

end Table

end Detection
