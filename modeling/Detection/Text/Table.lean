/-
# Tables with text keys

A table holds its entries in ascending order of the keys, one entry for each key.
-/
namespace Detection

/-- Values under text keys, ascending. -/
structure Table (β : Type) where
  /-- The keys with their values. -/
  entries : List (String × β)
deriving DecidableEq

namespace Table

variable {β : Type}

/-- The table without entries. -/
def empty : Table β := ⟨[]⟩

/-- A key's entry put in its place, or in the place of the entry that the key had. -/
def insertEntry (key : String) (value : β) : List (String × β) → List (String × β)
  | [] => [(key, value)]
  | entry :: rest =>
    if key = entry.1 then (key, value) :: rest
    else if key < entry.1 then (key, value) :: entry :: rest
    else entry :: insertEntry key value rest

/-- The table in which a key has a value, whatever it had before. -/
def insert (t : Table β) (key : String) (value : β) : Table β :=
  ⟨insertEntry key value t.entries⟩

/-- The table of a list of assignments; a later one of the same key wins. -/
def ofList (assignments : List (String × β)) : Table β :=
  assignments.foldl (fun t a => t.insert a.1 a.2) empty

/-- The value of a key. -/
def get? (t : Table β) (key : String) : Option β :=
  t.entries.lookup key

/-- The number of keys. -/
def size (t : Table β) : Nat :=
  t.entries.length

theorem lookup_insertEntry (key other : String) (value : β) (entries : List (String × β)) :
    (insertEntry key value entries).lookup other =
      if other = key then some value else entries.lookup other := by
  induction entries with
  | nil =>
    by_cases h : other = key
    · simp [insertEntry, h]
    · simp [insertEntry, List.lookup_cons, h, beq_false_of_ne h]
  | cons entry rest ih =>
    obtain ⟨k, v⟩ := entry
    by_cases h : other = key
    · subst h
      unfold insertEntry
      by_cases hk : other = k
      · simp [hk]
      · by_cases hlt : other < k
        · simp [hk, hlt]
        · simp [hk, hlt, List.lookup_cons, beq_false_of_ne hk, ih]
    · unfold insertEntry
      by_cases hk : key = k
      · subst hk
        simp [h, List.lookup_cons, beq_false_of_ne h]
      · by_cases hlt : key < k
        · simp [hk, hlt, h, List.lookup_cons, beq_false_of_ne h]
        · by_cases ho : other = k
          · simp [hk, hlt, Ne.symm hk, ho]
          · simp [hk, hlt, h, List.lookup_cons, beq_false_of_ne ho, ih]

/-- Reading after writing. -/
theorem get?_insert (t : Table β) (key other : String) (value : β) :
    (t.insert key value).get? other = if other = key then some value else t.get? other :=
  lookup_insertEntry key other value t.entries

@[simp] theorem get?_empty (key : String) : (empty : Table β).get? key = none := rfl

end Table

end Detection
