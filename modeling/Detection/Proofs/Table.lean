/-
# Tables in one row

A buffer often holds a table, one row after the other, and the rows may be made up of shorter rows
again.  Where all rows are equally long, the index of an entry tells its row and its column.
-/
import Mathlib.Data.Nat.Notation

namespace Detection

/-! ## Indices -/

/-- An index within a row of a table is an index within the table. -/
lemma row_add_lt {row rows column columns : ℕ} (hrow : row < rows) (hcolumn : column < columns) :
    row * columns + column < rows * columns := by
  calc row * columns + column < row * columns + columns := by omega
    _ = (row + 1) * columns := (Nat.succ_mul row columns).symm
    _ ≤ rows * columns := Nat.mul_le_mul_right columns hrow

lemma row_add_inj {row row' column column' columns : ℕ} (hcolumn : column < columns)
    (hcolumn' : column' < columns) :
    row * columns + column = row' * columns + column' ↔ row = row' ∧ column = column' := by
  have hpos : 0 < columns := Nat.zero_lt_of_lt hcolumn
  constructor
  · intro h
    have hrow := congrArg (· / columns) h
    have hmod := congrArg (· % columns) h
    simp only [Nat.mul_comm _ columns, Nat.mul_add_div hpos, Nat.div_eq_of_lt hcolumn,
      Nat.div_eq_of_lt hcolumn', Nat.add_zero] at hrow
    simp only [Nat.mul_comm _ columns, Nat.mul_add_mod, Nat.mod_eq_of_lt hcolumn,
      Nat.mod_eq_of_lt hcolumn'] at hmod
    exact ⟨hrow, hmod⟩
  · rintro ⟨rfl, rfl⟩
    rfl

lemma exists_row_add {rows columns index : ℕ} (h : index < rows * columns) :
    ∃ row < rows, ∃ column < columns, row * columns + column = index := by
  have hpos : 0 < columns := Nat.pos_of_mul_pos_left (Nat.zero_lt_of_lt h)
  refine ⟨index / columns, ?_, index % columns, Nat.mod_lt _ hpos, Nat.div_add_mod' _ _⟩
  exact Nat.div_lt_of_lt_mul (by rwa [Nat.mul_comm])

/-! ## Entries -/

section Entries

variable {α : Type} {f : ℕ → List α} {rows columns row column : ℕ}
  (hlength : ∀ r, (f r).length = columns)

include hlength

lemma length_flatMap_range : ((List.range rows).flatMap f).length = rows * columns := by
  induction rows with
  | zero => simp
  | succ rows ih =>
    rw [List.range_succ, List.flatMap_append, List.flatMap_singleton, List.length_append, ih,
      hlength, Nat.succ_mul]

/-- The entries of a row are found behind the rows before it. -/
lemma getElem?_flatMap_range (hrow : row < rows) (hcolumn : column < columns) :
    ((List.range rows).flatMap f)[row * columns + column]? = (f row)[column]? := by
  induction rows with
  | zero => exact absurd hrow (Nat.not_lt_zero row)
  | succ rows ih =>
    have hrows : ((List.range rows).flatMap f).length = rows * columns :=
      length_flatMap_range hlength
    rw [List.range_succ, List.flatMap_append, List.flatMap_singleton]
    rcases Nat.lt_succ_iff_lt_or_eq.1 hrow with hlt | rfl
    · rw [List.getElem?_append_left (hrows ▸ row_add_lt hlt hcolumn)]
      exact ih hlt
    · rw [List.getElem?_append_right (hrows ▸ Nat.le_add_right _ _), hrows, Nat.add_sub_cancel_left]

end Entries

end Detection
