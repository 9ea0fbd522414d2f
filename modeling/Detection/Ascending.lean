/-
# Ascending lists of numbers, each number once
-/
namespace Detection

/-- A number put in its place in an ascending list, unless it is there already. -/
def insertAscending (n : Nat) : List Nat → List Nat
  | [] => [n]
  | m :: rest =>
    if n < m then n :: m :: rest
    else if n = m then m :: rest
    else m :: insertAscending n rest

/-- The numbers of a list in ascending order, each once. -/
def ascending (numbers : List Nat) : List Nat :=
  numbers.foldr insertAscending []

@[simp] theorem mem_insertAscending {n k : Nat} {numbers : List Nat} :
    k ∈ insertAscending n numbers ↔ k = n ∨ k ∈ numbers := by
  induction numbers with
  | nil => simp [insertAscending]
  | cons m rest ih =>
    unfold insertAscending
    split
    · simp
    · split
      · rename_i h
        simp [h]
      · simp only [List.mem_cons, ih]
        constructor
        · rintro (h | h | h) <;> simp [h]
        · rintro (h | h | h) <;> simp [h]

/-- Nothing is lost and nothing added. -/
@[simp] theorem mem_ascending {k : Nat} {numbers : List Nat} :
    k ∈ ascending numbers ↔ k ∈ numbers := by
  induction numbers with
  | nil => simp [ascending]
  | cons n rest ih =>
    have h : ascending (n :: rest) = insertAscending n (ascending rest) := rfl
    rw [h, mem_insertAscending, ih, List.mem_cons]

/-- Inserting keeps a list ascending. -/
theorem pairwise_insertAscending {n : Nat} {numbers : List Nat}
    (h : numbers.Pairwise (· < ·)) : (insertAscending n numbers).Pairwise (· < ·) := by
  induction numbers with
  | nil => simp [insertAscending]
  | cons m rest ih =>
    rw [List.pairwise_cons] at h
    unfold insertAscending
    split
    · rename_i hlt
      refine List.pairwise_cons.2 ⟨fun k hk => ?_, List.pairwise_cons.2 h⟩
      rcases List.mem_cons.1 hk with rfl | hk
      · exact hlt
      · exact Nat.lt_trans hlt (h.1 k hk)
    · split
      · exact List.pairwise_cons.2 h
      · rename_i hge hne
        refine List.pairwise_cons.2 ⟨fun k hk => ?_, ih h.2⟩
        rcases mem_insertAscending.1 hk with rfl | hk
        · omega
        · exact h.1 k hk

/-- The numbers are in ascending order, each once. -/
theorem pairwise_ascending (numbers : List Nat) : (ascending numbers).Pairwise (· < ·) := by
  induction numbers with
  | nil => exact List.Pairwise.nil
  | cons n rest ih => exact pairwise_insertAscending ih

end Detection
