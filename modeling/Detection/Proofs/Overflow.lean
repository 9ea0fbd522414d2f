/-
# Results that fit into their words

A result that fits into its word is the same in every build.  For a product that is not zero it is
enough that the last result fits, and so it is for a sum.  Whatever a build that gives up computes
is exact.

The main results are `Build.product_eq_ok` and `Build.eq_prod_of_product_eq_ok`, and
`Build.product_of_wrapped` for the build that goes on.
-/
import Detection.Overflow
import Detection.Proofs.Outcome
import Mathlib.Algebra.BigOperators.Ring.List
import Mathlib.Algebra.Order.Ring.Nat

namespace Detection

/-- A number does not fit into a word. -/
def Fault.IsOverflow (fault : Fault) : Prop :=
  fault = .overflow

namespace Build

section

variable [Build] {α : Type}

/-! ## One result -/

lemma fitted_true (left : α) : fitted true left = .ok left := rfl

lemma failsOnly_fitted (fits : Bool) (left : α) :
    FailsOnly Fault.IsOverflow (fitted fits left) := by
  unfold fitted
  split <;> simp [Fault.IsOverflow]

lemma eq_of_fitted_eq_ok {fits : Bool} {left a : α} (h : fitted fits left = .ok a) : a = left := by
  unfold fitted at h
  split at h
  · cases h
  · exact (Except.ok.inj h).symm

lemma fitted_of_caught (h : overflow = .caught) (left : α) :
    fitted false left = .error .overflow := by
  unfold fitted
  rw [h]
  rfl

/-- A build that gives up goes on only if the result fits. -/
lemma fits_of_fitted_eq_ok (hcaught : overflow = .caught) {fits : Bool} {left a : α}
    (h : fitted fits left = .ok a) : fits = true := by
  cases fits with
  | true => rfl
  | false =>
    rw [fitted_of_caught hcaught] at h
    cases h

lemma natural_of_lt {n : ℕ} (h : n < UInt64.size) : natural n = .ok n := by
  have hleft : (n : ℤ) % UInt64.size = n := Int.emod_eq_of_lt (by omega) (by omega)
  simp only [natural, hleft, beq_self_eq_true, fitted_true, Int.toNat_natCast]

lemma int64_of_mem {n : ℤ} (hlow : minInt64 ≤ n) (hhigh : n ≤ maxInt64) : int64 n = .ok n := by
  unfold minInt64 at hlow
  unfold maxInt64 at hhigh
  have hleft : n.bmod UInt64.size = n :=
    Int.bmod_eq_of_le (by simp [UInt64.size]; omega) (by simp [UInt64.size]; omega)
  simp only [int64, hleft, beq_self_eq_true, fitted_true]

lemma int64_of_caught (h : overflow = .caught) {n : ℤ} (hn : n.bmod UInt64.size ≠ n) :
    int64 n = .error .overflow := by
  unfold int64
  dsimp only
  rw [beq_false_of_ne hn]
  exact fitted_of_caught h _

lemma int32_of_mem {n : ℤ} (hlow : minInt32 ≤ n) (hhigh : n ≤ maxInt32) : int32 n = .ok n := by
  unfold minInt32 at hlow
  unfold maxInt32 at hhigh
  have hleft : n.bmod UInt32.size = n :=
    Int.bmod_eq_of_le (by simp [UInt32.size]; omega) (by simp [UInt32.size]; omega)
  simp only [int32, hleft, beq_self_eq_true, fitted_true]

lemma kept_of_lt {n : ℕ} (h : n < UInt64.size) : kept n = n := by
  unfold kept
  split
  · rfl
  · exact Nat.mod_eq_of_lt h

lemma kept_of_caught (h : overflow = .caught) (n : ℕ) : kept n = n := by
  unfold kept
  rw [h]

lemma eq_of_natural_eq_ok (hcaught : overflow = .caught) {m n : ℕ} (h : natural m = .ok n) :
    n = m ∧ m < UInt64.size := by
  have hfits := fits_of_fitted_eq_ok hcaught h
  have hleft := eq_of_fitted_eq_ok h
  rw [beq_iff_eq] at hfits
  have hbound := Int.emod_lt_of_pos (m : ℤ) (by decide : (0 : ℤ) < UInt64.size)
  omega

lemma failsOnly_natural (n : ℤ) : FailsOnly Fault.IsOverflow (natural n) :=
  failsOnly_fitted _ _

lemma failsOnly_int64 (n : ℤ) : FailsOnly Fault.IsOverflow (int64 n) :=
  failsOnly_fitted _ _

lemma failsOnly_int32 (n : ℤ) : FailsOnly Fault.IsOverflow (int32 n) :=
  failsOnly_fitted _ _

lemma lt_of_natural_eq_ok {n : ℤ} {m : ℕ} (h : natural n = .ok m) : m < UInt64.size := by
  have hleft := eq_of_fitted_eq_ok h
  have hlow := Int.emod_nonneg n (by decide : (UInt64.size : ℤ) ≠ 0)
  have hhigh := Int.emod_lt_of_pos n (by decide : (0 : ℤ) < UInt64.size)
  omega

/-! ## Products and sums -/

/-- A build that gives up computes the exact result, step by step. -/
lemma eq_foldl_of_foldlM_eq_ok (hcaught : overflow = .caught) {op : ℕ → ℕ → ℕ} {list : List ℕ}
    {start n : ℕ} (h : list.foldlM (fun total k => natural (op total k : ℕ)) start = .ok n) :
    n = list.foldl op start := by
  induction list generalizing start with
  | nil => exact (Except.ok.inj h).symm
  | cons k rest ih =>
    rw [List.foldlM_cons] at h
    obtain ⟨next, hnext, h⟩ := exists_of_bind_eq_ok h
    rw [ih h, (eq_of_natural_eq_ok hcaught hnext).1, List.foldl_cons]

lemma lt_of_foldlM_eq_ok {op : ℕ → ℕ → ℕ} {list : List ℕ} {start n : ℕ}
    (hstart : start < UInt64.size)
    (h : list.foldlM (fun total k => natural (op total k : ℕ)) start = .ok n) :
    n < UInt64.size := by
  induction list generalizing start with
  | nil => exact Except.ok.inj h ▸ hstart
  | cons k rest ih =>
    rw [List.foldlM_cons] at h
    obtain ⟨next, hnext, h⟩ := exists_of_bind_eq_ok h
    exact ih (lt_of_natural_eq_ok hnext) h

lemma failsOnly_foldlM {op : ℕ → ℕ → ℕ} (list : List ℕ) (start : ℕ) :
    FailsOnly Fault.IsOverflow
      (list.foldlM (fun total k => natural (op total k : ℕ)) start) := by
  induction list generalizing start with
  | nil => exact FailsOnly.ok start
  | cons k rest ih =>
    rw [List.foldlM_cons]
    exact (failsOnly_natural _).bind fun next _ => ih next

section Products

variable {factors terms : List ℕ} {n : ℕ}

lemma failsOnly_product (factors : List ℕ) : FailsOnly Fault.IsOverflow (product factors) :=
  failsOnly_foldlM factors 1

lemma failsOnly_sum (terms : List ℕ) : FailsOnly Fault.IsOverflow (sum terms) :=
  failsOnly_foldlM terms 0

lemma lt_of_product_eq_ok (h : product factors = .ok n) : n < UInt64.size :=
  lt_of_foldlM_eq_ok (by decide) h

lemma eq_prod_of_product_eq_ok (hcaught : overflow = .caught) (h : product factors = .ok n) :
    n = factors.prod := by
  rw [List.prod_eq_foldl]
  exact eq_foldl_of_foldlM_eq_ok hcaught h

lemma eq_sum_of_sum_eq_ok (hcaught : overflow = .caught) (h : sum terms = .ok n) :
    n = terms.sum := by
  rw [List.sum_eq_foldl]
  exact eq_foldl_of_foldlM_eq_ok hcaught h

/-- A product fits if that of larger factors does and is not zero: the products of the first factors
are no larger than it. -/
lemma product_eq_ok_of_forall₂ {bounds : List ℕ} (h : List.Forall₂ (· ≤ ·) factors bounds)
    (hpos : 0 < bounds.prod) (hlt : bounds.prod < UInt64.size) :
    product factors = .ok factors.prod := by
  have hfold : ∀ total, total * bounds.prod < UInt64.size →
      factors.foldlM (fun total factor => natural (total * factor : ℕ)) total =
        .ok (total * factors.prod) := by
    clear hlt
    induction h with
    | nil => exact fun total _ => by rw [List.prod_nil, Nat.mul_one]; rfl
    | cons hfactor _ ih =>
      rw [List.prod_cons] at hpos
      have hrest := Nat.pos_of_mul_pos_left hpos
      intro total hlt
      rw [List.prod_cons, ← Nat.mul_assoc] at hlt
      have hle := Nat.mul_le_mul_left total hfactor
      have hfirst := hle.trans_lt ((Nat.le_mul_of_pos_right _ hrest).trans_lt hlt)
      rw [List.foldlM_cons, natural_of_lt hfirst, ok_bind,
        ih hrest _ ((Nat.mul_le_mul_right _ hle).trans_lt hlt), List.prod_cons, Nat.mul_assoc]
  have hone := hfold 1
  rw [Nat.one_mul, Nat.one_mul] at hone
  exact hone hlt

lemma product_eq_ok (hpos : 0 < factors.prod) (h : factors.prod < UInt64.size) :
    product factors = .ok factors.prod :=
  product_eq_ok_of_forall₂ (List.forall₂_same.2 fun factor _ => le_refl factor) hpos h

/-- A product fits if that of larger factors divides a number that does and is not zero. -/
lemma product_eq_ok_of_dvd (hpos : 0 < n) (hlt : n < UInt64.size) (factors bounds : List ℕ)
    (h : List.Forall₂ (· ≤ ·) factors bounds) (hdvd : bounds.prod ∣ n) :
    product factors = .ok factors.prod :=
  product_eq_ok_of_forall₂ h (Nat.pos_of_dvd_of_pos hdvd hpos)
    ((Nat.le_of_dvd hpos hdvd).trans_lt hlt)

/-- The sums of the first terms are no larger than that of all. -/
lemma sum_eq_ok (h : terms.sum < UInt64.size) : sum terms = .ok terms.sum := by
  have hfold : ∀ (terms : List ℕ) (total : ℕ), total + terms.sum < UInt64.size →
      terms.foldlM (fun total term => natural (total + term : ℕ)) total =
        .ok (total + terms.sum) := by
    intro terms
    induction terms with
    | nil => exact fun total _ => rfl
    | cons term rest ih =>
      intro total h
      rw [List.sum_cons, ← Nat.add_assoc] at h ⊢
      rw [List.foldlM_cons, natural_of_lt (Nat.lt_of_le_of_lt (Nat.le_add_right _ _) h), ok_bind]
      exact ih _ h
  have hzero := hfold terms 0
  rw [Nat.zero_add] at hzero
  exact hzero h

/-! ## Exact results -/

/-- A computation gives the exact result on a condition; and without the condition a build that
gives up gives no other. -/
structure Gives (fits : Prop) (x : Except Fault α) (a : α) : Prop where
  eq_ok : fits → x = .ok a
  eq_ok_or : overflow = .caught → x = .ok a ∨ x = .error .overflow

section Gives

variable {β : Type} {fits : Prop} {x : Except Fault α} {a : α}

lemma Gives.of_eq_ok (h : x = .ok a) : Gives fits x a :=
  ⟨fun _ => h, fun _ => .inl h⟩

lemma Gives.bind {f : α → Except Fault β} {b : β} (hx : Gives fits x a)
    (hf : Gives fits (f a) b) : Gives fits (x >>= f) b := by
  constructor
  · intro h
    rw [hx.eq_ok h]
    exact hf.eq_ok h
  · intro hcaught
    rcases hx.eq_ok_or hcaught with h | h
    · rw [h]
      exact hf.eq_ok_or hcaught
    · rw [h]
      exact .inr rfl

/-- Nothing but the exact result is given. -/
lemma Gives.eq (h : Gives fits x a) (hcase : overflow = .caught ∨ fits) {b : α}
    (hb : x = .ok b) : b = a := by
  rcases hcase with hcaught | hfits
  · rcases h.eq_ok_or hcaught with h | h
    · exact Except.ok.inj (hb.symm.trans h)
    · cases hb.symm.trans h
  · exact Except.ok.inj (hb.symm.trans (h.eq_ok hfits))

lemma Gives.failsOnly (h : Gives fits x a) (hcaught : overflow = .caught) :
    FailsOnly Fault.IsOverflow x := by
  rcases h.eq_ok_or hcaught with h | h
  · exact h ▸ FailsOnly.ok a
  · exact h ▸ FailsOnly.error_iff.2 rfl

/-- Where each step gives something that belongs there, so does going through the list. -/
lemma Gives.exists_mapM {γ : Type} {f : β → Except Fault γ} {R : β → γ → Prop} {list : List β}
    (h : ∀ b ∈ list, ∃ c, Gives fits (f b) c ∧ R b c) :
    ∃ found, Gives fits (list.mapM f) found ∧ List.Forall₂ R list found := by
  induction list with
  | nil => exact ⟨[], .of_eq_ok rfl, .nil⟩
  | cons b rest ih =>
    obtain ⟨c, hc, hbc⟩ := h b List.mem_cons_self
    obtain ⟨cs, hcs, hrest⟩ := ih fun b' hb' => h b' (List.mem_cons_of_mem b hb')
    refine ⟨c :: cs, ?_, .cons hbc hrest⟩
    rw [List.mapM_cons]
    exact hc.bind (hcs.bind (.of_eq_ok rfl))

lemma Gives.mapM {γ : Type} {f : β → Except Fault γ} {g : β → γ} {list : List β}
    (h : ∀ b ∈ list, Gives fits (f b) (g b)) : Gives fits (list.mapM f) (list.map g) := by
  obtain ⟨found, hfound, hall⟩ := exists_mapM (R := fun b c => g b = c)
    fun b hb => ⟨g b, h b hb, rfl⟩
  rw [← List.forall₂_map_left_iff, List.forall₂_eq_eq_eq] at hall
  exact hall ▸ hfound

lemma Gives.of_eq (hok : fits → x = .ok a)
    (heq : overflow = .caught → ∀ {b}, x = .ok b → b = a)
    (hfails : FailsOnly Fault.IsOverflow x) : Gives fits x a := by
  refine ⟨hok, fun hcaught => ?_⟩
  cases hx : x with
  | ok b => exact .inl (congrArg Except.ok (heq hcaught hx))
  | error fault => exact .inr (congrArg Except.error (hfails fault hx))

lemma gives_natural {n : ℕ} (h : fits → n < UInt64.size) : Gives fits (natural n) n :=
  .of_eq (fun hfits => natural_of_lt (h hfits))
    (fun hcaught _ hb => (eq_of_natural_eq_ok hcaught hb).1) (failsOnly_natural n)

lemma gives_int32 {n : ℤ} (h : fits → minInt32 ≤ n ∧ n ≤ maxInt32) : Gives fits (int32 n) n := by
  refine .of_eq (fun hfits => int32_of_mem (h hfits).1 (h hfits).2) ?_ (failsOnly_int32 n)
  intro hcaught b hb
  have hsame := fits_of_fitted_eq_ok hcaught hb
  rw [beq_iff_eq] at hsame
  exact (eq_of_fitted_eq_ok hb).trans hsame

/-- A product is exact where a number fits that the product of larger factors divides. -/
lemma gives_product_of_dvd {n : ℕ} (hpos : 0 < n) (h : fits → n < UInt64.size)
    (factors bounds : List ℕ) (hbounds : List.Forall₂ (· ≤ ·) factors bounds)
    (hdvd : bounds.prod ∣ n) : Gives fits (product factors) factors.prod :=
  .of_eq (fun hfits => product_eq_ok_of_dvd hpos (h hfits) factors bounds hbounds hdvd)
    (fun hcaught _ hb => eq_prod_of_product_eq_ok hcaught hb) (failsOnly_product factors)

lemma gives_sum {terms : List ℕ} (h : fits → terms.sum < UInt64.size) :
    Gives fits (sum terms) terms.sum :=
  .of_eq (fun hfits => sum_eq_ok (h hfits)) (fun hcaught _ hb => eq_sum_of_sum_eq_ok hcaught hb)
    (failsOnly_sum terms)

end Gives

/-! ## A build that goes on -/

lemma fitted_of_wrapped (h : overflow = .wrapped) (fits : Bool) (left : α) :
    fitted fits left = .ok left := by
  unfold fitted
  rw [h]
  cases fits <;> rfl

lemma int64_of_wrapped (h : overflow = .wrapped) (n : ℤ) : int64 n = .ok (n.bmod UInt64.size) :=
  fitted_of_wrapped h _ _

lemma natural_of_wrapped (h : overflow = .wrapped) (n : ℕ) :
    natural n = .ok (n % UInt64.size) :=
  fitted_of_wrapped h _ _

/-- What is cut off on the way makes no difference to what is left in the end. -/
lemma foldlM_of_wrapped (h : overflow = .wrapped) {op : ℕ → ℕ → ℕ}
    (hop : ∀ total k, op (total % UInt64.size) k % UInt64.size = op total k % UInt64.size)
    (list : List ℕ) (start : ℕ) :
    list.foldlM (fun total k => natural (op total k : ℕ)) (start % UInt64.size) =
      .ok (list.foldl op start % UInt64.size) := by
  induction list generalizing start with
  | nil => rfl
  | cons k rest ih => rw [List.foldlM_cons, natural_of_wrapped h, ok_bind, hop, ih, List.foldl_cons]

lemma product_of_wrapped (h : overflow = .wrapped) (factors : List ℕ) :
    product factors = .ok (factors.prod % UInt64.size) := by
  rw [List.prod_eq_foldl]
  exact foldlM_of_wrapped h (fun total factor => Nat.mod_mul_mod total factor _) factors 1

lemma sum_of_wrapped (h : overflow = .wrapped) (terms : List ℕ) :
    sum terms = .ok (terms.sum % UInt64.size) := by
  rw [List.sum_eq_foldl]
  exact foldlM_of_wrapped h (fun total term => Nat.mod_add_mod total _ term) terms 0

end Products

end

/-- The build that goes on with what is left. -/
@[reducible] def wrapping : Build := ⟨.wrapped⟩

end Build

end Detection
