/-
# The order of floating-point numbers

Comparisons of floating-point numbers are not an order: a missing number is neither below nor
above anything, not even itself.  All other numbers have a position in a linear order, the same
for both zeros, and comparing them is comparing their positions.  From this follow the laws that
hold with missing numbers, too, and those that need numbers to be there.

## Main definitions

* `positionOf`: the position of an unpacked number that is not missing.
* `Float32.position`: the position of a 32-bit number.
-/
import Detection.Number.Binary
import Mathlib.Data.Int.Order.Basic
import Mathlib.Data.Prod.Lex

namespace Detection

open Float.Model (UnpackedFloat)

/-! ## Positions of unpacked numbers -/

/-- Where an unpacked number stands: negative infinity, the negative numbers, the zeros, the
positive numbers and positive infinity come in this order, and numbers of one sign are ordered
by exponent and then by mantissa, the negative ones the other way round. -/
def positionOf : UnpackedFloat → ℤ ×ₗ ℤ ×ₗ ℤ
  | .infinity .negative => toLex (-2, toLex (0, 0))
  | .finite .negative mantissa exponent _ => toLex (-1, toLex (-exponent, -mantissa))
  | .zero _ => toLex (0, toLex (0, 0))
  | .finite .positive mantissa exponent _ => toLex (1, toLex (exponent, mantissa))
  | .infinity .positive => toLex (2, toLex (0, 0))
  | .notANumber => toLex (0, toLex (0, 0))

lemma lex_triple_lt {a b c a' b' c' : ℤ} :
    (toLex (a, toLex (b, c)) : ℤ ×ₗ ℤ ×ₗ ℤ) < toLex (a', toLex (b', c')) ↔
      a < a' ∨ a = a' ∧ (b < b' ∨ b = b' ∧ c < c') := by
  simp only [Prod.Lex.toLex_lt_toLex]

lemma compare_sign_eq_lt {s t : UnpackedFloat.Sign} :
    compare s t = .lt ↔ s = .negative ∧ t = .positive := by
  cases s <;> cases t <;> simp [compare]

lemma compare_sign_eq_gt {s t : UnpackedFloat.Sign} :
    compare s t = .gt ↔ s = .positive ∧ t = .negative := by
  cases s <;> cases t <;> simp [compare]

lemma isNaN_notANumber : UnpackedFloat.notANumber.isNaN = true := rfl

lemma isNaN_infinity (s : UnpackedFloat.Sign) : (UnpackedFloat.infinity s).isNaN = false := rfl

lemma isNaN_zero (s : UnpackedFloat.Sign) : (UnpackedFloat.zero s).isNaN = false := rfl

lemma isNaN_finite (s : UnpackedFloat.Sign) (m : ℕ) (e : ℤ) (hm : 0 < m) :
    (UnpackedFloat.finite s m e hm).isNaN = false := rfl

/-- An unpacked number is below another one if both are there and its position is lower. -/
lemma compare_eq_some_lt {x y : UnpackedFloat} :
    x.compare y = some .lt ↔ x.isNaN = false ∧ y.isNaN = false ∧ positionOf x < positionOf y := by
  rcases x with (_ | _) | _ | _ | ⟨_ | _, m, e, _⟩ <;>
    rcases y with (_ | _) | _ | _ | ⟨_ | _, m', e', _⟩ <;>
    dsimp only [UnpackedFloat.compare, isNaN_notANumber, isNaN_infinity, isNaN_zero, isNaN_finite,
      positionOf] <;>
    simp [lex_triple_lt, compare_sign_eq_lt, Ordering.then_eq_lt, Ordering.then_eq_gt,
      compare_lt_iff_lt, compare_gt_iff_gt]

/-- An unpacked number is not above another one if both are there and its position is not
higher. -/
lemma any_isLE_compare {x y : UnpackedFloat} :
    (x.compare y).any (·.isLE) ↔
      x.isNaN = false ∧ y.isNaN = false ∧ positionOf x ≤ positionOf y := by
  -- Of the order on triples only the strict part is spelt out above.
  have hswap : positionOf x ≤ positionOf y ↔ ¬ positionOf y < positionOf x := not_lt.symm
  rw [hswap]
  rcases x with (_ | _) | _ | _ | ⟨_ | _, m, e, _⟩ <;>
    rcases y with (_ | _) | _ | _ | ⟨_ | _, m', e', _⟩ <;>
    dsimp only [UnpackedFloat.compare, isNaN_notANumber, isNaN_infinity, isNaN_zero, isNaN_finite,
      positionOf] <;>
    simp [lex_triple_lt, compare_sign_eq_gt, Ordering.isLE_iff_ne_gt, Ordering.isGE_iff_ne_lt,
      Ordering.then_eq_gt, Ordering.then_eq_lt, compare_lt_iff_lt, compare_gt_iff_gt] <;>
    omega

/-! ## Comparing 32-bit numbers -/

namespace Float32

/-- The position of a 32-bit number. -/
def position (x : Float32) : ℤ ×ₗ ℤ ×ₗ ℤ := positionOf x.toModel.unpack

variable {a b c : Float32}

lemma lt_iff : a < b ↔ a.isNaN = false ∧ b.isNaN = false ∧ position a < position b := by
  have h : a < b ↔ (a.toModel.unpack.compare b.toModel.unpack == some .lt) = true :=
    decide_eq_true_iff
  rw [h, beq_iff_eq, compare_eq_some_lt]
  rfl

lemma le_iff : a ≤ b ↔ a.isNaN = false ∧ b.isNaN = false ∧ position a ≤ position b := by
  have h : a ≤ b ↔ (a.toModel.unpack.compare b.toModel.unpack).any (·.isLE) = true :=
    decide_eq_true_iff
  rw [h, any_isLE_compare]
  rfl

/-! ### What holds of missing numbers, too -/

protected lemma lt_irrefl (a : Float32) : ¬ a < a := fun h => (lt_iff.1 h).2.2.false

protected lemma lt_trans (hab : a < b) (hbc : b < c) : a < c := by
  rw [lt_iff] at hab hbc ⊢
  exact ⟨hab.1, hbc.2.1, hab.2.2.trans hbc.2.2⟩

protected lemma lt_of_lt_of_le (hab : a < b) (hbc : b ≤ c) : a < c := by
  rw [lt_iff] at hab ⊢
  rw [le_iff] at hbc
  exact ⟨hab.1, hbc.2.1, hab.2.2.trans_le hbc.2.2⟩

protected lemma lt_of_le_of_lt (hab : a ≤ b) (hbc : b < c) : a < c := by
  rw [lt_iff] at hbc ⊢
  rw [le_iff] at hab
  exact ⟨hab.1, hbc.2.1, hab.2.2.trans_lt hbc.2.2⟩

protected lemma le_trans (hab : a ≤ b) (hbc : b ≤ c) : a ≤ c := by
  rw [le_iff] at hab hbc ⊢
  exact ⟨hab.1, hbc.2.1, hab.2.2.trans hbc.2.2⟩

protected lemma le_of_lt (h : a < b) : a ≤ b := by
  rw [lt_iff] at h
  exact le_iff.2 ⟨h.1, h.2.1, h.2.2.le⟩

protected lemma not_le_of_lt (h : a < b) : ¬ b ≤ a := fun h' =>
  Float32.lt_irrefl a (Float32.lt_of_lt_of_le h h')

/-! ### What needs numbers to be there -/

protected lemma not_lt (ha : a.isNaN = false) (hb : b.isNaN = false) : ¬ a < b ↔ b ≤ a := by
  rw [lt_iff, le_iff]
  constructor
  · intro h
    exact ⟨hb, ha, le_of_not_gt fun hlt => h ⟨ha, hb, hlt⟩⟩
  · intro h hlt
    exact hlt.2.2.not_ge h.2.2

protected lemma le_refl (ha : a.isNaN = false) : a ≤ a := le_iff.2 ⟨ha, ha, le_rfl⟩

/-- A finite number is there. -/
lemma isNaN_of_isFinite (h : a.isFinite) : a.isNaN = false := by
  change a.toModel.unpack.isFinite = true at h
  change a.toModel.unpack.isNaN = false
  cases hx : a.toModel.unpack with
  | notANumber =>
    rw [hx] at h
    exact absurd h Bool.false_ne_true
  | infinity s => exact isNaN_infinity s
  | zero s => exact isNaN_zero s
  | finite s m e hm => exact isNaN_finite s m e hm

lemma unpack_neg_infinity32 : (-infinity32).toModel.unpack = .infinity .negative := by
  rfl

/-- Negative infinity is below every finite number. -/
lemma neg_infinity32_lt (h : a.isFinite) : -infinity32 < a := by
  refine lt_iff.2 ⟨?_, isNaN_of_isFinite h, ?_⟩
  · change (-infinity32).toModel.unpack.isNaN = false
    rw [unpack_neg_infinity32]
    rfl
  · rw [position, position, unpack_neg_infinity32]
    change a.toModel.unpack.isFinite = true at h
    rcases hx : a.toModel.unpack with s | _ | s | ⟨_ | _, m, e, hm⟩
    · rw [hx] at h
      exact absurd h Bool.false_ne_true
    · rw [hx] at h
      exact absurd h Bool.false_ne_true
    all_goals
      dsimp only [positionOf]
      simp [lex_triple_lt]

end Float32

/-! ## Comparing 64-bit numbers -/

namespace Float

variable {a b : Float}

lemma lt_iff : a < b ↔ a.isNaN = false ∧ b.isNaN = false ∧
    positionOf a.toModel.unpack < positionOf b.toModel.unpack := by
  have h : a < b ↔ (a.toModel.unpack.compare b.toModel.unpack == some .lt) = true :=
    decide_eq_true_iff
  rw [h, beq_iff_eq, compare_eq_some_lt]
  rfl

lemma le_iff : a ≤ b ↔ a.isNaN = false ∧ b.isNaN = false ∧
    positionOf a.toModel.unpack ≤ positionOf b.toModel.unpack := by
  have h : a ≤ b ↔ (a.toModel.unpack.compare b.toModel.unpack).any (·.isLE) = true :=
    decide_eq_true_iff
  rw [h, any_isLE_compare]
  rfl

protected lemma not_lt (ha : a.isNaN = false) (hb : b.isNaN = false) : ¬ a < b ↔ b ≤ a := by
  rw [lt_iff, le_iff, ha, hb]
  simp

end Float

/-! ## The larger and the smaller of two numbers -/

/-- Where neither of two numbers is missing, the larger one is not above a bound exactly if
neither is. -/
lemma greatest32_le_iff {a b c : Float32} (ha : a.isNaN = false) (hb : b.isNaN = false) :
    greatest32 a b ≤ c ↔ a ≤ c ∧ b ≤ c := by
  unfold greatest32
  rw [ha, if_neg Bool.false_ne_true]
  split
  · rename_i hab
    exact ⟨fun h => ⟨Float32.le_trans (Float32.le_of_lt hab) h, h⟩, fun h => h.2⟩
  · rename_i hab
    exact ⟨fun h => ⟨h, Float32.le_trans ((Float32.not_lt ha hb).1 hab) h⟩, fun h => h.1⟩

lemma isNaN_greatest32 {a b : Float32} (ha : a.isNaN = false) (hb : b.isNaN = false) :
    (greatest32 a b).isNaN = false := by
  unfold greatest32
  rw [ha, if_neg Bool.false_ne_true]
  split <;> assumption

/-- Where neither of two numbers is missing, the smaller one is not below a bound exactly if
neither is. -/
lemma le_least32_iff {a b c : Float32} (ha : a.isNaN = false) (hb : b.isNaN = false) :
    c ≤ least32 a b ↔ c ≤ a ∧ c ≤ b := by
  unfold least32
  rw [ha, if_neg Bool.false_ne_true]
  split
  · rename_i hba
    exact ⟨fun h => ⟨Float32.le_trans h (Float32.le_of_lt hba), h⟩, fun h => h.2⟩
  · rename_i hba
    exact ⟨fun h => ⟨h, Float32.le_trans h ((Float32.not_lt hb ha).1 hba)⟩, fun h => h.1⟩

lemma isNaN_least32 {a b : Float32} (ha : a.isNaN = false) (hb : b.isNaN = false) :
    (least32 a b).isNaN = false := by
  unfold least32
  rw [ha, if_neg Bool.false_ne_true]
  split <;> assumption

/-- The least of several numbers, none of which is missing, is not below a bound exactly if none of
them is. -/
lemma le_foldl_least32_iff {numbers : List Float32} {start bound : Float32}
    (hstart : start.isNaN = false) (hnumbers : ∀ number ∈ numbers, number.isNaN = false) :
    bound ≤ numbers.foldl least32 start ↔ bound ≤ start ∧ ∀ number ∈ numbers, bound ≤ number := by
  induction numbers generalizing start with
  | nil => simp
  | cons number rest ih =>
    have hnumber := hnumbers number List.mem_cons_self
    rw [List.foldl_cons, ih (isNaN_least32 hstart hnumber)
      fun other hother => hnumbers other (List.mem_cons_of_mem number hother),
      le_least32_iff hstart hnumber, List.forall_mem_cons, and_assoc]

/-! ## Integer parts -/

lemma countOf_eq (x : Float32) :
    countOf x = min (x.toModel.unpack.toInt 0 (UInt64.size - 1)).toNat (UInt64.size - 1) := by
  change (UInt64.ofNatClamp (x.toModel.unpack.toInt 0 (UInt64.size - 1)).toNat).toNat = _
  unfold UInt64.ofNatClamp
  split
  · rw [UInt64.toNat_ofNatLT]
    omega
  · rw [UInt64.toNat_ofNatLT]
    omega

/-- As long as a count fits into 63 bits, it is the integer part kept within 64 bits, negative
parts counting as zero. -/
lemma toNat_wholePart32 {x : Float32} (h : countOf x < 0x8000000000000000) :
    (wholePart32 x).toNat = countOf x := by
  rw [countOf_eq] at h ⊢
  simp only [wholePart32, truncate, clampInt, minInt64, maxInt64, UInt64.size] at h ⊢
  generalize x.toModel.unpack = unpacked at h ⊢
  rcases unpacked with (_ | _) | _ | _ | ⟨sign, mantissa, exponent, _⟩
  all_goals
    dsimp only [UnpackedFloat.toInt] at h ⊢
    omega

end Detection
