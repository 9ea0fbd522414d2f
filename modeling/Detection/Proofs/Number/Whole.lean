/-
# Whole numbers as 32-bit numbers

A whole number of up to 23 binary digits has a 32-bit number of the same value, and every whole
number is read as the nearest one.  So adding a whole number moves what lies between two whole
numbers to between two others, however it is rounded.

The main results are `Float32.grade_ofNat` and `Float32.add_ofNat_mem`.
-/
import Detection.Proofs.Number.Scaling

namespace Detection

open Float.Model (UnpackedFloat Format)
open Float.Model.UnpackedFloat (Sign)

namespace Float32

variable {a : Float32} {n k : ℕ}

/-! ## Reading whole numbers -/

/-- Whole numbers of up to 23 binary digits have a 32-bit number each, and so have their multiples
by powers of two that are neither too large nor too small. -/
lemma exists_isPacked_valueOf_eq_mul {k : ℤ} (hpos : 0 < n) (h : n < 0x800000) (hlow : -126 ≤ k)
    (hhigh : k ≤ 104) : ∃ x, IsPacked x ∧ x.isFinite ∧ valueOf x = n * 2 ^ k := by
  have hlog : n.log2 < 23 := (Nat.log2_lt hpos.ne').2 h
  have hdigits : 2 ^ n.log2 ≤ n := Nat.log2_self_le hpos.ne'
  have hdigits' : n < 2 ^ (n.log2 + 1) := Nat.lt_log2_self
  have hsplit : 2 ^ n.log2 * 2 ^ (23 - n.log2) = 0x800000 := by
    rw [← pow_add, Nat.add_sub_cancel' hlog.le]
    rfl
  refine ⟨.finite .positive (n * 2 ^ (23 - n.log2)) (n.log2 - 23 + k) (by positivity), ?_, rfl, ?_⟩
  · refine ⟨⟨?_, by omega, .inl ?_⟩, by omega⟩
    · calc n * 2 ^ (23 - n.log2) < 2 ^ (n.log2 + 1) * 2 ^ (23 - n.log2) :=
            Nat.mul_lt_mul_of_pos_right hdigits' (by positivity)
        _ = 2 * (2 ^ n.log2 * 2 ^ (23 - n.log2)) := by ring
        _ = 0x1000000 := by rw [hsplit]
    · rw [← hsplit]
      exact Nat.mul_le_mul_right _ hdigits
  · have hshift : ((2 : ℚ) ^ (23 - n.log2)) * 2 ^ ((n.log2 : ℤ) - 23) = 1 := by
      rw [← zpow_natCast, ← zpow_add₀ two_ne_zero, Nat.cast_sub hlog.le]
      norm_num
    rw [valueOf, apply_positive, zpow_add₀ two_ne_zero]
    push_cast
    rw [← mul_assoc, mul_assoc (n : ℚ), hshift, mul_one]

/-- Whole numbers of up to 23 binary digits have a 32-bit number each. -/
lemma exists_isPacked_valueOf_eq (h : n < 0x800000) :
    ∃ x, IsPacked x ∧ x.isFinite ∧ valueOf x = n := by
  obtain rfl | hpos := Nat.eq_zero_or_pos n
  · exact ⟨.zero .positive, trivial, rfl, by rw [valueOf_zero, Nat.cast_zero]⟩
  · simpa using exists_isPacked_valueOf_eq_mul hpos h (k := 0) (by decide) (by decide)

/-- A number of the grade of an exact one that can be packed has its value. -/
lemma value_of_grade_eq {x : UnpackedFloat} (hx : IsPacked x) (hfx : x.isFinite)
    (ha : a.isNaN = false) (h : grade a = nearestGrade (valueOf x)) :
    a.isFinite ∧ value a = valueOf x := by
  have hgrade : grade a = gradeOf x := h.trans (gradeOf_eq_nearestGrade hx hfx).symm
  have hlimits := gradeOf_lt_of_isFinite hx hfx
  have hfinite : a.isFinite := by
    by_contra hinfinite
    have houter := grade_of_isFinite_eq_false ha (Bool.not_eq_true _ ▸ hinfinite)
    omega
  exact ⟨hfinite, valueOf_eq_of_gradeOf_eq (isPacked_unpack _) hx hfinite hfx hgrade⟩

/-- A whole number is read as the number nearest to it. -/
lemma rounds_ofScientific (n : ℕ) : Rounds (UnpackedFloat.ofScientific .binary32 n 0) n := by
  unfold UnpackedFloat.ofScientific
  split
  · rename_i hzero
    rw [hzero, Nat.cast_zero]
    exact rounds_zero _
  · rename_i hne
    have hv : (0 : ℚ) < n := by exact_mod_cast Nat.pos_of_ne_zero hne
    have hone : (1 : ℚ) ≤ n := by exact_mod_cast Nat.pos_of_ne_zero hne
    have hplace : -24 ≤ lastPlace n :=
      (by decide : (-24 : ℤ) ≤ -23).trans
        ((by norm_num [lastPlace] : (-23 : ℤ) ≤ lastPlace 1).trans (lastPlace_mono one_pos hone))
    have hbits : (2 : ℤ) ^ Format.binary32.exponentBits = 256 := rfl
    have hunits : (n / 2 ^ (-24 : ℤ) : ℚ) = (n <<< 24 * 1 : ℕ) := by
      rw [Nat.mul_one, Nat.shiftLeft_eq, Nat.cast_mul, zpow_neg, div_inv_eq_mul]
      norm_num
    rw [if_neg (by decide), hbits, if_neg (by omega), if_pos le_rfl]
    -- The digits are shifted by 24 places first, which is further than rounding needs.
    have hrounds : Rounds (UnpackedFloat.roundWithAccuracy .binary32 .positive (n <<< 24 * 1) (-24)
        .exact) ((Sign.positive.apply 1 : ℤ) * n) := by
      refine rounds_roundWithAccuracy .positive hv hplace ?_
      rw [hunits]
      exact approximates_exact _
    rw [apply_positive, Int.cast_one, one_mul] at hrounds
    exact hrounds

/-- The conversion of an integer of the machine is exact if it has no more digits. -/
lemma value_toFloat32 (h : n < 0x800000) :
    n.toUInt64.toFloat32.isFinite ∧ value n.toUInt64.toFloat32 = n := by
  have hcount : n.toUInt64.toNat = n := by
    rw [Nat.toUInt64, UInt64.toNat_ofNat']
    exact Nat.mod_eq_of_lt (h.trans (by decide))
  have hrounds := rounds_normalize n 0 .positive
  have hunpack : n.toUInt64.toFloat32.toModel.unpack =
      limited (UnpackedFloat.normalize .binary32 n 0 .positive) := by
    rw [← unpack_pack hrounds.isRounded]
    change UnpackedFloat.unpack _ (UnpackedFloat.pack _ (UnpackedFloat.normalize _
      (n.toUInt64.toNat : ℤ) 0 .positive)) = _
    rw [hcount]
  rw [zpow_zero, mul_one, Int.cast_natCast] at hrounds
  obtain ⟨hthere, hgrade⟩ := grade_of_rounds hrounds hunpack
  obtain ⟨x, hx, hfx, hvalue⟩ := exists_isPacked_valueOf_eq h
  rw [← hvalue] at hgrade ⊢
  exact value_of_grade_eq hx hfx hthere hgrade

/-- The 32-bit number of a whole number is the nearest one. -/
theorem grade_ofNat (n : ℕ) :
    (Float32.ofNat n).isNaN = false ∧ grade (Float32.ofNat n) = nearestGrade n := by
  by_cases hsmall : n < 0x800000
  · have hofNat : Float32.ofNat n = n.toUInt64.toFloat32 * 1.0 := by
      unfold Float32.ofNat
      exact dif_pos ⟨hsmall, by decide⟩
    have hone : value 1.0 = 1 := by
      rw [value, unpack_one, valueOf, apply_positive]
      norm_num
    obtain ⟨hfinite, hvalue⟩ := value_toFloat32 hsmall
    have hproduct := grade_mul hfinite (b := 1.0) rfl
    rw [hvalue, hone, mul_one, ← hofNat] at hproduct
    exact hproduct
  · have hofNat : Float32.ofNat n = ⟨Float32.Model.ofScientific n 0⟩ := by
      unfold Float32.ofNat
      exact dif_neg fun h => hsmall h.1
    rw [hofNat]
    exact grade_of_rounds (rounds_ofScientific n) (unpack_pack (rounds_ofScientific n).isRounded)

lemma isNaN_ofNat (n : ℕ) : (Float32.ofNat n).isNaN = false :=
  (grade_ofNat n).1

lemma ofNat_nonneg (n : ℕ) : 0.0 ≤ Float32.ofNat n := by
  obtain ⟨hthere, hgrade⟩ := grade_ofNat n
  rw [zero_le_iff_grade, hgrade]
  exact ⟨hthere, nearestGrade_nonneg n.cast_nonneg⟩

lemma ofNat_le_ofNat (h : k ≤ n) : Float32.ofNat k ≤ Float32.ofNat n := by
  obtain ⟨hthere, hgrade⟩ := grade_ofNat k
  obtain ⟨hthere', hgrade'⟩ := grade_ofNat n
  rw [le_iff_grade, hgrade, hgrade']
  exact ⟨hthere, hthere', nearestGrade_mono (Nat.cast_le.2 h)⟩

lemma one_le_ofNat (h : 0 < n) : 1.0 ≤ Float32.ofNat n := by
  have hone : Float32.ofNat 1 = 1.0 := by decide
  exact hone ▸ ofNat_le_ofNat h

/-- Whole numbers of up to 23 binary digits are read exactly. -/
lemma value_ofNat (h : n < 0x800000) :
    (Float32.ofNat n).isFinite ∧ value (Float32.ofNat n) = n := by
  obtain ⟨x, hx, hfx, hvalue⟩ := exists_isPacked_valueOf_eq h
  obtain ⟨hthere, hgrade⟩ := grade_ofNat n
  rw [← hvalue] at hgrade ⊢
  exact value_of_grade_eq hx hfx hthere hgrade

/-! ## Moving by whole numbers -/

/-- A number between zero and a whole number is moved between two whole numbers. -/
theorem add_ofNat_mem (ha : 0.0 ≤ a) (hle : a ≤ Float32.ofNat n) (h : k + n < 0x800000) :
    Float32.ofNat k ≤ a + Float32.ofNat k ∧ a + Float32.ofNat k ≤ Float32.ofNat (k + n) := by
  obtain ⟨hfn, hvn⟩ := value_ofNat (n := n) (by omega)
  obtain ⟨hfk, hvk⟩ := value_ofNat (n := k) (by omega)
  have hfa := isFinite_of_le ha hfn hle
  have hlow := value_nonneg hfa ha
  have hhigh : value a ≤ n := hvn ▸ value_le_value hfa hfn hle
  obtain ⟨hthere, hgrade⟩ := grade_add hfa hfk
  obtain ⟨htherek, hgradek⟩ := grade_ofNat k
  obtain ⟨hthere', hgrade'⟩ := grade_ofNat (k + n)
  rw [hvk] at hgrade
  rw [le_iff_grade, le_iff_grade, hgrade, hgradek, hgrade']
  refine ⟨⟨htherek, hthere, nearestGrade_mono (by linarith)⟩,
    hthere, hthere', nearestGrade_mono ?_⟩
  rw [Nat.cast_add]
  linarith

end Float32

end Detection
