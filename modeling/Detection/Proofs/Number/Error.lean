/-
# How far rounding leads

The result of an operation on finite 32-bit numbers is off the exact one by at most half a unit in
its last place.  That is one part in 2^24 of the exact result, or half of the smallest number of
all where there are no more digits to be had.

## Main definitions

* `Float32.IsNear`: a finite number is off an exact one by no more than that.

The main results are `Float32.isNear_add`, `Float32.isNear_sub`, `Float32.isNear_mul` and
`Float32.isNear_div`.
-/
import Detection.Proofs.Number.Symmetry
import Detection.Proofs.Number.Intervals

namespace Detection

open Float.Model (UnpackedFloat)
open Float.Model.UnpackedFloat (Sign)

lemma abs_valueOf_finite (s : Sign) {m : ℕ} {e : ℤ} (hm : 0 < m) :
    |valueOf (.finite s m e hm)| = m * 2 ^ e := by
  have hmagnitude : (0 : ℚ) < m * 2 ^ e := by positivity
  rw [valueOf_finite]
  cases s with
  | negative =>
    rw [apply_negative, Int.cast_neg, Int.cast_one, neg_one_mul, abs_neg, abs_of_pos hmagnitude]
  | positive => rw [apply_positive, Int.cast_one, one_mul, abs_of_pos hmagnitude]

/-! ## Rounding to places -/

lemma abs_nearestEven_sub_le (v : ℚ) : |(nearestEven v : ℚ) - v| ≤ 1 / 2 := by
  have hlow := Int.floor_le v
  have hhigh := Int.lt_floor_add_one v
  rw [abs_le]
  unfold nearestEven
  split_ifs with hbelow habove
  · constructor <;> linarith
  · push_cast
    constructor <;> linarith
  · have hhalf : v - ⌊v⌋ = 1 / 2 := le_antisymm (not_lt.1 habove) (not_lt.1 hbelow)
    rcases Int.emod_two_eq_zero_or_one ⌊v⌋ with hparity | hparity <;> rw [hparity] <;> push_cast <;>
      constructor <;> linarith

/-- The nearest number with a given last place is off by no more than half a unit in it. -/
lemma abs_inPlaces_sub_le (v : ℚ) : |inPlaces v * 2 ^ lastPlace v - v| ≤ 2 ^ lastPlace v / 2 := by
  have hunit : (0 : ℚ) < 2 ^ lastPlace v := by positivity
  have hunits : inPlaces v * 2 ^ lastPlace v - v =
      (nearestEven (v / 2 ^ lastPlace v) - v / 2 ^ lastPlace v) * 2 ^ lastPlace v := by
    rw [sub_mul, div_mul_cancel₀ _ hunit.ne', inPlaces]
  calc |inPlaces v * 2 ^ lastPlace v - v|
      = |nearestEven (v / 2 ^ lastPlace v) - v / 2 ^ lastPlace v| * 2 ^ lastPlace v := by
        rw [hunits, abs_mul, abs_of_pos hunit]
    _ ≤ 1 / 2 * 2 ^ lastPlace v :=
        mul_le_mul_of_nonneg_right (abs_nearestEven_sub_le _) hunit.le
    _ = 2 ^ lastPlace v / 2 := by ring

/-- The last place is the 24th, unless that is beyond the last place of all. -/
lemma zpow_lastPlace_le {v : ℚ} (hv : 0 < v) :
    (2 : ℚ) ^ lastPlace v ≤ v / 2 ^ 23 + 1 / 2 ^ 149 := by
  unfold lastPlace
  rcases le_total (Int.log 2 v - 23) (-149) with h | h
  · rw [max_eq_right h, zpow_neg, inv_eq_one_div]
    exact le_add_of_nonneg_left (by positivity)
  · have hlog : (2 : ℚ) ^ Int.log 2 v ≤ v := Int.zpow_log_le_self (by decide) hv
    rw [max_eq_left h, zpow_sub₀ two_ne_zero]
    have hpow : (2 : ℚ) ^ Int.log 2 v / 2 ^ (23 : ℤ) ≤ v / 2 ^ 23 :=
      div_le_div_of_nonneg_right hlog (by positivity)
    exact hpow.trans (le_add_of_nonneg_right (by positivity))

/-- The number nearest to a positive one that is not too large. -/
lemma exists_isPacked_inPlaces {v : ℚ} (hv : 0 < v) (hlimit : v ≤ 3 * 2 ^ 126) :
    ∃ x, IsPacked x ∧ x.isFinite ∧ gradeOf x = nearestGrade v ∧
      valueOf x = inPlaces v * 2 ^ lastPlace v := by
  obtain ⟨n, hn⟩ := Int.eq_ofNat_of_zero_le (inPlaces_nonneg hv)
  have hhigh := inPlaces_le v
  have hdigits := le_inPlaces hv
  have hlow := neg_le_lastPlace v
  have hplace : lastPlace v ≤ 104 := by
    have hlog : Int.log 2 v < 128 := by
      rw [← Int.lt_zpow_iff_log_lt (by decide) hv]
      exact hlimit.trans_lt (by norm_num)
    unfold lastPlace
    omega
  have hroom : lastPlace v = 104 → inPlaces v ≤ 3 * 0x400000 := by
    intro hlast
    refine nearestEven_le ?_
    rw [hlast, div_le_iff₀ (by positivity)]
    exact hlimit.trans (by norm_num)
  have hgrade : nearestGrade v = min (gradeAt (lastPlace v) n) infinityGrade := by
    rw [nearestGrade, if_pos hv, magnitudeGrade, hn]
  rw [hn] at hhigh hdigits hroom ⊢
  rw [hgrade, Int.cast_natCast]
  generalize lastPlace v = place at *
  rcases Nat.eq_zero_or_pos n with rfl | hpos
  · -- Only at the last place of all nothing may be left.
    refine ⟨.zero .positive, trivial, rfl, ?_, by rw [valueOf_zero, Nat.cast_zero, zero_mul]⟩
    change 0 = min _ infinityGrade
    unfold gradeAt infinityGrade
    omega
  by_cases hlt : n < 0x1000000
  · have hx : IsPacked (.finite .positive n place hpos) := ⟨⟨hlt, hlow, by omega⟩, by omega⟩
    refine ⟨_, hx, rfl, ?_, by rw [valueOf_finite, apply_positive, Int.cast_one, one_mul]⟩
    rw [min_eq_left ((gradeAt_lt_iff hx.1).2 hx.2).le]
    rfl
  · -- There is one digit too many, and it is the only one that is not zero.
    obtain rfl : n = 0x1000000 := by omega
    have hx : IsPacked (.finite .positive 0x800000 (place + 1) (by decide)) :=
      ⟨⟨by decide, by omega, .inl le_rfl⟩, by omega⟩
    have hsame : gradeAt place (0x1000000 : ℕ) = gradeAt (place + 1) (0x800000 : ℕ) := by
      unfold gradeAt
      omega
    refine ⟨_, hx, rfl, ?_, ?_⟩
    · rw [hsame, min_eq_left ((gradeAt_lt_iff hx.1).2 hx.2).le]
      rfl
    · rw [valueOf_finite, apply_positive, zpow_add_one₀ two_ne_zero]
      push_cast
      ring

/-- An exact number that is not too large is rounded to a finite one close to it. -/
lemma exists_isPacked_near {v : ℚ} (hlimit : |v| ≤ 3 * 2 ^ 126) :
    ∃ x, IsPacked x ∧ x.isFinite ∧ gradeOf x = nearestGrade v ∧
      |valueOf x - v| ≤ |v| / 2 ^ 24 + 1 / 2 ^ 150 := by
  have hpositive : ∀ u : ℚ, 0 < u → u ≤ 3 * 2 ^ 126 → ∃ x, IsPacked x ∧ x.isFinite ∧
      gradeOf x = nearestGrade u ∧ |valueOf x - u| ≤ u / 2 ^ 24 + 1 / 2 ^ 150 := by
    intro u hu hle
    obtain ⟨x, hx, hfx, hgrade, hvalue⟩ := exists_isPacked_inPlaces hu hle
    refine ⟨x, hx, hfx, hgrade, ?_⟩
    rw [hvalue]
    have herror := abs_inPlaces_sub_le u
    have hunit := zpow_lastPlace_le hu
    calc |inPlaces u * 2 ^ lastPlace u - u| ≤ 2 ^ lastPlace u / 2 := herror
      _ ≤ (u / 2 ^ 23 + 1 / 2 ^ 149) / 2 := by linarith
      _ = u / 2 ^ 24 + 1 / 2 ^ 150 := by ring
  rcases lt_trichotomy v 0 with hneg | rfl | hpos
  · rw [abs_of_neg hneg] at hlimit ⊢
    obtain ⟨x, hx, hfx, hgrade, herror⟩ := hpositive (-v) (neg_pos.2 hneg) hlimit
    refine ⟨x.neg, isPacked_neg hx, (unpacked_isFinite_neg x).trans hfx, ?_, ?_⟩
    · rw [gradeOf_neg, hgrade, nearestGrade_neg, neg_neg]
    · rwa [valueOf_neg, abs_sub_comm, sub_neg_eq_add, add_comm, ← sub_neg_eq_add]
  · refine ⟨.zero .positive, trivial, rfl, nearestGrade_zero.symm, ?_⟩
    rw [valueOf_zero, sub_zero, abs_zero]
    positivity
  · rw [abs_of_pos hpos] at hlimit ⊢
    exact hpositive v hpos hlimit

namespace Float32

variable {a b : Float32}

/-- A finite number is off an exact one by no more than rounding makes it. -/
structure IsNear (a : Float32) (v : ℚ) : Prop where
  isFinite : a.isFinite
  abs_sub_le : |value a - v| ≤ |v| / 2 ^ 24 + 1 / 2 ^ 150

lemma isNear_of_grade {v : ℚ} (h : a.isNaN = false ∧ grade a = nearestGrade v)
    (hlimit : |v| ≤ 3 * 2 ^ 126) : IsNear a v := by
  obtain ⟨x, hx, hfx, hgrade, herror⟩ := exists_isPacked_near hlimit
  rw [gradeOf_eq_nearestGrade hx hfx] at hgrade
  obtain ⟨hfinite, hvalue⟩ := value_of_grade_eq hx hfx h.1 (h.2.trans hgrade.symm)
  exact ⟨hfinite, hvalue ▸ herror⟩

theorem isNear_add (ha : a.isFinite) (hb : b.isFinite)
    (hlimit : |value a + value b| ≤ 3 * 2 ^ 126) :
    IsNear (a + b) (value a + value b) :=
  isNear_of_grade (grade_add ha hb) hlimit

theorem isNear_sub (ha : a.isFinite) (hb : b.isFinite)
    (hlimit : |value a - value b| ≤ 3 * 2 ^ 126) :
    IsNear (a - b) (value a - value b) :=
  isNear_of_grade (grade_sub ha hb) hlimit

theorem isNear_mul (ha : a.isFinite) (hb : b.isFinite)
    (hlimit : |value a * value b| ≤ 3 * 2 ^ 126) :
    IsNear (a * b) (value a * value b) :=
  isNear_of_grade (grade_mul ha hb) hlimit

theorem isNear_div (ha : a.isFinite) (hb : b.isFinite) (hne : value b ≠ 0)
    (hlimit : |value a / value b| ≤ 3 * 2 ^ 126) : IsNear (a / b) (value a / value b) :=
  isNear_of_grade (grade_div ha hb hne) hlimit

/-! ## Magnitudes -/

lemma unpack_abs (a : Float32) : a.abs.toModel.unpack = a.toModel.unpack.abs := by
  have hpacked : IsPacked a.toModel.unpack.abs := by
    have h : IsPacked a.toModel.unpack := isPacked_unpack _
    generalize a.toModel.unpack = x at h
    cases x <;> exact h
  exact (unpack_pack hpacked.isRounded).trans hpacked.limited_eq

lemma isFinite_abs (a : Float32) : a.abs.isFinite = a.isFinite := by
  change a.abs.toModel.unpack.isFinite = a.toModel.unpack.isFinite
  rw [unpack_abs]
  cases a.toModel.unpack <;> rfl

lemma value_abs (a : Float32) : value a.abs = |value a| := by
  rw [value, unpack_abs, value]
  rcases a.toModel.unpack with s | _ | s | ⟨s, m, e, hm⟩
  case finite =>
    change valueOf (.finite .positive m e hm) = |valueOf (.finite s m e hm)|
    rw [abs_valueOf_finite, valueOf_finite, apply_positive, Int.cast_one, one_mul]
  all_goals exact abs_zero.symm

/-- Finite numbers are compared by their values. -/
theorem lt_iff_value (ha : a.isFinite) (hb : b.isFinite) : a < b ↔ value a < value b := by
  constructor
  · intro hlt
    by_contra hnot
    have hgrade := nearestGrade_mono (not_lt.1 hnot)
    rw [← grade_eq_nearestGrade ha, ← grade_eq_nearestGrade hb] at hgrade
    exact (lt_iff_grade.1 hlt).2.2.not_ge hgrade
  · intro hvalue
    by_contra hnot
    rw [Float32.not_lt (isNaN_of_isFinite ha) (isNaN_of_isFinite hb)] at hnot
    exact (value_le_value hb ha hnot).not_gt hvalue

lemma value_millionth : value 1e-6 = 8796093 / 2 ^ 43 := by
  have hunpack : (1e-6 : Float32).toModel.unpack =
      .finite .positive 8796093 (-43) (by decide) := rfl
  rw [value, hunpack, valueOf_finite, apply_positive]
  norm_num

/-- A finite number is far enough from zero to divide by if it is a millionth away. -/
lemma isTiny_eq_false_iff (ha : a.isFinite) :
    Scalar.isTiny a = false ↔ 8796093 / 2 ^ 43 ≤ |value a| := by
  have habs : a.abs.isFinite := (isFinite_abs a).trans ha
  have htiny : Scalar.isTiny a = decide (a.abs < 1e-6) := rfl
  rw [htiny, decide_eq_false_iff_not, lt_iff_value habs rfl, value_abs, value_millionth, not_lt]

end Float32

end Detection
