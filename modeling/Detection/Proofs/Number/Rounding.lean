/-
# Rounding exact numbers to 32 bits

The magnitudes of 32-bit numbers, from zero to infinity, can be counted, and the count is the
grade of a magnitude.  Rounding an exact number is finding the grade of the nearest one.  What
is used of rounding is that it keeps order and that it changes nothing that is exact already.

## Main definitions

* `nearestEven`: the integer nearest to a rational number.
* `lastPlace`: the place of the last binary digit that a 32-bit number of a magnitude has.
* `nearestGrade`: the grade of the 32-bit number nearest to a rational number, with its sign.

The main result is `nearestGrade_mono`.
-/
import Mathlib.Algebra.Order.Field.Power
import Mathlib.Data.Int.Log
import Mathlib.Data.Rat.Floor
import Mathlib.Tactic.Linarith
import Mathlib.Tactic.NormNum
import Mathlib.Tactic.Positivity
import Mathlib.Tactic.Ring

namespace Detection

/-! ## The nearest integer -/

/-- The integer nearest to a number; of two that are equally near, the even one. -/
def nearestEven (v : ℚ) : ℤ :=
  if v - ⌊v⌋ < 1 / 2 then ⌊v⌋ else if 1 / 2 < v - ⌊v⌋ then ⌊v⌋ + 1 else ⌊v⌋ + ⌊v⌋ % 2

lemma nearestEven_intCast (n : ℤ) : nearestEven n = n := by
  simp [nearestEven]

lemma floor_le_nearestEven (v : ℚ) : ⌊v⌋ ≤ nearestEven v := by
  have hparity := Int.emod_nonneg ⌊v⌋ (by decide : (2 : ℤ) ≠ 0)
  unfold nearestEven
  split_ifs <;> omega

lemma nearestEven_le_floor_add_one (v : ℚ) : nearestEven v ≤ ⌊v⌋ + 1 := by
  have hparity := Int.emod_lt_of_pos ⌊v⌋ (by decide : (0 : ℤ) < 2)
  unfold nearestEven
  split_ifs <;> omega

lemma nearestEven_mono {u v : ℚ} (h : u ≤ v) : nearestEven u ≤ nearestEven v := by
  rcases (Int.floor_mono h).lt_or_eq with hlt | heq
  · calc nearestEven u ≤ ⌊u⌋ + 1 := nearestEven_le_floor_add_one u
      _ ≤ ⌊v⌋ := hlt
      _ ≤ nearestEven v := floor_le_nearestEven v
  · -- Within one unit only the distance from its lower end matters.
    have hparity := Int.emod_nonneg ⌊v⌋ (by decide : (2 : ℤ) ≠ 0)
    have hparity' := Int.emod_lt_of_pos ⌊v⌋ (by decide : (0 : ℤ) < 2)
    unfold nearestEven
    rw [heq]
    split_ifs <;> first | omega | linarith

lemma le_nearestEven {n : ℤ} {v : ℚ} (h : (n : ℚ) ≤ v) : n ≤ nearestEven v :=
  (nearestEven_intCast n).symm.le.trans (nearestEven_mono h)

lemma nearestEven_le {n : ℤ} {v : ℚ} (h : v ≤ (n : ℚ)) : nearestEven v ≤ n :=
  (nearestEven_mono h).trans (nearestEven_intCast n).le

/-! ## The nearest magnitude -/

/-- The place of the last digit of the 32-bit numbers near a positive number.  They have 24
binary digits, but none beyond the 149th place behind the point. -/
def lastPlace (v : ℚ) : ℤ :=
  max (Int.log 2 v - 23) (-149)

/-- The number nearest to a positive one, in units of its last place. -/
def inPlaces (v : ℚ) : ℤ :=
  nearestEven (v / 2 ^ lastPlace v)

/-- The grade of infinity. -/
def infinityGrade : ℤ := 0x7f800000

/-- The grade of a magnitude with a given last place and number of units in it: there are 2^23
magnitudes with each last place, and as many more with the last of all. -/
def gradeAt (place units : ℤ) : ℤ :=
  (place + 149) * 0x800000 + units

/-- The grade of the magnitude nearest to a positive number. -/
def magnitudeGrade (v : ℚ) : ℤ :=
  min (gradeAt (lastPlace v) (inPlaces v)) infinityGrade

variable {u v : ℚ}

lemma lastPlace_mono (hu : 0 < u) (h : u ≤ v) : lastPlace u ≤ lastPlace v :=
  max_le_max_right _ (Int.sub_le_sub_right (Int.log_mono_right hu h) 23)

lemma neg_le_lastPlace (v : ℚ) : -149 ≤ lastPlace v :=
  le_max_right _ _

/-- A number has no more than 24 digits up to its last place. -/
lemma inPlaces_le (v : ℚ) : inPlaces v ≤ 0x1000000 := by
  have hlog : Int.log 2 v + 1 ≤ 24 + lastPlace v := by
    unfold lastPlace
    omega
  have hlt : v < (2 : ℚ) ^ (24 + lastPlace v) :=
    (Int.lt_zpow_succ_log_self (by decide) v).trans_le
      (zpow_le_zpow_right₀ (by norm_num) hlog)
  refine nearestEven_le ?_
  rw [div_le_iff₀ (by positivity)]
  refine hlt.le.trans (le_of_eq ?_)
  rw [zpow_add₀ (by norm_num)]
  norm_num

/-- A number has 24 digits up to its last place, unless that is the last of all. -/
lemma le_inPlaces (hv : 0 < v) (h : -149 < lastPlace v) : 0x800000 ≤ inPlaces v := by
  have hlog : 23 + lastPlace v ≤ Int.log 2 v := by
    unfold lastPlace at h ⊢
    omega
  have hle : (2 : ℚ) ^ (23 + lastPlace v) ≤ v :=
    (zpow_le_zpow_right₀ (by norm_num) hlog).trans (Int.zpow_log_le_self (by decide) hv)
  refine le_nearestEven ?_
  rw [le_div_iff₀ (by positivity)]
  refine (le_of_eq ?_).trans hle
  rw [zpow_add₀ (by norm_num)]
  norm_num

lemma inPlaces_nonneg (hv : 0 < v) : 0 ≤ inPlaces v :=
  le_nearestEven (by rw [Int.cast_zero]; positivity)

lemma gradeAt_mono (hu : 0 < u) (h : u ≤ v) :
    gradeAt (lastPlace u) (inPlaces u) ≤ gradeAt (lastPlace v) (inPlaces v) := by
  have hplace := neg_le_lastPlace u
  unfold gradeAt
  rcases (lastPlace_mono hu h).lt_or_eq with hlt | heq
  · have hupper := inPlaces_le u
    have hlower := le_inPlaces (hu.trans_le h) (hplace.trans_lt hlt)
    omega
  · have hunits : inPlaces u ≤ inPlaces v := by
      unfold inPlaces
      rw [heq]
      exact nearestEven_mono (div_le_div_of_nonneg_right h (by positivity))
    omega

lemma magnitudeGrade_mono (hu : 0 < u) (h : u ≤ v) : magnitudeGrade u ≤ magnitudeGrade v :=
  min_le_min_right _ (gradeAt_mono hu h)

lemma magnitudeGrade_nonneg (hv : 0 < v) : 0 ≤ magnitudeGrade v := by
  have hplace := neg_le_lastPlace v
  have hunits := inPlaces_nonneg hv
  unfold magnitudeGrade gradeAt infinityGrade
  omega

/-! ## The nearest number -/

/-- The grade of the 32-bit number nearest to a number, counted downwards for negative ones. -/
def nearestGrade (v : ℚ) : ℤ :=
  if 0 < v then magnitudeGrade v else if v < 0 then -magnitudeGrade (-v) else 0

lemma nearestGrade_zero : nearestGrade 0 = 0 := by
  simp [nearestGrade]

lemma nearestGrade_neg (v : ℚ) : nearestGrade (-v) = -nearestGrade v := by
  unfold nearestGrade
  rcases lt_trichotomy v 0 with h | rfl | h
  · simp [h, h.not_gt]
  · simp
  · simp [h, h.not_gt]

lemma nearestGrade_nonneg (hv : 0 ≤ v) : 0 ≤ nearestGrade v := by
  unfold nearestGrade
  split_ifs with hpos hneg
  · exact magnitudeGrade_nonneg hpos
  · exact absurd hneg hv.not_gt
  · exact le_rfl

theorem nearestGrade_mono (h : u ≤ v) : nearestGrade u ≤ nearestGrade v := by
  rcases le_or_gt 0 u with hu | hu
  · rcases hu.lt_or_eq with hpos | rfl
    · rw [nearestGrade, if_pos hpos, nearestGrade, if_pos (hpos.trans_le h)]
      exact magnitudeGrade_mono hpos h
    · rw [nearestGrade_zero]
      exact nearestGrade_nonneg h
  · rcases lt_or_ge v 0 with hv | hv
    · rw [nearestGrade, if_neg hu.not_gt, if_pos hu, nearestGrade, if_neg hv.not_gt, if_pos hv]
      exact neg_le_neg (magnitudeGrade_mono (neg_pos.2 hv) (neg_le_neg h))
    · have hbelow : nearestGrade u ≤ 0 := by
        rw [← neg_nonneg, ← nearestGrade_neg]
        exact nearestGrade_nonneg (neg_nonneg.2 hu.le)
      exact hbelow.trans (nearestGrade_nonneg hv)

end Detection
