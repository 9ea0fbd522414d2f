/-
# Grades of 32-bit numbers

The core library computes with unpacked numbers, a sign, a mantissa and an exponent, and packs
the result into 32 bits.  Packing changes nothing but that numbers that are too large become
infinite.  Unpacked numbers are counted by grades, as magnitudes are, and the order of 32-bit
numbers is the order of their grades.

## Main definitions

* `IsRounded`: the unpacked numbers that rounding gives.
* `limited`: what packing leaves of a rounded number.
* `gradeOf`, `Float32.grade`: the grade of an unpacked and of a 32-bit number.
* `valueOf`, `Float32.value`: the exact value of a finite number.

The main results are `unpack_pack`, `Float32.le_iff_grade` and `Float32.grade_eq_nearestGrade`.

What is known of the parts of packed numbers comes from Batteries, and no module of Mathlib but the
whole of it brings this.
-/
import Detection.Proofs.Number.Order
import Detection.Proofs.Number.Rounding
import Mathlib

namespace Detection

open Float.Model (UnpackedFloat Format)
open Float.Model.UnpackedFloat (Sign pack unpack packComponents)

/-! ## Rounded numbers -/

/-- Whether a finite number has 24 digits up to its last place, or fewer if that is the last of
all.  Its magnitude is not limited. -/
def IsRounded : UnpackedFloat → Prop
  | .finite _ m e _ => m < 0x1000000 ∧ -149 ≤ e ∧ (0x800000 ≤ m ∨ e = -149)
  | _ => True

/-- Whether a rounded number is not too large for 32 bits. -/
def IsPacked : UnpackedFloat → Prop
  | .finite s m e h => IsRounded (.finite s m e h) ∧ e ≤ 104
  | _ => True

/-- A rounded number with infinity in place of everything that is too large. -/
def limited : UnpackedFloat → UnpackedFloat
  | .finite s m e h => if 104 < e then .infinity s else .finite s m e h
  | x => x

lemma IsPacked.isRounded {x : UnpackedFloat} (h : IsPacked x) : IsRounded x := by
  rcases x with s | _ | s | ⟨s, m, e, hm⟩
  · trivial
  · trivial
  · trivial
  · exact h.1

lemma IsPacked.limited_eq {x : UnpackedFloat} (h : IsPacked x) : limited x = x := by
  rcases x with s | _ | s | ⟨s, m, e, hm⟩
  · rfl
  · rfl
  · rfl
  · exact if_neg h.2.not_gt

/-! ## Packing and unpacking -/

lemma toNat_append_implicit (m : BitVec 23) : (1#1 ++ m).toNat = 0x800000 + m.toNat := by
  rw [BitVec.toNat_append, ← Nat.shiftLeft_add_eq_or_of_lt m.isLt]
  rfl

section Unpack

variable (s : Sign) (e : BitVec 8) (m : BitVec 23)

/-- The largest exponent, and no mantissa: the number is infinite. -/
lemma unpack_infinite : unpack .binary32 (packComponents .binary32 s (-1#8) 0) = .infinity s := by
  simp [unpack]

/-- The smallest exponent: the mantissa has fewer than 24 digits. -/
lemma unpack_subnormal {n : ℕ} (hn : 0 < n) (hm : m.toNat = n) :
    unpack .binary32 (packComponents .binary32 s 0#8 m) = .finite s n (-149) hn := by
  subst hm
  have hne : m ≠ 0#23 := by
    rintro rfl
    exact absurd hn (by decide)
  simp [unpack, hne, Format.exponentBias]

/-- All other exponents: the first of the 24 digits of the mantissa is understood. -/
lemma unpack_normal {n : ℕ} (hn : 0 < n) (hm : 0x800000 + m.toNat = n) (hlow : 0 < e.toNat)
    (hhigh : e.toNat < 255) :
    unpack .binary32 (packComponents .binary32 s e m) = .finite s n (e.toNat - 150) hn := by
  subst hm
  have hne : e ≠ -1#8 := by
    rintro rfl
    exact absurd hhigh (by decide)
  have hne' : e ≠ 0#8 := by
    rintro rfl
    exact absurd hlow (by decide)
  simp only [unpack, UnpackedFloat.unpackExponent_packComponents,
    UnpackedFloat.unpackMantissa_packComponents, UnpackedFloat.unpackSign_packComponents,
    Sign.ofBitVec_toBitVec, toNat_append_implicit, if_neg hne, if_neg hne', Format.exponentBias]
  rfl

end Unpack

/-- Packing a rounded number only limits its magnitude. -/
theorem unpack_pack {x : UnpackedFloat} (h : IsRounded x) :
    unpack .binary32 (pack .binary32 x) = limited x := by
  rcases x with s | _ | s | ⟨s, m, e, hm⟩
  · exact unpack_infinite s
  · rfl
  · cases s <;> rfl
  obtain ⟨hlt, hplace, hdigits⟩ := h
  have hbias : (e + (Format.binary32.exponentBias : ℤ) + (23 : ℕ)).toNat = (e + 150).toNat := by
    change (e + ((127 : ℕ) : ℤ) + ((23 : ℕ) : ℤ)).toNat = _
    omega
  have hlimit : 2 ^ 8 ≤ (e + 150).toNat + 1 ↔ 104 < e := by omega
  have hlow : 23 ≤ m.log2 ↔ 0x800000 ≤ m := Nat.le_log2 hm.ne'
  have hhigh : m.log2 < 24 := (Nat.log2_lt hm.ne').2 hlt
  have hnormal : m.log2 + 1 = Format.binary32.mantissaBits ↔ 0x800000 ≤ m := by
    change m.log2 + 1 = 24 ↔ _
    omega
  simp only [pack, limited, hbias, hlimit, hnormal]
  split_ifs with hlarge hfirst
  · exact unpack_infinite s
  · have hexponent : (BitVec.ofNat 8 (e + 150).toNat).toNat = (e + 150).toNat := by
      rw [BitVec.toNat_ofNat]
      omega
    have hmantissa : 0x800000 + (BitVec.ofNat 23 m).toNat = m := by
      rw [BitVec.toNat_ofNat]
      omega
    rw [unpack_normal s _ _ hm hmantissa (by omega) (by omega)]
    congr 1
    omega
  · obtain rfl : e = -149 := hdigits.resolve_left (by omega)
    refine unpack_subnormal s _ hm ?_
    rw [BitVec.toNat_ofNat]
    omega

/-- What is unpacked is rounded and not too large. -/
theorem isPacked_unpack (b : BitVec Format.binary32.numBits) :
    IsPacked (unpack .binary32 b) := by
  have hexponent : (UnpackedFloat.unpackExponent b).toNat < 256 :=
    (UnpackedFloat.unpackExponent b).isLt
  have hmantissa : (UnpackedFloat.unpackMantissa b).toNat < 0x800000 :=
    (UnpackedFloat.unpackMantissa b).isLt
  unfold unpack
  dsimp only
  split_ifs with hlast hzero hfirst hzero
  · trivial
  · trivial
  · trivial
  · have hplace : ((UnpackedFloat.unpackExponent b).toNat : ℤ) -
        (Format.binary32.exponentBias + (23 : ℕ)) + 1 = -149 := by
      rw [hfirst]
      rfl
    simp only [hplace]
    exact ⟨⟨by omega, by omega, .inr rfl⟩, by omega⟩
  · have hplace : (Format.binary32.exponentBias : ℤ) + (23 : ℕ) = 150 := rfl
    have hne : (UnpackedFloat.unpackExponent b).toNat ≠ 255 := fun h =>
      hlast (BitVec.eq_of_toNat_eq h)
    have hne' : (UnpackedFloat.unpackExponent b).toNat ≠ 0 := fun h =>
      hfirst (BitVec.eq_of_toNat_eq h)
    have hnumber := toNat_append_implicit (UnpackedFloat.unpackMantissa b)
    simp only [hplace, hnumber]
    exact ⟨⟨by omega, by omega, .inl (by omega)⟩, by omega⟩

/-! ## Signs -/

lemma cast_apply (s : Sign) (n : ℤ) : ((s.apply n : ℤ) : ℚ) = s.apply 1 * n := by
  cases s <;> simp [Sign.apply]

lemma apply_negative (n : ℤ) : Sign.negative.apply n = -n := rfl

lemma apply_positive (n : ℤ) : Sign.positive.apply n = n := rfl

lemma apply_one_neg (s : Sign) : (((-s).apply 1 : ℤ) : ℚ) = -s.apply 1 := by
  cases s
  · have h : -Sign.negative = .positive := rfl
    simp [h, apply_negative, apply_positive]
  · have h : -Sign.positive = .negative := rfl
    simp [h, apply_negative, apply_positive]

lemma apply_one_div (s s' : Sign) :
    (((s / s').apply 1 : ℤ) : ℚ) = s.apply 1 / s'.apply 1 := by
  cases s <;> cases s'
  · have h : Sign.negative / Sign.negative = .positive := rfl
    simp [h, apply_negative, apply_positive]
  · have h : Sign.negative / Sign.positive = .negative := rfl
    simp [h, apply_negative, apply_positive]
  · have h : Sign.positive / Sign.negative = .negative := rfl
    simp [h, apply_negative, apply_positive]
  · have h : Sign.positive / Sign.positive = .positive := rfl
    simp [h, apply_positive]

lemma apply_one_mul (s s' : Sign) :
    (((s * s').apply 1 : ℤ) : ℚ) = s.apply 1 * s'.apply 1 := by
  cases s <;> cases s'
  · have h : Sign.negative * Sign.negative = .positive := rfl
    simp [h, apply_negative, apply_positive]
  · have h : Sign.negative * Sign.positive = .negative := rfl
    simp [h, apply_negative, apply_positive]
  · have h : Sign.positive * Sign.negative = .negative := rfl
    simp [h, apply_negative, apply_positive]
  · have h : Sign.positive * Sign.positive = .positive := rfl
    simp [h, apply_positive]

lemma nearestGrade_apply {v : ℚ} (s : Sign) (hv : 0 < v) :
    nearestGrade (s.apply 1 * v) = s.apply (magnitudeGrade v) := by
  have hgrade : nearestGrade v = magnitudeGrade v := if_pos hv
  cases s
  · change nearestGrade ((-1 : ℤ) * v) = -magnitudeGrade v
    rw [Int.cast_neg, Int.cast_one, neg_one_mul, nearestGrade_neg, hgrade]
  · change nearestGrade ((1 : ℤ) * v) = magnitudeGrade v
    rw [Int.cast_one, one_mul, hgrade]

/-! ## Grades -/

/-- The grade of an unpacked number, counted downwards for negative ones; a missing number has
none and gets zero. -/
def gradeOf : UnpackedFloat → ℤ
  | .infinity s => s.apply infinityGrade
  | .finite s m e _ => s.apply (gradeAt e m)
  | _ => 0

/-- The exact value of an unpacked number that is finite. -/
def valueOf : UnpackedFloat → ℚ
  | .finite s m e _ => s.apply m * 2 ^ e
  | _ => 0

lemma valueOf_zero (s : Sign) : valueOf (.zero s) = 0 := rfl

lemma valueOf_finite (s : Sign) (m : ℕ) (e : ℤ) (hm : 0 < m) :
    valueOf (.finite s m e hm) = s.apply 1 * (m * 2 ^ e) := by
  rw [valueOf, cast_apply, mul_assoc, Int.cast_natCast]

/-- A finite number is zero or has digits. -/
lemma eq_zero_or_eq_finite {x : UnpackedFloat} (h : x.isFinite) :
    (∃ s, x = .zero s) ∨ ∃ s m e hm, x = .finite s m e hm := by
  rcases x with s | _ | s | ⟨s, m, e, hm⟩
  · exact absurd h Bool.false_ne_true
  · exact absurd h Bool.false_ne_true
  · exact .inl ⟨s, rfl⟩
  · exact .inr ⟨s, m, e, hm, rfl⟩

section Finite

variable {s s' : Sign} {m m' : ℕ} {e e' : ℤ} {hm : 0 < m} {hm' : 0 < m'}

lemma gradeAt_pos (h : IsRounded (.finite s m e hm)) : 0 < gradeAt e m := by
  obtain ⟨-, hplace, -⟩ := h
  unfold gradeAt
  omega

/-- A rounded number that is not too large has a lower grade than infinity. -/
lemma gradeAt_lt_iff (h : IsRounded (.finite s m e hm)) :
    gradeAt e m < infinityGrade ↔ e ≤ 104 := by
  obtain ⟨hlt, hplace, hdigits⟩ := h
  unfold gradeAt infinityGrade
  omega

lemma gradeOf_limited (h : IsRounded (.finite s m e hm)) :
    gradeOf (limited (.finite s m e hm)) = s.apply (min (gradeAt e m) infinityGrade) := by
  dsimp only [limited]
  split_ifs with hlarge
  · rw [gradeOf, min_eq_right (not_lt.1 ((gradeAt_lt_iff h).not.2 hlarge.not_ge))]
  · rw [gradeOf, min_eq_left ((gradeAt_lt_iff h).2 (not_lt.1 hlarge)).le]

/-- Magnitudes are counted by place, and then by units. -/
lemma gradeAt_lt_gradeAt_iff (h : IsRounded (.finite s m e hm))
    (h' : IsRounded (.finite s' m' e' hm')) :
    gradeAt e m < gradeAt e' m' ↔ e < e' ∨ e = e' ∧ (m : ℤ) < m' := by
  obtain ⟨hlt, hplace, hdigits⟩ := h
  obtain ⟨hlt', hplace', hdigits'⟩ := h'
  unfold gradeAt
  rcases lt_trichotomy e e' with hee | rfl | hee <;> omega

end Finite

lemma isNaN_limited (x : UnpackedFloat) : (limited x).isNaN = x.isNaN := by
  rcases x with s | _ | s | ⟨s, m, e, hm⟩
  · rfl
  · rfl
  · rfl
  · dsimp only [limited]
    split_ifs <;> rfl

/-- Among the numbers that can be packed, positions and grades are in the same order. -/
lemma positionOf_lt_positionOf_iff {x y : UnpackedFloat} (hx : IsPacked x) (hy : IsPacked y) :
    positionOf x < positionOf y ↔ gradeOf x < gradeOf y := by
  have hinfinity : 0 < infinityGrade := by decide
  rcases x with (_ | _) | _ | _ | ⟨s, m, e, hm⟩ <;>
    rcases y with (_ | _) | _ | _ | ⟨s', m', e', hm'⟩
  case finite.finite =>
    have hpos := gradeAt_pos hx.1
    have hpos' := gradeAt_pos hy.1
    have hlt := gradeAt_lt_gradeAt_iff hx.1 hy.1
    have hlt' := gradeAt_lt_gradeAt_iff hy.1 hx.1
    cases s <;> cases s' <;> simp [positionOf, gradeOf, lex_triple_lt, Sign.apply] <;> omega
  case finite.infinity.negative | finite.infinity.positive | finite.notANumber | finite.zero =>
    have hpos := gradeAt_pos hx.1
    have hlimit := (gradeAt_lt_iff hx.1).2 hx.2
    cases s <;> simp [positionOf, gradeOf, lex_triple_lt, Sign.apply] <;> omega
  case infinity.negative.finite | infinity.positive.finite | notANumber.finite | zero.finite =>
    have hpos' := gradeAt_pos hy.1
    have hlimit' := (gradeAt_lt_iff hy.1).2 hy.2
    cases s' <;> simp [positionOf, gradeOf, lex_triple_lt, Sign.apply] <;> omega
  all_goals
    simp [positionOf, gradeOf, lex_triple_lt, Sign.apply]
    try omega

/-- No grade is beyond those of the two infinities. -/
lemma gradeOf_mem {x : UnpackedFloat} (h : IsPacked x) :
    -infinityGrade ≤ gradeOf x ∧ gradeOf x ≤ infinityGrade := by
  have hinfinity : 0 < infinityGrade := by decide
  rcases x with (_ | _) | _ | _ | ⟨s, m, e, hm⟩
  case finite =>
    have hpos := gradeAt_pos h.1
    have hlimit := (gradeAt_lt_iff h.1).2 h.2
    cases s <;> rw [gradeOf]
    · rw [apply_negative]
      omega
    · rw [apply_positive]
      omega
  all_goals
    simp [gradeOf, Sign.apply]
    try omega

/-! ## Exact values -/

/-- Dropping digits does not change the length of a number that has digits left. -/
lemma log_eq {v : ℚ} {m : ℕ} {e : ℤ} (hm : 0 < m) (h : ⌊v / 2 ^ e⌋ = m) :
    Int.log 2 v = m.log2 + e := by
  obtain ⟨hlow, hhigh⟩ := Int.floor_eq_iff.1 h
  rw [le_div_iff₀ (by positivity)] at hlow
  rw [div_lt_iff₀ (by positivity)] at hhigh
  have hv : 0 < v := lt_of_lt_of_le (by positivity) hlow
  have hdigits : (2 : ℚ) ^ m.log2 ≤ m := by
    exact_mod_cast Nat.log2_self_le hm.ne'
  have hdigits' : (m : ℚ) + 1 ≤ 2 ^ (m.log2 + 1) := by
    exact_mod_cast Nat.lt_log2_self
  refine le_antisymm ?_ ?_
  · rw [← Int.lt_add_one_iff, ← Int.lt_zpow_iff_log_lt (by decide) hv]
    calc v < (m + 1) * 2 ^ e := hhigh
      _ ≤ 2 ^ (m.log2 + 1) * 2 ^ e := mul_le_mul_of_nonneg_right hdigits' (by positivity)
      _ = ((2 : ℕ) : ℚ) ^ ((m.log2 : ℤ) + e + 1) := by
        rw [← zpow_natCast, ← zpow_add₀ two_ne_zero]
        push_cast
        ring_nf
  · rw [← Int.zpow_le_iff_le_log (by decide) hv]
    calc ((2 : ℕ) : ℚ) ^ ((m.log2 : ℤ) + e) = 2 ^ m.log2 * 2 ^ e := by
          rw [← zpow_natCast, ← zpow_add₀ two_ne_zero]
          rfl
      _ ≤ m * 2 ^ e := mul_le_mul_of_nonneg_right hdigits (by positivity)
      _ ≤ v := hlow

/-- A rounded number is a number of units in its last place. -/
lemma lastPlace_eq {s : Sign} {m : ℕ} {e : ℤ} {hm : 0 < m} (h : IsRounded (.finite s m e hm)) :
    lastPlace (m * 2 ^ e) = e := by
  obtain ⟨hlt, hplace, hdigits⟩ := h
  have hfloor : ⌊(m * 2 ^ e / 2 ^ e : ℚ)⌋ = m := by
    rw [mul_div_cancel_right₀ _ (by positivity), Int.floor_natCast]
  have hlog := log_eq hm hfloor
  have hlow : 23 ≤ m.log2 ↔ 0x800000 ≤ m := Nat.le_log2 hm.ne'
  have hhigh : m.log2 < 24 := (Nat.log2_lt hm.ne').2 hlt
  unfold lastPlace
  omega

lemma inPlaces_eq {s : Sign} {m : ℕ} {e : ℤ} {hm : 0 < m} (h : IsRounded (.finite s m e hm)) :
    inPlaces (m * 2 ^ e) = m := by
  unfold inPlaces
  rw [lastPlace_eq h, mul_div_cancel_right₀ _ (by positivity)]
  exact_mod_cast nearestEven_intCast m

/-- A number that can be packed is the nearest one to its value. -/
lemma gradeOf_eq_nearestGrade {x : UnpackedFloat} (h : IsPacked x) (hfinite : x.isFinite) :
    gradeOf x = nearestGrade (valueOf x) := by
  obtain ⟨s, rfl⟩ | ⟨s, m, e, hm, rfl⟩ := eq_zero_or_eq_finite hfinite
  · exact nearestGrade_zero.symm
  · have hpos : (0 : ℚ) < m * 2 ^ e := by positivity
    have hgrade : magnitudeGrade (m * 2 ^ e) = gradeAt e m := by
      rw [magnitudeGrade, lastPlace_eq h.1, inPlaces_eq h.1,
        min_eq_left ((gradeAt_lt_iff h.1).2 h.2).le]
    rw [valueOf_finite, nearestGrade_apply s hpos, hgrade]
    rfl

/-! ## Grades of 32-bit numbers -/

namespace Float32

/-- The grade of a 32-bit number. -/
def grade (x : Float32) : ℤ := gradeOf x.toModel.unpack

/-- The exact value of a 32-bit number that is finite. -/
def value (x : Float32) : ℚ := valueOf x.toModel.unpack

variable {a b : Float32}

theorem le_iff_grade : a ≤ b ↔ a.isNaN = false ∧ b.isNaN = false ∧ grade a ≤ grade b := by
  have hlt : position b < position a ↔ grade b < grade a :=
    positionOf_lt_positionOf_iff (isPacked_unpack _) (isPacked_unpack _)
  rw [le_iff, ← not_lt, hlt, not_lt]

theorem grade_eq_nearestGrade (h : a.isFinite) : grade a = nearestGrade (value a) :=
  gradeOf_eq_nearestGrade (isPacked_unpack _) h

lemma le_of_unpack_eq_infinity (ha : a.isNaN = false)
    (hb : b.toModel.unpack = .infinity .positive) : a ≤ b := by
  refine le_iff_grade.2 ⟨ha, ?_, ?_⟩
  · change b.toModel.unpack.isNaN = false
    rw [hb, isNaN_infinity]
  · rw [grade, grade, hb]
    exact (gradeOf_mem (isPacked_unpack _)).2

lemma le_of_unpack_eq_neg_infinity (ha : a.toModel.unpack = .infinity .negative)
    (hb : b.isNaN = false) : a ≤ b := by
  refine le_iff_grade.2 ⟨?_, hb, ?_⟩
  · change a.toModel.unpack.isNaN = false
    rw [ha, isNaN_infinity]
  · rw [grade, grade, ha]
    exact (gradeOf_mem (isPacked_unpack _)).1

lemma unpack_zero : (0.0 : Float32).toModel.unpack = .zero .positive := rfl

lemma unpack_one : (1.0 : Float32).toModel.unpack = .finite .positive 0x800000 (-23) (by decide) :=
  rfl

lemma unpack_two : (2.0 : Float32).toModel.unpack = .finite .positive 0x800000 (-22) (by decide) :=
  rfl

lemma zero_le_iff_grade : 0.0 ≤ a ↔ a.isNaN = false ∧ 0 ≤ grade a := by
  have hgrade : grade 0.0 = 0 := by
    rw [grade, unpack_zero]
    rfl
  have hthere : (0.0 : Float32).isNaN = false := by
    change (0.0 : Float32).toModel.unpack.isNaN = false
    rw [unpack_zero, isNaN_zero]
  rw [le_iff_grade, hgrade]
  exact ⟨fun h => h.2, fun h => ⟨hthere, h⟩⟩

/-- A number that is not below zero has a value that is not, unless it is infinite. -/
lemma eq_infinity_or_value_nonneg (h : 0.0 ≤ a) :
    a.toModel.unpack = .infinity .positive ∨ a.isFinite ∧ 0 ≤ value a := by
  obtain ⟨hthere, hgrade⟩ := zero_le_iff_grade.1 h
  have hpacked : IsPacked a.toModel.unpack := isPacked_unpack _
  change a.toModel.unpack.isNaN = false at hthere
  change a.toModel.unpack = _ ∨ a.toModel.unpack.isFinite ∧ 0 ≤ valueOf a.toModel.unpack
  unfold grade at hgrade
  generalize a.toModel.unpack = x at *
  rcases x with (_ | _) | _ | s | ⟨_ | _, m, e, hm⟩
  · exact absurd hgrade (by decide)
  · exact .inl rfl
  · exact absurd hthere (by decide)
  · exact .inr ⟨rfl, le_rfl⟩
  · have hpos := gradeAt_pos hpacked.1
    rw [gradeOf, apply_negative] at hgrade
    omega
  · refine .inr ⟨rfl, ?_⟩
    rw [valueOf, apply_positive]
    positivity

end Float32

end Detection
