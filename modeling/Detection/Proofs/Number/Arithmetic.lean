/-
# Arithmetic of 32-bit numbers

Sums, differences, products and quotients of finite 32-bit numbers are the exact ones, rounded to
the nearest 32-bit number.  The core library rounds in two steps: it shifts the digits out that are
too many and keeps of them only what decides which way to round, and then it rounds the mantissa
and shifts once more in case that it got one digit too many.

## Main definitions

* `Approximates`: an extended mantissa keeps what matters of a number.

The main results are `Float32.grade_add`, `Float32.grade_sub`, `Float32.grade_mul` and
`Float32.grade_div`.
-/
import Detection.Proofs.Number.Grade

namespace Detection

open Float.Model (UnpackedFloat Format)
open Float.Model.UnpackedFloat (Sign Accuracy ExtendedMantissa)

/-! ## Shifting digits out -/

/-- An extended mantissa has the integer part of a number.  Its two bits say whether the rest is
less than a half, and whether it is none of zero and a half. -/
structure Approximates (em : ExtendedMantissa) (r : ℚ) : Prop where
  mantissa_le : (em.mantissa : ℚ) ≤ r
  lt_mantissa : r < em.mantissa + 1
  roundBit_iff : em.roundBit = true ↔ em.mantissa + 1 / 2 ≤ r
  stickyBit_iff : em.stickyBit = true ↔ r ≠ em.mantissa ∧ r ≠ em.mantissa + 1 / 2

namespace Approximates

variable {em : ExtendedMantissa} {r : ℚ}

lemma floor_eq (h : Approximates em r) : ⌊r⌋ = em.mantissa :=
  Int.floor_eq_iff.2 ⟨h.mantissa_le, h.lt_mantissa⟩

/-- Both bits together tell whether there is a rest. -/
lemma bits_iff (h : Approximates em r) :
    (em.roundBit || em.stickyBit) = true ↔ r ≠ em.mantissa := by
  rw [Bool.or_eq_true, h.roundBit_iff, h.stickyBit_iff]
  constructor
  · rintro (hhalf | hrest) heq
    · linarith
    · exact hrest.1 heq
  · intro hne
    by_cases hhalf : r = em.mantissa + 1 / 2
    · exact .inl hhalf.ge
    · exact .inr ⟨hne, hhalf⟩

lemma shiftRightOne (h : Approximates em r) : Approximates em.shiftRightOne (r / 2) := by
  have hbits := h.bits_iff
  obtain ⟨hlow, hhigh, -, -⟩ := h
  have hsplit : (em.mantissa : ℚ) = 2 * (em.mantissa / 2 : ℕ) + (em.mantissa % 2 : ℕ) := by
    exact_mod_cast (Nat.div_add_mod em.mantissa 2).symm
  unfold ExtendedMantissa.shiftRightOne
  generalize em.mantissa / 2 = half at hsplit ⊢
  -- The digit that is shifted out is the integer part of the new rest.
  rcases Nat.mod_two_eq_zero_or_one em.mantissa with hdigit | hdigit <;> rw [hdigit] at hsplit ⊢
  · rw [Nat.cast_zero, add_zero] at hsplit
    refine ⟨by linarith, by linarith, ?_, ?_⟩
    · exact iff_of_false Bool.false_ne_true (by linarith)
    · dsimp only
      rw [hbits]
      constructor
      · exact fun hne => ⟨fun heq => hne (by linarith), by linarith⟩
      · exact fun hne heq => hne.1 (by linarith)
  · rw [Nat.cast_one] at hsplit
    refine ⟨by linarith, by linarith, ?_, ?_⟩
    · exact iff_of_true rfl (by linarith)
    · dsimp only
      rw [hbits]
      constructor
      · exact fun hne => ⟨by linarith, fun heq => hne (by linarith)⟩
      · exact fun hne heq => hne.2 (by linarith)

lemma shiftRight (h : Approximates em r) (n : ℕ) : Approximates (em >>> n) (r / 2 ^ n) := by
  induction n with
  | zero =>
    rw [pow_zero, div_one]
    exact h
  | succ n ih =>
    rw [pow_succ, ← div_div]
    exact ih.shiftRightOne

lemma roundedMantissa_eq (h : Approximates em r) :
    (em.roundedMantissa : ℤ) = nearestEven r := by
  have hfloor := h.floor_eq
  obtain ⟨hlow, hhigh, hround, hsticky⟩ := h
  obtain ⟨m, roundBit, stickyBit⟩ := em
  simp only at hround hsticky hlow hhigh hfloor
  unfold nearestEven
  rw [hfloor, Int.cast_natCast]
  cases roundBit <;> cases stickyBit <;>
    simp only [Bool.false_eq_true, false_iff, true_iff] at hround hsticky
  · rw [if_pos (by linarith)]
    rfl
  · rw [if_pos (by linarith)]
    rfl
  · have hhalf : r = m + 1 / 2 := by
      by_contra hne
      exact hsticky ⟨by linarith, hne⟩
    rw [if_neg (by linarith), if_neg (by linarith)]
    rfl
  · have hlt : m + 1 / 2 < r := lt_of_le_of_ne hround (Ne.symm hsticky.2)
    rw [if_neg (by linarith), if_pos (by linarith)]
    rfl

end Approximates

lemma approximates_exact (m : ℕ) :
    Approximates (.ofMantissaAndAccuracy m .exact) m where
  mantissa_le := le_rfl
  lt_mantissa := lt_add_one _
  roundBit_iff := iff_of_false Bool.false_ne_true (by
    rw [not_le]
    exact lt_add_of_pos_right _ (by norm_num))
  stickyBit_iff := iff_of_false Bool.false_ne_true fun h => h.1 rfl

/-- The integer part of a fraction, with the accuracy that its remainder gives. -/
lemma approximates_fraction (m : ℕ) {d : ℕ} (hd : 0 < d) :
    Approximates (.ofMantissaAndAccuracy (m / d) (UnpackedFloat.accuracyOfFraction (m % d) d))
      (m / d) := by
  have hd' : (0 : ℚ) < d := by exact_mod_cast hd
  have hsplit : (m : ℚ) = d * (m / d : ℕ) + (m % d : ℕ) := by
    exact_mod_cast (Nat.div_add_mod m d).symm
  have hrest : ((m % d : ℕ) : ℚ) < d := by exact_mod_cast Nat.mod_lt m hd
  generalize m / d = n, m % d = rest at *
  obtain rfl | hpos := Nat.eq_zero_or_pos rest
  · have hexact : (m : ℚ) / d = n := by
      rw [hsplit, Nat.cast_zero, add_zero, mul_div_cancel_left₀ _ hd'.ne']
    rw [hexact]
    exact approximates_exact n
  · have hpos' : (0 : ℚ) < rest := by exact_mod_cast hpos
    rw [UnpackedFloat.accuracyOfFraction, if_neg hpos.ne']
    have hquotient : (m : ℚ) / d = n + rest / d := by
      rw [hsplit, add_div, mul_div_cancel_left₀ _ hd'.ne']
    have hrest' : (rest : ℚ) / d < 1 := (div_lt_one hd').2 hrest
    have hpos'' : 0 < (rest : ℚ) / d := div_pos hpos' hd'
    rw [hquotient]
    rcases lt_trichotomy (2 * rest) d with hhalf | hhalf | hhalf
    · have hlt : (rest : ℚ) / d < 1 / 2 := by
        rw [div_lt_div_iff₀ hd' two_pos]
        exact_mod_cast (by omega : rest * 2 < 1 * d)
      rw [compare_lt_iff_lt.2 hhalf]
      dsimp only [ExtendedMantissa.ofMantissaAndAccuracy]
      refine ⟨by linarith, by linarith, ?_, ?_⟩
      · exact iff_of_false Bool.false_ne_true (by linarith)
      · exact iff_of_true rfl ⟨by linarith, by linarith⟩
    · have heq : (rest : ℚ) / d = 1 / 2 := by
        rw [div_eq_div_iff hd'.ne' two_ne_zero]
        exact_mod_cast (by omega : rest * 2 = 1 * d)
      rw [compare_eq_iff_eq.2 hhalf]
      dsimp only [ExtendedMantissa.ofMantissaAndAccuracy]
      refine ⟨by linarith, by linarith, ?_, ?_⟩
      · exact iff_of_true rfl (by linarith)
      · exact iff_of_false Bool.false_ne_true fun h => h.2 (by linarith)
    · have hgt : 1 / 2 < (rest : ℚ) / d := by
        rw [div_lt_div_iff₀ two_pos hd']
        exact_mod_cast (by omega : 1 * d < rest * 2)
      rw [compare_gt_iff_gt.2 hhalf]
      dsimp only [ExtendedMantissa.ofMantissaAndAccuracy]
      refine ⟨by linarith, by linarith, ?_, ?_⟩
      · exact iff_of_true rfl (by linarith)
      · exact iff_of_true rfl ⟨by linarith, by linarith⟩

/-! ## Rounding -/

lemma targetExponent_totalExponent (m : ℕ) (e : ℤ) :
    Format.binary32.targetExponent (Float.Model.totalExponent m e) =
      max (m.log2 + 1 + e - 24) (-149) := rfl

lemma targetExponent_of_pos {v : ℚ} {m : ℕ} {e : ℤ} (hm : 0 < m) (hfloor : ⌊v / 2 ^ e⌋ = m) :
    Format.binary32.targetExponent (Float.Model.totalExponent m e) = lastPlace v := by
  have hlog := log_eq hm hfloor
  rw [targetExponent_totalExponent, lastPlace]
  omega

/-- The place that rounding shifts to is the last place of the number. -/
lemma targetExponent_eq {v : ℚ} {m : ℕ} {e : ℤ} (hv : 0 < v) (hfloor : ⌊v / 2 ^ e⌋ = m)
    (he : e ≤ lastPlace v) :
    Format.binary32.targetExponent (Float.Model.totalExponent m e) = lastPlace v := by
  rcases Nat.eq_zero_or_pos m with rfl | hm
  · -- All digits of the number are beyond its last place, which must be the last of all.
    have hlt : v < (2 : ℚ) ^ e := by
      have h := (Int.floor_eq_iff.1 hfloor).2
      rw [div_lt_iff₀ (by positivity)] at h
      simpa using h
    have hlog : Int.log 2 v < e := (Int.lt_zpow_iff_log_lt (by decide) hv).1 hlt
    rw [targetExponent_totalExponent, Nat.log2_zero]
    unfold lastPlace at he ⊢
    omega
  · exact targetExponent_of_pos hm hfloor

/-- Shifting further is only needed where rounding gave a digit too many. -/
lemma shiftToTargetExponent_exact {n : ℕ} {e : ℤ} (hn : n ≤ 0x1000000) (he : -149 ≤ e) :
    UnpackedFloat.shiftToTargetExponent .binary32 n e .exact =
      if n < 0x1000000 then (.ofMantissaAndAccuracy n .exact, e)
      else (.ofMantissaAndAccuracy 0x800000 .exact, e + 1) := by
  simp only [UnpackedFloat.shiftToTargetExponent, UnpackedFloat.shiftToExponent,
    targetExponent_totalExponent]
  split_ifs with hlt
  · have hlog : n.log2 < 24 := by
      rcases Nat.eq_zero_or_pos n with rfl | hpos
      · decide
      · exact (Nat.log2_lt hpos.ne').2 hlt
    have hshift : (max ((n.log2 : ℤ) + 1 + e - 24) (-149) - e).toNat = 0 := by omega
    rw [hshift, Int.natCast_zero, add_zero]
    rfl
  · obtain rfl : n = 0x1000000 := by omega
    have hlog : Nat.log2 0x1000000 = 24 := by decide
    have hshift : (max (((24 : ℕ) : ℤ) + 1 + e - 24) (-149) - e).toNat = 1 := by omega
    rw [hlog, hshift]
    rfl

/-- An unpacked number is what rounding makes of an exact one. -/
structure Rounds (x : UnpackedFloat) (v : ℚ) : Prop where
  isRounded : IsRounded x
  isNaN_eq : x.isNaN = false
  grade_eq : gradeOf (limited x) = nearestGrade v

section RoundWithAccuracy

variable {v : ℚ} {m : ℕ} {e : ℤ} {acc : Accuracy}

/-- The first of the two shifts leaves the number of units that the number is nearest to. -/
lemma roundedMantissa_shiftToTargetExponent (hv : 0 < v) (he : e ≤ lastPlace v)
    (h : Approximates (.ofMantissaAndAccuracy m acc) (v / 2 ^ e)) :
    (UnpackedFloat.shiftToTargetExponent .binary32 m e acc).2 = lastPlace v ∧
      ((UnpackedFloat.shiftToTargetExponent .binary32 m e acc).1.roundedMantissa : ℤ) =
        inPlaces v := by
  have hmantissa : (ExtendedMantissa.ofMantissaAndAccuracy m acc).mantissa = m := by
    rcases acc with _ | (_ | _ | _) <;> rfl
  have htarget := targetExponent_eq hv (h.floor_eq.trans (congrArg _ hmantissa)) he
  simp only [UnpackedFloat.shiftToTargetExponent, UnpackedFloat.shiftToExponent, htarget]
  constructor
  · omega
  · have hshift : v / 2 ^ e / 2 ^ (lastPlace v - e).toNat = v / 2 ^ lastPlace v := by
      rw [div_div, ← zpow_natCast, ← zpow_add₀ two_ne_zero]
      congr 2
      omega
    rw [(h.shiftRight _).roundedMantissa_eq, hshift]
    rfl

/-- Rounding a number of which the accuracy is known gives the nearest one. -/
theorem rounds_roundWithAccuracy (s : Sign) (hv : 0 < v) (he : e ≤ lastPlace v)
    (h : Approximates (.ofMantissaAndAccuracy m acc) (v / 2 ^ e)) :
    Rounds (UnpackedFloat.roundWithAccuracy .binary32 s m e acc) (s.apply 1 * v) := by
  obtain ⟨hplace, hunits⟩ := roundedMantissa_shiftToTargetExponent hv he h
  unfold UnpackedFloat.roundWithAccuracy
  generalize UnpackedFloat.shiftToTargetExponent .binary32 m e acc = first at hplace hunits ⊢
  obtain ⟨em, place⟩ := first
  dsimp only at hplace hunits ⊢
  generalize em.roundedMantissa = n at hunits ⊢
  subst hplace
  have hlow := neg_le_lastPlace v
  have hhigh := inPlaces_le v
  have hdigits := le_inPlaces hv
  have hgrade : nearestGrade (s.apply 1 * v) =
      s.apply (min (gradeAt (lastPlace v) n) infinityGrade) := by
    rw [nearestGrade_apply s hv, magnitudeGrade, hunits]
  rw [← hunits] at hhigh hdigits
  rw [shiftToTargetExponent_exact (by exact_mod_cast hhigh) hlow]
  split_ifs with hlt hzero hcarry
  · -- Nothing is left of the number only if its last place is the last of all.
    obtain rfl : n = 0 := hzero
    have hnone : gradeAt (lastPlace v) (0 : ℕ) = 0 := by
      unfold gradeAt
      omega
    have hmin : min (0 : ℤ) infinityGrade = 0 := by decide
    refine ⟨trivial, rfl, ?_⟩
    rw [hgrade, hnone, hmin]
    cases s <;> rfl
  · have hrounded : IsRounded (.finite s n (lastPlace v) (Nat.pos_of_ne_zero hzero)) :=
      ⟨hlt, hlow, by omega⟩
    exact ⟨hrounded, rfl, (gradeOf_limited hrounded).trans hgrade.symm⟩
  · exact absurd hcarry (Nat.succ_ne_zero 0x7fffff)
  · have hrounded : IsRounded (.finite s 0x800000 (lastPlace v + 1) (by decide)) :=
      ⟨by decide, by omega, .inl le_rfl⟩
    refine ⟨hrounded, rfl, (gradeOf_limited hrounded).trans ?_⟩
    have hsame : gradeAt (lastPlace v + 1) (0x800000 : ℕ) = gradeAt (lastPlace v) n := by
      unfold gradeAt
      omega
    rw [hgrade, hsame]

end RoundWithAccuracy

lemma rounds_round (s : Sign) {m : ℕ} (e : ℤ) (hm : 0 < m) :
    Rounds (UnpackedFloat.round .binary32 s m e) (s.apply 1 * (m * 2 ^ e)) := by
  have hv : (0 : ℚ) < m * 2 ^ e := by positivity
  have hfloor : ⌊(m * 2 ^ e / 2 ^ e : ℚ)⌋ = m := by
    rw [mul_div_cancel_right₀ _ (by positivity), Int.floor_natCast]
  unfold UnpackedFloat.round UnpackedFloat.decreaseExponent
  rw [targetExponent_of_pos hm hfloor]
  refine rounds_roundWithAccuracy s hv (by omega) ?_
  have hexact : (m * 2 ^ e / 2 ^ (e - ((e - lastPlace (m * 2 ^ e)).toNat : ℤ)) : ℚ) =
      (m <<< (e - lastPlace (m * 2 ^ e)).toNat : ℕ) := by
    rw [Nat.shiftLeft_eq, mul_div_assoc, ← zpow_sub₀ two_ne_zero, sub_sub_cancel, zpow_natCast]
    push_cast
    rfl
  rw [hexact]
  exact approximates_exact _

lemma rounds_zero (s : Sign) : Rounds (.zero s) 0 :=
  ⟨trivial, rfl, nearestGrade_zero.symm⟩

/-- A number that can be packed is already rounded. -/
lemma rounds_self {x : UnpackedFloat} (h : IsPacked x) (hfinite : x.isFinite) :
    Rounds x (valueOf x) := by
  refine ⟨h.isRounded, ?_, ?_⟩
  · obtain ⟨s, rfl⟩ | ⟨s, m, e, hm, rfl⟩ := eq_zero_or_eq_finite hfinite <;> rfl
  · rw [h.limited_eq]
    exact gradeOf_eq_nearestGrade h hfinite

lemma rounds_normalize (m : ℤ) (e : ℤ) (s : Sign) :
    Rounds (UnpackedFloat.normalize .binary32 m e s) (m * 2 ^ e) := by
  unfold UnpackedFloat.normalize
  rcases lt_trichotomy m 0 with h | rfl | h
  · rw [compare_lt_iff_lt.2 h]
    have hm : 0 < (-m).toNat := by omega
    have hsigned : ((Sign.negative.apply 1 : ℤ) * (((-m).toNat : ℕ) * 2 ^ e) : ℚ) = m * 2 ^ e := by
      have hcast : (((-m).toNat : ℕ) : ℚ) = -m := by
        exact_mod_cast Int.toNat_of_nonneg (by omega : 0 ≤ -m)
      change ((-1 : ℤ) : ℚ) * _ = _
      rw [hcast]
      push_cast
      ring
    exact hsigned ▸ rounds_round .negative e hm
  · rw [Int.cast_zero, zero_mul]
    exact rounds_zero s
  · rw [compare_gt_iff_gt.2 h]
    have hm : 0 < m.toNat := by omega
    have hsigned : ((Sign.positive.apply 1 : ℤ) * ((m.toNat : ℕ) * 2 ^ e) : ℚ) = m * 2 ^ e := by
      have hcast : ((m.toNat : ℕ) : ℚ) = m := by
        exact_mod_cast Int.toNat_of_nonneg h.le
      change ((1 : ℤ) : ℚ) * _ = _
      rw [hcast, Int.cast_one, one_mul]
    exact hsigned ▸ rounds_round .positive e hm

/-! ## Sums, differences, products and quotients -/

lemma apply_decreaseExponent (s : Sign) (m : ℕ) {e place : ℤ} (h : place ≤ e) :
    ((s.apply (UnpackedFloat.decreaseExponent m e place).1 : ℤ) : ℚ) * 2 ^ place =
      s.apply m * 2 ^ e := by
  have hvalue : ((m <<< (e - place).toNat : ℕ) : ℚ) * 2 ^ place = m * 2 ^ e := by
    rw [Nat.shiftLeft_eq, Nat.cast_mul, Nat.cast_pow, mul_assoc, ← zpow_natCast, Nat.cast_ofNat,
      ← zpow_add₀ two_ne_zero]
    congr 2
    omega
  rw [cast_apply, cast_apply s m, mul_assoc, mul_assoc, Int.cast_natCast, Int.cast_natCast]
  exact congrArg _ hvalue

/-- The digits of a product are as many as rounding needs. -/
lemma le_lastPlace_mul {s s' : Sign} {m m' : ℕ} {e e' : ℤ} {hm : 0 < m} {hm' : 0 < m'}
    (h : IsPacked (.finite s m e hm)) (h' : IsPacked (.finite s' m' e' hm')) :
    e + e' ≤ lastPlace ((m * m' : ℕ) * 2 ^ (e + e')) := by
  obtain ⟨⟨-, hlow, hdigits⟩, hhigh⟩ := h
  obtain ⟨⟨-, hlow', hdigits'⟩, hhigh'⟩ := h'
  have hpos : 0 < m * m' := Nat.mul_pos hm hm'
  have hfloor : ⌊((m * m' : ℕ) * 2 ^ (e + e') / 2 ^ (e + e') : ℚ)⌋ = (m * m' : ℕ) := by
    rw [mul_div_cancel_right₀ _ (by positivity), Int.floor_natCast]
  have hlog := log_eq hpos hfloor
  -- Unless both numbers have the last place of all, one of them has 24 digits.
  have hfull : 0x800000 ≤ m ∨ 0x800000 ≤ m' → 23 ≤ (m * m').log2 := by
    intro hfull
    rw [Nat.le_log2 hpos.ne']
    rcases hfull with hfull | hfull
    · exact hfull.trans (Nat.le_mul_of_pos_right m hm')
    · exact hfull.trans (Nat.le_mul_of_pos_left m' hm)
  unfold lastPlace
  omega

/-- The digits of a quotient are as many as rounding needs. -/
lemma le_lastPlace_div (e e' : ℤ) {m m' : ℕ} (hm : 0 < m) (hm' : 0 < m') :
    Format.binary32.targetExponent
        (Float.Model.totalExponent m e - Float.Model.totalExponent m' e') ≤
      lastPlace (m * 2 ^ e / (m' * 2 ^ e')) := by
  have hv : (0 : ℚ) < m * 2 ^ e / (m' * 2 ^ e') := by positivity
  have hdigits : (2 : ℚ) ^ m.log2 ≤ m := by
    exact_mod_cast Nat.log2_self_le hm.ne'
  have hdigits' : (m' : ℚ) ≤ 2 ^ (m'.log2 + 1) := by
    exact_mod_cast Nat.lt_log2_self.le
  have hlog : (m.log2 : ℤ) + e - (m'.log2 + 1 + e') ≤
      Int.log 2 (m * 2 ^ e / (m' * 2 ^ e') : ℚ) := by
    rw [← Int.zpow_le_iff_le_log (by decide) hv]
    calc ((2 : ℕ) : ℚ) ^ ((m.log2 : ℤ) + e - (m'.log2 + 1 + e'))
        = 2 ^ m.log2 * 2 ^ e / (2 ^ (m'.log2 + 1) * 2 ^ e') := by
          rw [Nat.cast_ofNat, zpow_sub₀ two_ne_zero, zpow_add₀ two_ne_zero,
            zpow_add₀ two_ne_zero ((m'.log2 : ℤ) + 1)]
          rfl
      _ ≤ m * 2 ^ e / (m' * 2 ^ e') := by gcongr
  change max (((m.log2 : ℤ) + 1 + e - (m'.log2 + 1 + e')) - 24) (-149) ≤ lastPlace _
  unfold lastPlace
  omega

lemma rounds_divCore (s : Sign) (e e' : ℤ) {m m' : ℕ} (hm : 0 < m) (hm' : 0 < m') :
    Rounds (UnpackedFloat.roundWithAccuracy .binary32 s
        (UnpackedFloat.divCore .binary32 m e m' e').1
        (UnpackedFloat.divCore .binary32 m e m' e').2.1
        (UnpackedFloat.divCore .binary32 m e m' e').2.2)
      (s.apply 1 * (m * 2 ^ e / (m' * 2 ^ e'))) := by
  have hv : (0 : ℚ) < m * 2 ^ e / (m' * 2 ^ e') := by positivity
  have hplace := le_lastPlace_div e e' hm hm'
  unfold UnpackedFloat.divCore
  refine rounds_roundWithAccuracy s hv ((min_le_right _ _).trans hplace) ?_
  generalize Format.binary32.targetExponent _ = place
  have hfraction : (m * 2 ^ e / (m' * 2 ^ e') / 2 ^ min (e - e') place : ℚ) =
      (m <<< (e - e' - min (e - e') place).toNat : ℕ) / m' := by
    have hpower : (2 : ℚ) ^ (e - e' - min (e - e') place).toNat =
        2 ^ e / 2 ^ e' / 2 ^ min (e - e') place := by
      rw [← zpow_natCast, ← zpow_sub₀ two_ne_zero, ← zpow_sub₀ two_ne_zero,
        Int.toNat_of_nonneg (by omega)]
    rw [Nat.shiftLeft_eq, Nat.cast_mul, Nat.cast_pow, Nat.cast_ofNat, hpower]
    field_simp
  rw [hfraction]
  exact approximates_fraction _ hm'

section Operations

variable {x y : UnpackedFloat} (hx : IsPacked x) (hy : IsPacked y) (hfx : x.isFinite)
  (hfy : y.isFinite)

include hx hy hfx hfy

lemma rounds_add : Rounds (.add .binary32 x y) (valueOf x + valueOf y) := by
  obtain ⟨s, rfl⟩ | ⟨s, m, e, hm, rfl⟩ := eq_zero_or_eq_finite hfx <;>
    obtain ⟨s', rfl⟩ | ⟨s', m', e', hm', rfl⟩ := eq_zero_or_eq_finite hfy
  · rw [valueOf_zero, valueOf_zero, add_zero]
    cases s <;> cases s' <;> exact rounds_zero _
  · rw [valueOf_zero, zero_add]
    exact rounds_self hy hfy
  · rw [valueOf_zero, add_zero]
    exact rounds_self hx hfx
  · have hsum := rounds_normalize
      (s.apply (UnpackedFloat.decreaseExponent m e (min e e')).1 +
        s'.apply (UnpackedFloat.decreaseExponent m' e' (min e e')).1) (min e e') .positive
    rw [Int.cast_add, add_mul, apply_decreaseExponent s m (min_le_left e e'),
      apply_decreaseExponent s' m' (min_le_right e e')] at hsum
    exact hsum

lemma rounds_sub : Rounds (.sub .binary32 x y) (valueOf x - valueOf y) := by
  obtain ⟨s, rfl⟩ | ⟨s, m, e, hm, rfl⟩ := eq_zero_or_eq_finite hfx <;>
    obtain ⟨s', rfl⟩ | ⟨s', m', e', hm', rfl⟩ := eq_zero_or_eq_finite hfy
  · rw [valueOf_zero, valueOf_zero, sub_zero]
    cases s <;> cases s' <;> exact rounds_zero _
  · have hneg : valueOf (.finite (-s') m' e' hm') = -valueOf (.finite s' m' e' hm') := by
      rw [valueOf_finite, valueOf_finite, apply_one_neg, neg_mul]
    rw [valueOf_zero, zero_sub, ← hneg]
    exact rounds_self hy rfl
  · rw [valueOf_zero, sub_zero]
    exact rounds_self hx hfx
  · have hdifference := rounds_normalize
      (s.apply (UnpackedFloat.decreaseExponent m e (min e e')).1 -
        s'.apply (UnpackedFloat.decreaseExponent m' e' (min e e')).1) (min e e') .positive
    rw [Int.cast_sub, sub_mul, apply_decreaseExponent s m (min_le_left e e'),
      apply_decreaseExponent s' m' (min_le_right e e')] at hdifference
    exact hdifference

lemma rounds_mul : Rounds (.mul .binary32 x y) (valueOf x * valueOf y) := by
  obtain ⟨s, rfl⟩ | ⟨s, m, e, hm, rfl⟩ := eq_zero_or_eq_finite hfx <;>
    obtain ⟨s', rfl⟩ | ⟨s', m', e', hm', rfl⟩ := eq_zero_or_eq_finite hfy
  · rw [valueOf_zero, zero_mul]
    exact rounds_zero _
  · rw [valueOf_zero, zero_mul]
    exact rounds_zero _
  · rw [valueOf_zero, mul_zero]
    exact rounds_zero _
  · have hv : (0 : ℚ) < (m * m' : ℕ) * 2 ^ (e + e') := by
      have hpos := Nat.mul_pos hm hm'
      positivity
    have hvalue : valueOf (.finite s m e hm) * valueOf (.finite s' m' e' hm') =
        (s * s').apply 1 * ((m * m' : ℕ) * 2 ^ (e + e')) := by
      rw [valueOf_finite, valueOf_finite, apply_one_mul, zpow_add₀ two_ne_zero, Nat.cast_mul]
      ring
    rw [hvalue]
    refine rounds_roundWithAccuracy _ hv (le_lastPlace_mul hx hy) ?_
    rw [mul_div_cancel_right₀ _ (by positivity)]
    exact approximates_exact _

lemma rounds_div (hne : valueOf y ≠ 0) : Rounds (.div .binary32 x y) (valueOf x / valueOf y) := by
  obtain ⟨s', rfl⟩ | ⟨s', m', e', hm', rfl⟩ := eq_zero_or_eq_finite hfy
  · exact absurd (valueOf_zero s') hne
  obtain ⟨s, rfl⟩ | ⟨s, m, e, hm, rfl⟩ := eq_zero_or_eq_finite hfx
  · rw [valueOf_zero, zero_div]
    exact rounds_zero _
  · have hquotient := rounds_divCore (s / s') e e' hm hm'
    have hsigns : valueOf (.finite s m e hm) / valueOf (.finite s' m' e' hm') =
        (s / s').apply 1 * (m * 2 ^ e / (m' * 2 ^ e')) := by
      rw [valueOf_finite, valueOf_finite, apply_one_div, mul_div_mul_comm]
    rw [hsigns]
    exact hquotient

end Operations

namespace Float32

variable {a b : Float32}

/-- The 32-bit number that rounding an exact number gives. -/
lemma grade_of_rounds {x : UnpackedFloat} {v : ℚ} (h : Rounds x v)
    (ha : a.toModel.unpack = limited x) : a.isNaN = false ∧ grade a = nearestGrade v := by
  constructor
  · change a.toModel.unpack.isNaN = false
    rw [ha, isNaN_limited, h.isNaN_eq]
  · rw [grade, ha, h.grade_eq]

/-- The sum of finite numbers is there, and it is the exact one, rounded. -/
theorem grade_add (ha : a.isFinite) (hb : b.isFinite) :
    (a + b).isNaN = false ∧ grade (a + b) = nearestGrade (value a + value b) := by
  have hsum := rounds_add (isPacked_unpack _) (isPacked_unpack _) ha hb
  exact grade_of_rounds hsum (unpack_pack hsum.isRounded)

theorem grade_sub (ha : a.isFinite) (hb : b.isFinite) :
    (a - b).isNaN = false ∧ grade (a - b) = nearestGrade (value a - value b) := by
  have hdifference := rounds_sub (isPacked_unpack _) (isPacked_unpack _) ha hb
  exact grade_of_rounds hdifference (unpack_pack hdifference.isRounded)

theorem grade_mul (ha : a.isFinite) (hb : b.isFinite) :
    (a * b).isNaN = false ∧ grade (a * b) = nearestGrade (value a * value b) := by
  have hproduct := rounds_mul (isPacked_unpack _) (isPacked_unpack _) ha hb
  exact grade_of_rounds hproduct (unpack_pack hproduct.isRounded)

theorem grade_div (ha : a.isFinite) (hb : b.isFinite) (hne : value b ≠ 0) :
    (a / b).isNaN = false ∧ grade (a / b) = nearestGrade (value a / value b) := by
  have hquotient := rounds_div (isPacked_unpack _) (isPacked_unpack _) ha hb hne
  exact grade_of_rounds hquotient (unpack_pack hquotient.isRounded)

/-! ### Moving away from a number -/

lemma unpack_pack_of_eq_infinity {x : UnpackedFloat} {s : Sign} (h : x = .infinity s) :
    UnpackedFloat.unpack .binary32 (UnpackedFloat.pack .binary32 x) = .infinity s := by
  subst h
  exact unpack_infinite s

/-- What is not below zero leads upwards, however much of it rounding takes away. -/
theorem le_add_of_nonneg (ha : a.isFinite) (hb : 0.0 ≤ b) : a ≤ a + b := by
  rcases eq_infinity_or_value_nonneg hb with hinfinity | ⟨hfinite, hvalue⟩
  · refine le_of_unpack_eq_infinity (isNaN_of_isFinite ha) ?_
    have hresult : UnpackedFloat.add .binary32 a.toModel.unpack b.toModel.unpack =
        .infinity .positive := by
      rw [hinfinity]
      obtain ⟨s, h⟩ | ⟨s, m, e, hm, h⟩ := eq_zero_or_eq_finite ha <;> rw [h] <;> rfl
    exact unpack_pack_of_eq_infinity hresult
  · obtain ⟨hthere, hgrade⟩ := grade_add ha hfinite
    rw [le_iff_grade, hgrade, grade_eq_nearestGrade ha]
    exact ⟨isNaN_of_isFinite ha, hthere, nearestGrade_mono (le_add_of_nonneg_right hvalue)⟩

/-- A number leads upwards, be it infinite, if neither it nor what is added is below zero. -/
theorem le_add_of_nonneg_of_nonneg (ha : 0.0 ≤ a) (hb : 0.0 ≤ b) : a ≤ a + b := by
  rcases eq_infinity_or_value_nonneg ha with hinfinity | ⟨hfinite, -⟩
  · refine le_of_unpack_eq_infinity (le_iff_grade.1 ha).2.1 ?_
    have hresult : UnpackedFloat.add .binary32 a.toModel.unpack b.toModel.unpack =
        .infinity .positive := by
      rw [hinfinity]
      rcases eq_infinity_or_value_nonneg hb with hother | ⟨hother, -⟩
      · rw [hother]
        rfl
      · obtain ⟨s, h⟩ | ⟨s, m, e, hm, h⟩ := eq_zero_or_eq_finite hother <;> rw [h] <;> rfl
    exact unpack_pack_of_eq_infinity hresult
  · exact le_add_of_nonneg hfinite hb

/-- What is not below zero leads downwards when it is taken away. -/
theorem sub_le_of_nonneg (ha : a.isFinite) (hb : 0.0 ≤ b) : a - b ≤ a := by
  rcases eq_infinity_or_value_nonneg hb with hinfinity | ⟨hfinite, hvalue⟩
  · refine le_of_unpack_eq_neg_infinity ?_ (isNaN_of_isFinite ha)
    have hresult : UnpackedFloat.sub .binary32 a.toModel.unpack b.toModel.unpack =
        .infinity .negative := by
      rw [hinfinity]
      obtain ⟨s, h⟩ | ⟨s, m, e, hm, h⟩ := eq_zero_or_eq_finite ha <;> rw [h] <;> rfl
    exact unpack_pack_of_eq_infinity hresult
  · obtain ⟨hthere, hgrade⟩ := grade_sub ha hfinite
    rw [le_iff_grade, hgrade, grade_eq_nearestGrade ha]
    exact ⟨hthere, isNaN_of_isFinite ha, nearestGrade_mono (sub_le_self _ hvalue)⟩

/-- A half of something that is not below zero is not, either. -/
theorem half_nonneg (ha : 0.0 ≤ a) : 0.0 ≤ a / 2.0 := by
  have htwo : value 2.0 = 2 := by
    rw [value, unpack_two, valueOf, apply_positive]
    norm_num
  rcases eq_infinity_or_value_nonneg ha with hinfinity | ⟨hfinite, hvalue⟩
  · refine le_of_unpack_eq_infinity (isNaN_of_isFinite rfl) ?_
    have hresult : UnpackedFloat.div .binary32 a.toModel.unpack (2.0 : Float32).toModel.unpack =
        .infinity .positive := by
      rw [hinfinity]
      rfl
    exact unpack_pack_of_eq_infinity hresult
  · obtain ⟨hthere, hgrade⟩ := grade_div hfinite (b := 2.0) rfl (by rw [htwo]; norm_num)
    rw [zero_le_iff_grade, hgrade, htwo]
    exact ⟨hthere, nearestGrade_nonneg (by positivity)⟩

end Float32

end Detection
