/-
# Exact 64-bit arithmetic

A 64-bit number has 53 digits.  As long as sums and products of whole multiples of powers of two
need no more of them, nothing is rounded, and what they are does not depend on how many of the
digits are zeros at the end.  A product with more digits is rounded, but it depends on the exact
product only.

## Main definitions

* `Fits`: a multiple of a power of two has digits enough in 64 bits.
* `Holds`: a 64-bit number is such a multiple exactly.

The main results are `Holds.add`, `Holds.mul_eq` and `holds_sum_replicate`.
-/
import Detection.Number.Line
import Detection.Proofs.Number.Whole

namespace Detection

open Float.Model (UnpackedFloat Format totalExponent)
open Float.Model.UnpackedFloat (Sign Accuracy ExtendedMantissa pack unpack packComponents)

/-! ## Digits that are zeros -/

lemma shiftLeft_pos {m : ℕ} (hm : 0 < m) (i : ℕ) : 0 < m <<< i := by
  rw [Nat.shiftLeft_eq]
  positivity

lemma log2_shiftLeft {m : ℕ} (hm : 0 < m) (i : ℕ) : (m <<< i).log2 = m.log2 + i := by
  induction i with
  | zero => rfl
  | succ i ih =>
    rw [Nat.shiftLeft_succ, Nat.log2_two_mul (shiftLeft_pos hm i).ne', ih]
    rfl

lemma totalExponent_shiftLeft {m : ℕ} (hm : 0 < m) (e : ℤ) (i : ℕ) :
    totalExponent (m <<< i) (e - i) = totalExponent m e := by
  unfold totalExponent
  rw [log2_shiftLeft hm]
  push_cast
  ring

lemma shiftRight_add (em : ExtendedMantissa) (i j : ℕ) : em >>> (i + j) = (em >>> i) >>> j := by
  induction j with
  | zero => rfl
  | succ j ih =>
    change (em >>> (i + j)).shiftRightOne = ((em >>> i) >>> j).shiftRightOne
    rw [ih]

/-- Nothing is lost with digits that are zeros. -/
lemma shiftRight_shiftLeft (m i : ℕ) :
    (ExtendedMantissa.ofMantissaAndAccuracy (m <<< i) .exact) >>> i =
      .ofMantissaAndAccuracy m .exact := by
  induction i generalizing m with
  | zero => rfl
  | succ i ih =>
    have hfirst : m <<< (i + 1) = (2 * m) <<< i := by
      rw [Nat.shiftLeft_eq, Nat.shiftLeft_eq]
      ring
    change ((ExtendedMantissa.ofMantissaAndAccuracy (m <<< (i + 1)) .exact) >>> i).shiftRightOne = _
    rw [hfirst, ih]
    simp [ExtendedMantissa.shiftRightOne, ExtendedMantissa.ofMantissaAndAccuracy]

section Format

variable {spec : Format} {s : Sign} {m : ℕ} {e : ℤ}

/-- Zeros at the end do not matter, if there are digits that are rounded away. -/
lemma roundWithAccuracy_shiftLeft (hm : 0 < m) (i : ℕ)
    (he : e ≤ spec.targetExponent (totalExponent m e)) :
    UnpackedFloat.roundWithAccuracy spec s (m <<< i) (e - i) .exact =
      UnpackedFloat.roundWithAccuracy spec s m e .exact := by
  have hshift : UnpackedFloat.shiftToTargetExponent spec (m <<< i) (e - i) .exact =
      UnpackedFloat.shiftToTargetExponent spec m e .exact := by
    simp only [UnpackedFloat.shiftToTargetExponent, UnpackedFloat.shiftToExponent,
      totalExponent_shiftLeft hm]
    generalize spec.targetExponent (totalExponent m e) = target at he
    have hamount : (target - (e - i)).toNat = i + (target - e).toNat := by omega
    rw [hamount, shiftRight_add, shiftRight_shiftLeft]
    congr 1
    omega
  unfold UnpackedFloat.roundWithAccuracy
  rw [hshift]

/-- Zeros at the end do not matter at all where they can be put there, too. -/
theorem round_shiftLeft (hm : 0 < m) (i : ℕ) :
    UnpackedFloat.round spec s (m <<< i) (e - i) = UnpackedFloat.round spec s m e := by
  unfold UnpackedFloat.round UnpackedFloat.decreaseExponent
  rw [totalExponent_shiftLeft hm]
  generalize htarget : spec.targetExponent (totalExponent m e) = target
  dsimp only
  have hdigits : m <<< i <<< (e - i - target).toNat =
      (m <<< (e - target).toNat) <<< (i + (e - i - target).toNat - (e - target).toNat) := by
    rw [← Nat.shiftLeft_add, ← Nat.shiftLeft_add]
    congr 1
    omega
  have hplace : e - i - ((e - i - target).toNat : ℤ) = e - ((e - target).toNat : ℤ) -
      ((i + (e - i - target).toNat - (e - target).toNat : ℕ) : ℤ) := by
    omega
  rw [hdigits, hplace, roundWithAccuracy_shiftLeft (shiftLeft_pos hm _)]
  rw [totalExponent_shiftLeft hm, htarget]
  omega

lemma round_eq_roundWithAccuracy (he : e ≤ spec.targetExponent (totalExponent m e)) :
    UnpackedFloat.round spec s m e = UnpackedFloat.roundWithAccuracy spec s m e .exact := by
  have hnone : (e - spec.targetExponent (totalExponent m e)).toNat = 0 := by omega
  unfold UnpackedFloat.round UnpackedFloat.decreaseExponent
  simp only [hnone, Nat.shiftLeft_zero, Nat.cast_zero, sub_zero]

/-- A number whose last digit is in the last place is not changed. -/
lemma roundWithAccuracy_self (hm : 0 < m) (he : spec.targetExponent (totalExponent m e) = e) :
    UnpackedFloat.roundWithAccuracy spec s m e .exact = .finite s m e hm := by
  have hshift : UnpackedFloat.shiftToTargetExponent spec m e .exact =
      (.ofMantissaAndAccuracy m .exact, e) := by
    simp only [UnpackedFloat.shiftToTargetExponent, UnpackedFloat.shiftToExponent, he, sub_self]
    exact Prod.ext rfl (add_zero e)
  have hrounded : (ExtendedMantissa.ofMantissaAndAccuracy m .exact).roundedMantissa = m := rfl
  unfold UnpackedFloat.roundWithAccuracy
  simp only [hshift, hrounded]
  exact dif_neg hm.ne'

end Format

/-! ## Packing -/

section Pack

variable {s : Sign} {m : ℕ} {e : ℤ} {hm : 0 < m}

/-- The exponent as it is packed. -/
lemma toNat_biased (e : ℤ) :
    (e + (Format.binary64.exponentBias : ℤ) + (52 : ℕ)).toNat = (e + 1075).toNat := by
  change (e + ((1023 : ℕ) : ℤ) + ((52 : ℕ) : ℤ)).toNat = _
  omega

/-- A number is finite, and its last place is not above a bound. -/
def HasPlaceLE (p : ℤ) : UnpackedFloat → Prop
  | .zero _ => True
  | .finite _ _ e _ => e ≤ p
  | _ => False

lemma HasPlaceLE.isFinite {p : ℤ} {x : UnpackedFloat} (h : HasPlaceLE p x) : x.isFinite := by
  cases x <;> first | rfl | exact h.elim

/-- The exponents but the last one are those of finite numbers. -/
lemma hasPlaceLE_unpack_packComponents {p : ℤ} {exponent : BitVec 11}
    (hlast : exponent.toNat < 2047) (hlow : -1074 ≤ p) (h : (exponent.toNat : ℤ) - 1075 ≤ p)
    (mantissa : BitVec 52) :
    HasPlaceLE p (unpack .binary64 (packComponents .binary64 s exponent mantissa)) := by
  have hne : exponent ≠ -1#11 := by
    rintro rfl
    exact absurd hlast (by decide)
  simp only [unpack, UnpackedFloat.unpackExponent_packComponents, if_neg hne]
  split_ifs with hfirst hzero
  · exact True.intro
  · have hplace : (exponent.toNat : ℤ) - (((1023 : ℕ) : ℤ) + (52 : ℕ)) + 1 = -1074 := by
      rw [hfirst]
      rfl
    exact hplace.trans_le hlow
  · have hplace : (exponent.toNat : ℤ) - (((1023 : ℕ) : ℤ) + (52 : ℕ)) =
        (exponent.toNat : ℤ) - 1075 := by
      omega
    exact hplace.trans_le h

/-- What is not too large stays finite when it is packed. -/
lemma hasPlaceLE_unpack_pack {p : ℤ} (he : e ≤ p) (hlow : -1074 ≤ p) (hhigh : p ≤ 971) :
    HasPlaceLE p (unpack .binary64 (pack .binary64 (.finite s m e hm))) := by
  simp only [pack, toNat_biased]
  rw [if_neg (by omega)]
  split_ifs
  · refine hasPlaceLE_unpack_packComponents ?_ hlow ?_ _ <;>
    · rw [BitVec.toNat_ofNat]
      omega
  · exact hasPlaceLE_unpack_packComponents (by decide) hlow (by simpa using by omega) _

/-- The digits of a number counted in units of its last place.  Where rounding gave one digit too
many, the last one is a zero that is dropped. -/
def ofDigits (s : Sign) (n : ℕ) (place : ℤ) : UnpackedFloat :=
  if hn : n = 0 then .zero s
  else if n < 2 ^ 53 then .finite s n place (Nat.pos_of_ne_zero hn)
  else .finite s (2 ^ 52) (place + 1) (by decide)

lemma shiftToTargetExponent_of_le {n : ℕ} (hn : n ≤ 2 ^ 53) (he : -1074 ≤ e) :
    UnpackedFloat.shiftToTargetExponent .binary64 n e .exact =
      if n < 2 ^ 53 then (.ofMantissaAndAccuracy n .exact, e)
      else (.ofMantissaAndAccuracy (2 ^ 52) .exact, e + 1) := by
  have htarget : Format.binary64.targetExponent (totalExponent n e) =
      max (n.log2 + 1 + e - 53) (-1074) := rfl
  simp only [UnpackedFloat.shiftToTargetExponent, UnpackedFloat.shiftToExponent, htarget]
  split_ifs with hlt
  · have hlog : n.log2 < 53 := by
      rcases Nat.eq_zero_or_pos n with rfl | hpos
      · decide
      · exact (Nat.log2_lt hpos.ne').2 hlt
    have hshift : (max ((n.log2 : ℤ) + 1 + e - 53) (-1074) - e).toNat = 0 := by omega
    rw [hshift, Int.natCast_zero, add_zero]
    rfl
  · obtain rfl : n = 2 ^ 53 := by omega
    have hlog : Nat.log2 (2 ^ 53) = 53 := by decide
    have hshift : (max (((53 : ℕ) : ℤ) + 1 + e - 53) (-1074) - e).toNat = 1 := by omega
    rw [hlog, hshift]
    rfl

/-- Rounding gives the nearest count of units of the last place. -/
lemma exists_roundWithAccuracy_eq {accuracy : Accuracy} {r : ℚ}
    (hr : Approximates (.ofMantissaAndAccuracy m accuracy) r)
    (he : e ≤ Format.binary64.targetExponent (totalExponent m e)) :
    ∃ n : ℕ, (n : ℤ) = nearestEven
        (r / 2 ^ (Format.binary64.targetExponent (totalExponent m e) - e).toNat) ∧ n ≤ 2 ^ 53 ∧
      UnpackedFloat.roundWithAccuracy .binary64 s m e accuracy =
        ofDigits s n (Format.binary64.targetExponent (totalExponent m e)) := by
  have htarget : Format.binary64.targetExponent (totalExponent m e) =
      max (m.log2 + 1 + e - 53) (-1074) := rfl
  have hfirst : UnpackedFloat.shiftToTargetExponent .binary64 m e accuracy =
      (ExtendedMantissa.ofMantissaAndAccuracy m accuracy >>>
          (Format.binary64.targetExponent (totalExponent m e) - e).toNat,
        Format.binary64.targetExponent (totalExponent m e)) := by
    refine Prod.ext rfl ?_
    change e + ((Format.binary64.targetExponent (totalExponent m e) - e).toNat : ℤ) = _
    omega
  have hmantissa : (ExtendedMantissa.ofMantissaAndAccuracy m accuracy).mantissa = m := by
    rcases accuracy with _ | (_ | _ | _) <;> rfl
  have hlt := hr.lt_mantissa
  rw [hmantissa] at hlt
  unfold UnpackedFloat.roundWithAccuracy
  rw [hfirst]
  generalize Format.binary64.targetExponent (totalExponent m e) = place at he htarget ⊢
  dsimp only
  have hkept := (hr.shiftRight (place - e).toNat).roundedMantissa_eq
  generalize ExtendedMantissa.roundedMantissa _ = n at hkept ⊢
  have hle : n ≤ 2 ^ 53 := by
    have hdigits : m + 1 ≤ 2 ^ 53 * 2 ^ (place - e).toNat := by
      rw [← pow_add]
      exact Nat.lt_log2_self.trans_le (Nat.pow_le_pow_right (by decide) (by omega))
    have hdigits' : (m : ℚ) + 1 ≤ ((2 ^ 53 : ℤ) : ℚ) * 2 ^ (place - e).toNat := by
      exact_mod_cast hdigits
    have hbound : r / 2 ^ (place - e).toNat ≤ ((2 ^ 53 : ℤ) : ℚ) := by
      rw [div_le_iff₀ (by positivity)]
      linarith
    exact_mod_cast hkept.trans_le (nearestEven_le hbound)
  refine ⟨n, hkept, hle, ?_⟩
  rw [shiftToTargetExponent_of_le hle (by omega), ofDigits]
  by_cases hfull : n < 2 ^ 53
  · simp only [if_pos hfull]
    rfl
  · have hne : n ≠ 0 := by omega
    rw [if_neg hfull, dif_neg hne, if_neg hfull]
    exact dif_neg (Nat.two_pow_pos 52).ne'

/-- Rounding may move the last place by one, so one place is left for this. -/
lemma hasPlaceLE_pack_ofDigits {p : ℤ} {n : ℕ} (hlow : -1074 ≤ p) (hhigh : p ≤ 971) (h : e < p) :
    HasPlaceLE p (unpack .binary64 (pack .binary64 (ofDigits s n e))) := by
  unfold ofDigits
  split_ifs
  · cases s <;> trivial
  · exact hasPlaceLE_unpack_pack h.le hlow hhigh
  · exact hasPlaceLE_unpack_pack h hlow hhigh

/-- Packing leaves a number of 53 digits as it is. -/
lemma unpack_pack_of_digits (hlow : 2 ^ 52 ≤ m) (hhigh : m < 2 ^ 53) (he : -1074 ≤ e)
    (he' : e ≤ 971) :
    unpack .binary64 (pack .binary64 (.finite s m e hm)) = .finite s m e hm := by
  have hlog : m.log2 = 52 := (Nat.log2_eq_iff hm.ne').2 ⟨hlow, hhigh⟩
  have hexponent : (BitVec.ofNat 11 (e + 1075).toNat).toNat = (e + 1075).toNat := by
    rw [BitVec.toNat_ofNat]
    omega
  have hfirst : BitVec.ofNat 11 (e + 1075).toNat ≠ 0#11 := by
    intro h
    rw [h] at hexponent
    change 0 = _ at hexponent
    omega
  have hlast : BitVec.ofNat 11 (e + 1075).toNat ≠ -1#11 := by
    intro h
    rw [h] at hexponent
    change 2047 = _ at hexponent
    omega
  have hmantissa : (1#1 ++ BitVec.ofNat 52 m).toNat = m := by
    rw [BitVec.toNat_append, ← Nat.shiftLeft_add_eq_or_of_lt (BitVec.isLt _), BitVec.toNat_ofNat]
    change 2 ^ 52 + m % 2 ^ 52 = m
    omega
  simp only [pack, toNat_biased, hlog]
  rw [if_neg (by omega), if_pos (by rfl)]
  simp only [unpack, UnpackedFloat.unpackExponent_packComponents,
    UnpackedFloat.unpackMantissa_packComponents, UnpackedFloat.unpackSign_packComponents,
    Sign.ofBitVec_toBitVec, if_neg hfirst, if_neg hlast, hmantissa, hexponent]
  congr 1
  change ((e + 1075).toNat : ℤ) - ((1023 : ℕ) + (52 : ℕ)) = e
  omega

end Pack

/-! ## Multiples of powers of two -/

/-- A multiple of a power of two has digits enough in 64 bits, and it is far from either limit. -/
structure Fits (m : ℕ) (k : ℤ) : Prop where
  pos : 0 < m
  lt : m < 2 ^ 53
  le_place : -400 ≤ k
  place_le : k ≤ 400

/-- A 64-bit number is a multiple of a power of two, and nothing of it was lost. -/
def Holds (a : Float) (s : Sign) (m : ℕ) (k : ℤ) : Prop :=
  a.toModel.unpack = .round .binary64 s m k

section Holds

variable {a b : Float} {s s' : Sign} {m n : ℕ} {k l : ℤ}

lemma Fits.log2_lt (h : Fits m k) : m.log2 < 53 :=
  (Nat.log2_lt h.pos.ne').2 h.lt

/-- All 53 digits are used, those at the end being zeros. -/
lemma Fits.exists_round_eq (h : Fits m k) (s : Sign) :
    ∃ (i : ℕ) (hpos : 0 < m <<< i),
      UnpackedFloat.round .binary64 s m k = .finite s (m <<< i) (k - i) hpos ∧
        i ≤ 52 ∧ 2 ^ 52 ≤ m <<< i ∧ m <<< i < 2 ^ 53 := by
  have hlog := h.log2_lt
  have hlow := h.le_place
  obtain ⟨i, hi⟩ : ∃ i : ℕ, m.log2 + i = 52 := ⟨52 - m.log2, by omega⟩
  have htarget : Format.binary64.targetExponent (totalExponent m k) = k - i := by
    change max ((m.log2 : ℤ) + 1 + k - (53 : ℕ)) (-1074) = _
    omega
  have hpos : 0 < m <<< i := shiftLeft_pos h.pos i
  have hdigits : (m <<< i).log2 = 52 := (log2_shiftLeft h.pos i).trans hi
  refine ⟨i, hpos, ?_, by omega, (Nat.log2_eq_iff hpos.ne').1 hdigits⟩
  unfold UnpackedFloat.round UnpackedFloat.decreaseExponent
  dsimp only
  rw [htarget, sub_sub_cancel, Int.toNat_natCast]
  refine roundWithAccuracy_self hpos ?_
  rw [totalExponent_shiftLeft h.pos, htarget]

lemma holds_pack (h : Fits m k) : Holds (.ofModel (.pack (.round .binary64 s m k))) s m k := by
  obtain ⟨i, hpos, heq, hi, hlow, hhigh⟩ := h.exists_round_eq s
  have hplace := h.le_place
  have hplace' := h.place_le
  change unpack .binary64 (pack .binary64 _) = _
  rw [heq]
  exact unpack_pack_of_digits hlow hhigh (by omega) (by omega)

lemma normalize_apply {spec : Format} (hm : 0 < m) (t : Sign) :
    UnpackedFloat.normalize spec (s.apply m) k t = .round spec s m k := by
  unfold UnpackedFloat.normalize
  cases s with
  | negative =>
    rw [apply_negative, compare_lt_iff_lt.2 (by omega), neg_neg, Int.toNat_natCast]
  | positive =>
    rw [apply_positive, compare_gt_iff_gt.2 (by omega), Int.toNat_natCast]

/-- Multiples of the same power of two with the same sign are added by adding the factors. -/
theorem Holds.add (ha : Holds a s m k) (hb : Holds b s n k) (hm : Fits m k) (hn : Fits n k)
    (h : Fits (m + n) k) : Holds (a + b) s (m + n) k := by
  obtain ⟨i, hpos, heq, -⟩ := hm.exists_round_eq s
  obtain ⟨j, hpos', heq', -⟩ := hn.exists_round_eq s
  have hsum : UnpackedFloat.add .binary64 a.toModel.unpack b.toModel.unpack =
      .round .binary64 s (m + n) k := by
    rw [ha, hb, heq, heq']
    have hplace : min (k - i) (k - j) = k - (max i j : ℕ) := by omega
    have hleft : m <<< i <<< (k - i - (k - (max i j : ℕ))).toNat = m <<< max i j := by
      rw [← Nat.shiftLeft_add]
      congr 1
      omega
    have hright : n <<< j <<< (k - j - (k - (max i j : ℕ))).toNat = n <<< max i j := by
      rw [← Nat.shiftLeft_add]
      congr 1
      omega
    have hdigits : s.apply (m <<< max i j : ℕ) + s.apply (n <<< max i j : ℕ) =
        s.apply ((m + n) <<< max i j : ℕ) := by
      rw [Nat.shiftLeft_eq, Nat.shiftLeft_eq, Nat.shiftLeft_eq, add_mul]
      cases s with
      | negative =>
        simp only [apply_negative]
        push_cast
        ring
      | positive =>
        simp only [apply_positive]
        push_cast
        ring
    simp only [UnpackedFloat.add, UnpackedFloat.decreaseExponent, hplace, hleft, hright, hdigits]
    rw [normalize_apply (shiftLeft_pos h.pos _), round_shiftLeft h.pos]
  change unpack .binary64 (pack .binary64 (UnpackedFloat.add .binary64 _ _)) = _
  rw [hsum]
  exact holds_pack h

/-- A product depends on the product of the factors and on the power of two only, however it has
to be rounded. -/
theorem Holds.mul_eq (ha : Holds a s m k) (hb : Holds b s' n l) (hm : Fits m k) (hn : Fits n l) :
    a * b = .ofModel (.pack (.round .binary64 (s * s') (m * n) (k + l))) := by
  obtain ⟨i, hpos, heq, hi, hlow, -⟩ := hm.exists_round_eq s
  obtain ⟨j, hpos', heq', hj, hlow', -⟩ := hn.exists_round_eq s'
  have hproduct : UnpackedFloat.mul .binary64 a.toModel.unpack b.toModel.unpack =
      .round .binary64 (s * s') (m * n) (k + l) := by
    have hdigits : m <<< i * n <<< j = (m * n) <<< (i + j) := by
      rw [Nat.shiftLeft_eq, Nat.shiftLeft_eq, Nat.shiftLeft_eq, pow_add]
      ring
    have hplace : k - i + (l - j) = k + l - (i + j : ℕ) := by
      push_cast
      ring
    have hmn : 0 < m * n := Nat.mul_pos hm.pos hn.pos
    have hlog : 104 ≤ ((m * n) <<< (i + j)).log2 := by
      rw [← hdigits, Nat.le_log2 (Nat.mul_pos hpos hpos').ne']
      calc 2 ^ 104 = 2 ^ 52 * 2 ^ 52 := by norm_num
        _ ≤ m <<< i * n <<< j := Nat.mul_le_mul hlow hlow'
    have htarget : k + l - (i + j : ℕ) ≤ Format.binary64.targetExponent
        (totalExponent ((m * n) <<< (i + j)) (k + l - (i + j : ℕ))) := by
      change _ ≤ max (((m * n) <<< (i + j)).log2 + 1 + (k + l - (i + j : ℕ)) - (53 : ℕ)) (-1074)
      omega
    rw [ha, hb, heq, heq', ← round_shiftLeft hmn (i + j), round_eq_roundWithAccuracy htarget]
    simp only [UnpackedFloat.mul, hdigits, hplace]
  change Float.ofModel (.pack (UnpackedFloat.mul .binary64 _ _)) = _
  rw [hproduct]

lemma Holds.mul (ha : Holds a s m k) (hb : Holds b s' n l) (hm : Fits m k) (hn : Fits n l)
    (h : Fits (m * n) (k + l)) : Holds (a * b) (s * s') (m * n) (k + l) := by
  rw [ha.mul_eq hb hm hn]
  exact holds_pack h

/-! ### Numbers that hold multiples -/

/-- Rounding gives the nearest count of units of the last place, whether digits have to be rounded
away or zeros to be put behind them. -/
lemma exists_round_eq_ofDigits (hm : 0 < m) :
    ∃ n : ℕ, (n : ℤ) =
        nearestEven (m * 2 ^ (k - Format.binary64.targetExponent (totalExponent m k))) ∧
      n ≤ 2 ^ 53 ∧ UnpackedFloat.round .binary64 s m k =
        ofDigits s n (Format.binary64.targetExponent (totalExponent m k)) := by
  unfold UnpackedFloat.round UnpackedFloat.decreaseExponent
  dsimp only
  generalize hplace : Format.binary64.targetExponent (totalExponent m k) = place
  have hsame : Format.binary64.targetExponent
      (totalExponent (m <<< (k - place).toNat) (k - (k - place).toNat)) = place := by
    rw [totalExponent_shiftLeft hm, hplace]
  obtain ⟨n, hn, hle, heq⟩ := exists_roundWithAccuracy_eq (s := s)
    (approximates_exact (m <<< (k - place).toNat)) (e := k - (k - place).toNat)
    (by rw [hsame]; omega)
  rw [hsame] at hn heq
  refine ⟨n, ?_, hle, heq⟩
  rw [hn]
  congr 1
  rw [Nat.shiftLeft_eq, Nat.cast_mul, Nat.cast_pow, Nat.cast_ofNat, mul_div_assoc]
  congr 1
  rw [← zpow_natCast, ← zpow_natCast, ← zpow_sub₀ two_ne_zero]
  congr 1
  omega

/-- Between the limits all 53 digits are used, and rounding raises a number to the next power of two
at most. -/
lemma exists_unpack_pack_round (hm : 0 < m) (hlow : -1022 ≤ m.log2 + k)
    (hhigh : m.log2 + k < 1023) : ∃ (n : ℕ) (e : ℤ) (hn : 0 < n),
      unpack .binary64 (pack .binary64 (.round .binary64 s m k)) = .finite s n e hn ∧
        n.log2 = 52 ∧ m.log2 + k ≤ 52 + e ∧ 52 + e ≤ m.log2 + k + 1 := by
  have htarget : Format.binary64.targetExponent (totalExponent m k) = m.log2 + k - 52 := by
    change max (m.log2 + 1 + k - (53 : ℕ)) (-1074) = _
    omega
  obtain ⟨n, hn, hle, heq⟩ := exists_round_eq_ofDigits (s := s) (k := k) hm
  rw [htarget] at hn heq
  have hfull : 2 ^ 52 ≤ n := by
    have hdigits : ((2 ^ 52 : ℤ) : ℚ) ≤ m * 2 ^ (k - (m.log2 + k - 52)) := by
      have hlog : (2 : ℚ) ^ m.log2 ≤ m := by exact_mod_cast Nat.log2_self_le hm.ne'
      have hsplit : k - (m.log2 + k - 52) = 52 - m.log2 := by ring
      rw [hsplit, zpow_sub₀ two_ne_zero, zpow_natCast, mul_div_assoc', le_div_iff₀ (by positivity),
        mul_comm (m : ℚ)]
      exact mul_le_mul_of_nonneg_left hlog (by positivity)
    exact_mod_cast (le_nearestEven hdigits).trans_eq hn.symm
  have hne : n ≠ 0 := by omega
  rw [heq, ofDigits, dif_neg hne]
  split_ifs with hlt
  · refine ⟨n, _, Nat.pos_of_ne_zero hne,
      unpack_pack_of_digits hfull hlt (by omega) (by omega), ?_, by omega, by omega⟩
    exact (Nat.log2_eq_iff hne).2 ⟨hfull, hlt⟩
  · exact ⟨2 ^ 52, _, Nat.two_pow_pos 52,
      unpack_pack_of_digits le_rfl (by decide) (by omega) (by omega), by decide, by omega, by omega⟩

lemma hasPlaceLE_pack_round (hm : 0 < m) {p : ℤ} (hlow : -1074 < p) (hhigh : p ≤ 971)
    (h : m.log2 + k < 52 + p) :
    HasPlaceLE p (Float.ofModel (.pack (.round .binary64 s m k))).toModel.unpack := by
  have htarget : Format.binary64.targetExponent (totalExponent m k) =
      max (m.log2 + 1 + k - (53 : ℕ)) (-1074) := rfl
  obtain ⟨n, -, -, heq⟩ := exists_round_eq_ofDigits (s := s) (k := k) hm
  change HasPlaceLE p (unpack .binary64 (pack .binary64 _))
  rw [heq]
  exact hasPlaceLE_pack_ofDigits hlow.le hhigh (by omega)

lemma isFinite_pack_round (hm : 0 < m) (h : m.log2 + k ≤ 1000) :
    (Float.ofModel (.pack (.round .binary64 s m k))).toModel.unpack.isFinite :=
  (hasPlaceLE_pack_round hm (by decide) le_rfl (by omega)).isFinite

/-- Multiples of powers of two are the same if they are the same exactly. -/
lemma round_eq_round_of_eq (hm : 0 < m) (hn : 0 < n) (h : (m : ℚ) * 2 ^ k = n * 2 ^ l) :
    UnpackedFloat.round .binary64 s m k = .round .binary64 s n l := by
  wlog hle : k ≤ l generalizing m n k l
  · exact (this hn hm h.symm (le_of_not_ge hle)).symm
  obtain ⟨i, hi⟩ := Int.eq_ofNat_of_zero_le (sub_nonneg.2 hle)
  obtain rfl : k = l - i := by omega
  have hdigits : m = n <<< i := by
    have hunit : (2 : ℚ) ^ l ≠ 0 := by positivity
    rw [zpow_sub₀ two_ne_zero, zpow_natCast, mul_div_assoc', div_eq_iff (by positivity)] at h
    rw [Nat.shiftLeft_eq]
    have hcancel : (m : ℚ) = n * 2 ^ i := mul_right_cancel₀ hunit (by linarith)
    exact_mod_cast hcancel
  rw [hdigits, round_shiftLeft hn]

/-- The difference of a finite number and itself is zero. -/
lemma sub_self_eq_zero (h : a.toModel.unpack.isFinite) : a - a = 0.0 := by
  have hnone : ∀ x : UnpackedFloat, x.isFinite →
      UnpackedFloat.sub .binary64 x x = .zero .positive := by
    rintro (t | _ | t | ⟨t, m, e, hm⟩) hx
    · cases hx
    · cases hx
    · cases t <;> rfl
    · simp only [UnpackedFloat.sub, sub_self]
      rfl
  change Float.ofModel (.pack (UnpackedFloat.sub .binary64 _ _)) = _
  rw [hnone _ h]
  rfl

/-! ### Where multiples come from -/

/-- Whole numbers of up to 53 binary digits are read exactly. -/
lemma holds_ofNat (hpos : 0 < n) (h : n < 2 ^ 53) : Holds (Float.ofNat n) .positive n 0 := by
  have hfits : Fits n 0 := ⟨hpos, h, by decide, by decide⟩
  have hone : Fits 1 0 := ⟨by decide, by decide, by decide, by decide⟩
  have hofNat : Float.ofNat n = n.toUInt64.toFloat * 1.0 := by
    change Float.ofScientific n false 0 = _
    unfold Float.ofScientific
    exact dif_pos ⟨h, by decide⟩
  have hcount : n.toUInt64.toNat = n := by
    rw [Nat.toUInt64, UInt64.toNat_ofNat']
    exact Nat.mod_eq_of_lt (h.trans (by decide))
  have hread : Holds n.toUInt64.toFloat .positive n 0 := by
    change unpack .binary64 (pack .binary64 (UnpackedFloat.normalize .binary64
      (Sign.positive.apply n.toUInt64.toNat) 0 .positive)) = _
    rw [hcount, normalize_apply hpos]
    exact holds_pack hfits
  have hunit : Holds 1.0 .positive 1 0 := rfl
  have hproduct := hread.mul hunit hfits hone (by rwa [mul_one])
  rw [hofNat]
  rwa [mul_one] at hproduct

/-- Nothing is lost when a number is widened. -/
lemma holds_widen {x : Float32} {hm : 0 < m} (h : x.toModel.unpack = .finite s m k hm) :
    Holds (widen x) s m k ∧ Fits m k := by
  have hpacked : IsPacked x.toModel.unpack := isPacked_unpack _
  rw [h] at hpacked
  obtain ⟨⟨hlt, hplace, -⟩, hplace'⟩ := hpacked
  have hfits : Fits m k := ⟨hm, by omega, by omega, by omega⟩
  refine ⟨?_, hfits⟩
  unfold widen
  rw [h]
  exact holds_pack hfits

/-! ### Sums -/

lemma Fits.of_mul_le {j : ℕ} (h : Fits (n * m) k) (hj : 0 < j) (hle : j ≤ n) : Fits (j * m) k where
  pos := Nat.mul_pos hj (Nat.pos_of_mul_pos_left h.pos)
  lt := (Nat.mul_le_mul_right m hle).trans_lt h.lt
  le_place := h.le_place
  place_le := h.place_le

/-- Adding a multiple again and again only counts it. -/
lemma holds_foldl_replicate (ha : Holds a s m k) {j : ℕ} (hb : Holds b s (j * m) k) (hj : 0 < j)
    (h : Fits ((j + n) * m) k) :
    Holds ((List.replicate n a).foldl (· + ·) b) s ((j + n) * m) k := by
  induction n generalizing j b with
  | zero => exact hb
  | succ n ih =>
    have hone : Fits m k := by
      simpa using h.of_mul_le one_pos (by omega)
    have hnext : Holds (b + a) s ((j + 1) * m) k := by
      rw [add_mul, one_mul]
      refine hb.add ha (h.of_mul_le hj (by omega)) hone ?_
      simpa [add_mul] using h.of_mul_le j.succ_pos (by omega)
    have hcount : j + (n + 1) = j + 1 + n := by omega
    rw [hcount] at h ⊢
    exact ih hnext j.succ_pos h

lemma Holds.zero_add (ha : Holds a s m k) (h : Fits m k) : Holds (0.0 + a) s m k := by
  obtain ⟨i, hpos, heq, -⟩ := h.exists_round_eq s
  have hsum : UnpackedFloat.add .binary64 (0.0 : Float).toModel.unpack a.toModel.unpack =
      .round .binary64 s m k := by
    rw [ha, heq]
    rfl
  change unpack .binary64 (pack .binary64 (UnpackedFloat.add .binary64 _ _)) = _
  rw [hsum]
  exact holds_pack h

/-- The sum of equal multiples is exact as long as it has digits enough. -/
theorem holds_sum_replicate (ha : Holds a s m k) (hn : 0 < n) (h : Fits (n * m) k) :
    Holds (Scalar.sum (List.replicate n a)) s (n * m) k := by
  obtain ⟨j, rfl⟩ := Nat.exists_eq_add_of_le hn
  have hone : Fits m k := by
    simpa using h.of_mul_le one_pos hn
  have hfirst : Holds (0.0 + a) s (1 * m) k := by
    rw [one_mul]
    exact ha.zero_add hone
  have hsum : Scalar.sum (List.replicate (1 + j) a) =
      (List.replicate j a).foldl (· + ·) (0.0 + a) := by
    rw [Nat.add_comm, List.replicate_succ]
    rfl
  rw [hsum]
  exact holds_foldl_replicate ha hfirst one_pos h

end Holds

end Detection
