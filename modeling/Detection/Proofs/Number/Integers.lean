/-
# Integers as 64-bit numbers

A 64-bit number has 53 binary digits.  An integer that needs no more of them, those that are zeros
at its end not counted, has a 64-bit number of its own, and the integer part of this number is the
integer again.  Any other integer is lost: what comes back has 53 digits at most, or it is the
largest integer of 64 bits, at which numbers that are too large are stopped.

## Main definitions

* `IsShort`: an integer needs at most 53 binary digits.

The main result is `wholePart64_ofInt_eq_iff`.
-/
import Detection.Proofs.Number.Truncation
import Detection.Proofs.Number.Wide

namespace Detection

open Float.Model (UnpackedFloat Format totalExponent)
open Float.Model.UnpackedFloat (Sign unpack pack)

/-- An integer needs at most 53 binary digits, those that are zeros at its end not counted. -/
def IsShort (n : ℤ) : Prop := ∃ m k : ℕ, m < 2 ^ 53 ∧ n.natAbs = m * 2 ^ k

variable {n : ℤ}

lemma isShort_of_natAbs_lt (h : n.natAbs < 2 ^ 53) : IsShort n :=
  ⟨n.natAbs, 0, h, by rw [pow_zero, mul_one]⟩

lemma isShort_zero : IsShort 0 :=
  isShort_of_natAbs_lt (by decide)

lemma isShort_minInt64 : IsShort minInt64 :=
  ⟨1, 63, by decide, by decide⟩

lemma isShort_apply_iff (s : Sign) : IsShort (s.apply n) ↔ IsShort n := by
  cases s with
  | negative => rw [apply_negative, IsShort, Int.natAbs_neg, IsShort]
  | positive => rfl

/-! ## Integer parts -/

lemma lt_of_unpack_eq_finite {b : BitVec Format.binary64.numBits} {s : Sign} {m : ℕ} {e : ℤ}
    {hm : 0 < m} (h : unpack .binary64 b = .finite s m e hm) : m < 2 ^ 53 := by
  have hmantissa : (UnpackedFloat.unpackMantissa b).toNat < 2 ^ 52 :=
    (UnpackedFloat.unpackMantissa b).isLt
  unfold unpack at h
  dsimp only at h
  split_ifs at h
  · obtain ⟨-, rfl, -⟩ := UnpackedFloat.finite.inj h
    omega
  · obtain ⟨-, rfl, -⟩ := UnpackedFloat.finite.inj h
    exact BitVec.isLt _

lemma isShort_roundToInt (s : Sign) {m : ℕ} (e : ℤ) (hm : m < 2 ^ 53) :
    IsShort (UnpackedFloat.roundToInt s m e) := by
  rw [roundToInt_eq, isShort_apply_iff]
  obtain ⟨k, rfl | rfl⟩ := e.eq_nat_or_neg
  · have hwhole : (m * 2 ^ (k : ℤ) : ℚ) = ((m * 2 ^ k : ℕ) : ℤ) := by
      push_cast
      rfl
    rw [hwhole, Int.floor_intCast]
    exact ⟨m, k, hm, Int.natAbs_natCast _⟩
  · -- With a place behind the point there are no more digits before it than in the whole number.
    have hle : (m * 2 ^ (-(k : ℤ)) : ℚ) ≤ (m : ℤ) :=
      mul_le_of_le_one_right m.cast_nonneg (zpow_le_one_of_nonpos₀ one_le_two (by omega))
    have hfloor := Int.floor_le_floor hle
    have hnonneg : 0 ≤ ⌊(m * 2 ^ (-(k : ℤ)) : ℚ)⌋ := Int.floor_nonneg.2 (by positivity)
    rw [Int.floor_intCast] at hfloor
    exact isShort_of_natAbs_lt (by omega)

/-- The integer part of any number is short, unless it is the largest one. -/
theorem isShort_wholePart64 (a : Float) : IsShort (wholePart64 a) ∨ wholePart64 a = maxInt64 := by
  have hshort : IsShort (a.toModel.unpack.toInt minInt64 maxInt64) ∨
      a.toModel.unpack.toInt minInt64 maxInt64 = maxInt64 := by
    rcases hunpack : a.toModel.unpack with (_ | _) | _ | _ | ⟨s, m, e, hm⟩
    · exact .inl isShort_minInt64
    · exact .inr rfl
    · exact .inl isShort_zero
    · exact .inl isShort_zero
    · exact .inl (isShort_roundToInt s e (lt_of_unpack_eq_finite hunpack))
  unfold wholePart64 truncate clampInt
  generalize a.toModel.unpack.toInt minInt64 maxInt64 = whole at hshort
  rcases le_or_gt whole maxInt64 with hle | hgt
  · rw [min_eq_right hle]
    rcases le_or_gt minInt64 whole with hge | hlt
    · rwa [max_eq_right hge]
    · rw [max_eq_left hlt.le]
      exact .inl isShort_minInt64
  · rw [min_eq_left hgt.le]
    exact .inr rfl

/-! ## Reading integers -/

/-- The digits of a number are shifted by 53 places first, which is further than rounding needs. -/
lemma ofScientific_eq_round {m k : ℕ} (hm : 0 < m) (hk : k ≤ 2048) :
    UnpackedFloat.ofScientific .binary64 m k = .round .binary64 .positive (m * 10 ^ k) 0 := by
  have hpos : 0 < m * 10 ^ k := by positivity
  have htarget : (0 : ℤ) - (53 : ℕ) ≤ Format.binary64.targetExponent
      (totalExponent ((m * 10 ^ k) <<< 53) (0 - (53 : ℕ))) := by
    change _ ≤ max (((m * 10 ^ k) <<< 53).log2 + 1 + ((0 : ℤ) - (53 : ℕ)) - (53 : ℕ)) (-1074)
    rw [log2_shiftLeft hpos]
    omega
  have hbits : (2 : ℤ) ^ Format.binary64.exponentBits = 2048 := rfl
  have hdigits : (m * 10 ^ k) <<< 53 = m <<< 53 * 10 ^ k := by
    rw [Nat.shiftLeft_eq, Nat.shiftLeft_eq, mul_right_comm]
  rw [← round_shiftLeft hpos 53, round_eq_roundWithAccuracy htarget, hdigits]
  unfold UnpackedFloat.ofScientific
  rw [dif_neg hm.ne', hbits, if_neg (by omega), if_neg (by omega), if_pos k.cast_nonneg]
  simp only [UnpackedFloat.mul, Int.toNat_natCast, add_zero, zero_sub]
  rfl

/-- A positive integer is read as the nearest number. -/
lemma unpack_ofNat {m : ℕ} (hm : 0 < m) : (Float.ofNat m).toModel.unpack =
    unpack .binary64 (pack .binary64 (.round .binary64 .positive m 0)) := by
  by_cases hsmall : m < 2 ^ 53
  · exact (holds_ofNat hm hsmall).trans (holds_pack ⟨hm, hsmall, by decide, by decide⟩).symm
  · have hofNat : Float.ofNat m = .ofModel (.ofScientific m 0) := by
      change Float.ofScientific _ false 0 = _
      unfold Float.ofScientific
      exact dif_neg fun h => hsmall h.1
    have hread := ofScientific_eq_round hm (k := 0) (by decide)
    rw [pow_zero, mul_one] at hread
    rw [hofNat, ← hread]
    rfl

/-- A positive integer is read exactly if it is short. -/
lemma holds_ofNat_mul {m k : ℕ} (h : Fits m k) : Holds (Float.ofNat (m * 2 ^ k)) .positive m k := by
  have hpos : 0 < m * 2 ^ k := Nat.mul_pos h.pos (by positivity)
  have hsame : UnpackedFloat.round .binary64 .positive (m * 2 ^ k) 0 =
      .round .binary64 .positive m k := by
    refine round_eq_round_of_eq hpos h.pos ?_
    push_cast
    rw [mul_one, zpow_natCast]
  rw [Holds, unpack_ofNat hpos, hsame]
  exact holds_pack h

lemma Holds.neg {a : Float} {s : Sign} {m : ℕ} {k : ℤ} (ha : Holds a s m k) (h : Fits m k) :
    Holds (-a) (-s) m k := by
  obtain ⟨i, hpos, heq, hi, hlow, hhigh⟩ := h.exists_round_eq s
  obtain ⟨j, hpos', heq', -, hlow', hhigh'⟩ := h.exists_round_eq (-s)
  -- The digits do not depend on the sign.
  obtain rfl : i = j := by
    have hlog := (Nat.log2_eq_iff hpos.ne').2 ⟨hlow, hhigh⟩
    have hlog' := (Nat.log2_eq_iff hpos'.ne').2 ⟨hlow', hhigh'⟩
    rw [log2_shiftLeft h.pos] at hlog hlog'
    omega
  have hplace := h.le_place
  have hplace' := h.place_le
  have hneg : (-a).toModel.unpack = unpack .binary64 (pack .binary64 a.toModel.unpack.neg) := rfl
  rw [Holds, hneg, ha, heq, heq']
  exact unpack_pack_of_digits hlow hhigh (by omega) (by omega)

/-- A number that is a whole multiple has the multiple as its integer part. -/
lemma Holds.wholePart64_eq {a : Float} {s : Sign} {m k : ℕ} (ha : Holds a s m k) (h : Fits m k)
    (hrange : s.apply (m * 2 ^ k : ℕ) ∈ Set.Icc minInt64 maxInt64) :
    wholePart64 a = s.apply (m * 2 ^ k : ℕ) := by
  obtain ⟨i, hpos, heq, -⟩ := h.exists_round_eq s
  have hvalue : ((m <<< i : ℕ) * 2 ^ ((k : ℤ) - i) : ℚ) = ((m * 2 ^ k : ℕ) : ℤ) := by
    rw [Nat.shiftLeft_eq, zpow_sub₀ two_ne_zero, zpow_natCast, zpow_natCast]
    push_cast
    field_simp
  obtain ⟨hlow, hhigh⟩ := hrange
  rw [wholePart64, truncate, ha, heq, UnpackedFloat.toInt, roundToInt_eq, hvalue, Int.floor_intCast,
    clampInt, min_eq_right hhigh, max_eq_right hlow]

lemma ofInt_neg_natCast {m : ℕ} (hm : 0 < m) : Float.ofInt (-(m : ℤ)) = -Float.ofNat m := by
  obtain ⟨m, rfl⟩ := Nat.exists_eq_add_one.2 hm
  rfl

/-- Integers that are short are read exactly. -/
theorem wholePart64_ofInt (h : IsShort n) (hrange : n ∈ Set.Icc minInt64 maxInt64) :
    wholePart64 (Float.ofInt n) = n := by
  obtain ⟨m, k, hm, hn⟩ := h
  obtain rfl | hpos := Nat.eq_zero_or_pos m
  · obtain rfl : n = 0 := Int.natAbs_eq_zero.1 (hn.trans (zero_mul _))
    rfl
  have hne : 0 < n.natAbs := hn ▸ Nat.mul_pos hpos (by positivity)
  have hplace : k < 64 := by
    have hlow : 2 ^ k ≤ n.natAbs := hn ▸ Nat.le_mul_of_pos_left _ hpos
    have hhigh : n.natAbs < 2 ^ 64 := by
      simp only [Set.mem_Icc, minInt64, maxInt64] at hrange
      omega
    exact (Nat.pow_lt_pow_iff_right one_lt_two).1 (hlow.trans_lt hhigh)
  have hfits : Fits m k := ⟨hpos, hm, by omega, by omega⟩
  have hread := holds_ofNat_mul hfits
  rw [← hn] at hread
  rcases n.natAbs_eq with heq | heq
  · have hsame : Float.ofInt n = Float.ofNat n.natAbs := congrArg Float.ofInt heq
    have hvalue : Sign.positive.apply (m * 2 ^ k : ℕ) = n := by
      rw [← hn, apply_positive, ← heq]
    rw [hsame, hread.wholePart64_eq hfits (by rwa [hvalue]), hvalue]
  · have hsame : Float.ofInt n = -Float.ofNat n.natAbs := by
      rw [← ofInt_neg_natCast hne, ← heq]
    have hvalue : Sign.negative.apply (m * 2 ^ k : ℕ) = n := by
      rw [← hn, apply_negative, ← heq]
    rw [hsame, (hread.neg hfits).wholePart64_eq hfits (by rwa [← hvalue] at hrange)]
    exact hvalue

/-- **An integer of 64 bits survives as a 64-bit number** if it needs no more than 53 digits, or if
it is the largest one; any other integer is lost. -/
theorem wholePart64_ofInt_eq_iff (hrange : n ∈ Set.Icc minInt64 maxInt64) :
    wholePart64 (Float.ofInt n) = n ↔ IsShort n ∨ n = maxInt64 := by
  constructor
  · intro h
    have hshort := isShort_wholePart64 (Float.ofInt n)
    rwa [h] at hshort
  · rintro (h | rfl)
    · exact wholePart64_ofInt h hrange
    · rfl

end Detection
