/-
# How 32-bit numbers are ranked

A rank counts bit patterns, upwards for positive numbers and downwards for negative ones.  Below
the sign, the bit pattern of a number is its grade.  So numbers that are there are ranked as they
compare, and of the two zeros the negative one comes first; a missing number is ranked above all
others, although it does not compare with them.

The main results are `Float32.rank_lt_rank` and `Float32.rank_lt_of_isNaN`.
-/
import Detection.Proofs.Number.Grade
import Detection.Proofs.Number.Missing

namespace Detection

open Float.Model (UnpackedFloat Format)
open Float.Model.UnpackedFloat (Sign unpack unpackSign unpackExponent unpackMantissa)

/-! ## The parts of a bit pattern -/

section Bits

variable (b : BitVec Format.binary32.numBits)

lemma toNat_unpackMantissa : (unpackMantissa b).toNat = b.toNat % 0x800000 := by
  simp [unpackMantissa, BitVec.extractLsb]

lemma toNat_unpackExponent : (unpackExponent b).toNat = b.toNat / 0x800000 % 256 := by
  simp [unpackExponent, BitVec.extractLsb, Nat.shiftRight_eq_div_pow]

lemma toNat_unpackSign : (unpackSign b).toNat = b.toNat / 0x80000000 % 2 := by
  simp [unpackSign, BitVec.extractLsb, Nat.shiftRight_eq_div_pow]

lemma ofBitVec_unpackSign :
    Sign.ofBitVec (unpackSign b) = if b.toNat < 0x80000000 then .positive else .negative := by
  have hsign := toNat_unpackSign b
  have hlt : b.toNat < 0x100000000 := b.isLt
  unfold Sign.ofBitVec
  by_cases hpositive : b.toNat < 0x80000000
  · rw [if_pos hpositive, if_pos]
    refine BitVec.eq_of_toNat_eq ?_
    rw [hsign]
    change _ = 0
    omega
  · rw [if_neg hpositive, if_neg]
    intro hzero
    rw [hzero] at hsign
    change 0 = _ at hsign
    omega

/-- Below the sign, the bit pattern of a number is its grade. -/
lemma gradeOf_unpack (h : (unpack .binary32 b).isNaN = false) :
    gradeOf (unpack .binary32 b) =
      (Sign.ofBitVec (unpackSign b)).apply (b.toNat % 0x80000000 : ℕ) := by
  have hmantissa := toNat_unpackMantissa b
  have hexponent := toNat_unpackExponent b
  unfold unpack at h ⊢
  dsimp only at h ⊢
  split_ifs with hlast hnone hfirst hnone
  · -- The last exponent without a mantissa: the number is infinite.
    rw [hlast] at hexponent
    rw [hnone] at hmantissa
    change 255 = _ at hexponent
    change 0 = _ at hmantissa
    refine congrArg (Sign.apply _) ?_
    unfold infinityGrade
    omega
  · rw [if_pos hlast, if_neg hnone] at h
    exact absurd h (by decide)
  · rw [hfirst] at hexponent
    rw [hnone] at hmantissa
    change 0 = _ at hexponent
    change 0 = _ at hmantissa
    have hzero : b.toNat % 0x80000000 = 0 := by omega
    rw [hzero]
    cases Sign.ofBitVec (unpackSign b) <;> rfl
  · rw [hfirst] at hexponent
    change 0 = _ at hexponent
    refine congrArg (Sign.apply _) ?_
    rw [hfirst]
    change gradeAt (0 - 150 + 1) _ = _
    unfold gradeAt
    omega
  · refine congrArg (Sign.apply _) ?_
    rw [toNat_append_implicit]
    change gradeAt (_ - 150) _ = _
    unfold gradeAt
    omega

end Bits

/-! ## Ranks -/

namespace Float32

variable {a b c : Float32}

lemma lt_iff_grade : a < b ↔ a.isNaN = false ∧ b.isNaN = false ∧ grade a < grade b := by
  have hlt : position a < position b ↔ grade a < grade b :=
    positionOf_lt_positionOf_iff (isPacked_unpack _) (isPacked_unpack _)
  rw [lt_iff, hlt]

lemma rank_eq (a : Float32) :
    rank a = if a.toModel.toBits.toBitVec.toNat < 0x80000000 then
      (a.toModel.toBits.toBitVec.toNat : ℤ) else 0x7fffffff - a.toModel.toBits.toBitVec.toNat :=
  rfl

lemma eq_of_toNat_eq (h : a.toModel.toBits.toBitVec.toNat = b.toModel.toBits.toBitVec.toNat) :
    a = b := by
  obtain ⟨⟨⟨bits⟩, valid⟩⟩ := a
  obtain ⟨⟨⟨bits'⟩, valid'⟩⟩ := b
  obtain rfl : bits = bits' := BitVec.eq_of_toNat_eq h
  rfl

/-- Only equal numbers are ranked alike: the two zeros are not. -/
theorem rank_inj : rank a = rank b ↔ a = b := by
  refine ⟨fun h => eq_of_toNat_eq ?_, fun h => h ▸ rfl⟩
  have ha : a.toModel.toBits.toBitVec.toNat < 0x100000000 := a.toModel.toBits.toBitVec.isLt
  have hb : b.toModel.toBits.toBitVec.toNat < 0x100000000 := b.toModel.toBits.toBitVec.isLt
  rw [rank_eq, rank_eq] at h
  split at h <;> split at h <;> omega

/-- The rank of a number that is there is its grade, and one less if the sign is negative. -/
lemma rank_eq_grade_or (h : a.isNaN = false) :
    0 ≤ grade a ∧ rank a = grade a ∨ grade a ≤ 0 ∧ rank a = grade a - 1 := by
  have hgrade : grade a = _ := gradeOf_unpack a.toModel.toBits.toBitVec h
  have hlt : a.toModel.toBits.toBitVec.toNat < 0x100000000 := a.toModel.toBits.toBitVec.isLt
  have hrank := rank_eq a
  rw [ofBitVec_unpackSign] at hgrade
  by_cases hpositive : a.toModel.toBits.toBitVec.toNat < 0x80000000
  · rw [if_pos hpositive] at hgrade hrank
    rw [apply_positive] at hgrade
    omega
  · rw [if_neg hpositive] at hgrade hrank
    rw [apply_negative] at hgrade
    omega

/-- A missing number is the bit pattern that stands for all missing numbers. -/
lemma rank_of_isNaN (h : a.isNaN = true) : rank a = 0x7fc00000 := by
  obtain ⟨hlast, hnone⟩ := isNaN_unpack_iff.1 h
  have hbits := a.toModel.valid.eq_packedNaN hlast hnone
  rw [rank_eq, hbits]
  rfl

/-- Numbers are ranked as they compare. -/
theorem rank_lt_rank (h : a < b) : rank a < rank b := by
  obtain ⟨ha, hb, hlt⟩ := lt_iff_grade.1 h
  have hranka := rank_eq_grade_or ha
  have hrankb := rank_eq_grade_or hb
  omega

/-- A missing number is ranked above all numbers that are there. -/
theorem rank_lt_of_isNaN (ha : a.isNaN = false) (hb : b.isNaN = true) : rank a < rank b := by
  have hrank := rank_eq_grade_or ha
  have hgrade : grade a ≤ infinityGrade := (gradeOf_mem (isPacked_unpack _)).2
  rw [rank_of_isNaN hb]
  unfold infinityGrade at hgrade
  omega

/-- Numbers that are there compare as they are ranked. -/
lemma le_of_rank_le (hab : rank a ≤ rank b) (ha : a.isNaN = false) (hb : b.isNaN = false) :
    a ≤ b := by
  rw [← Float32.not_lt hb ha]
  intro hlt
  have hrank := rank_lt_rank hlt
  omega

/-- What is ranked as high as a number above a bound is above the bound itself, unless it is
missing. -/
lemma lt_of_lt_of_rank_le (hab : a < b) (hbc : rank b ≤ rank c) (hc : c.isNaN = false) :
    a < c := by
  obtain ⟨-, hb, -⟩ := lt_iff_grade.1 hab
  exact Float32.lt_of_lt_of_le hab (le_of_rank_le hbc hb hc)

/-- What is ranked as high as something that does not stay within a bound does not stay within it
either, missing or not. -/
lemma not_le_of_rank_le (hab : ¬ b ≤ a) (hbc : rank b ≤ rank c) : ¬ c ≤ a := by
  intro hle
  obtain ⟨hc, ha, -⟩ := le_iff_grade.1 hle
  cases hb : b.isNaN with
  | false =>
    have hlt : a < b := by
      by_contra hnot
      exact hab ((Float32.not_lt ha hb).1 hnot)
    have hrank := rank_lt_rank (Float32.lt_of_le_of_lt hle hlt)
    omega
  | true =>
    have hrank := rank_lt_of_isNaN hc hb
    omega

end Float32

end Detection
