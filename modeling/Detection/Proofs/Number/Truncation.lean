/-
# Integer parts of 32-bit numbers

The core library takes the integer part of a number by shifting its mantissa: to the left until
it stands at the unit, or to the right past it.  Either way what is left is the largest integer
below the magnitude, under the sign of the number.  So the count of a number is zero for
everything below one: for missing and negative numbers, for zero, and for fractions.

The main results are `roundToInt_eq`, `toInt_mem` and `countOf_eq_zero_iff`.
-/
import Detection.Proofs.Number.Arithmetic

namespace Detection

open Float.Model (UnpackedFloat)
open Float.Model.UnpackedFloat (Sign)

/-- The integer part of a finite number is that of its magnitude, under its sign. -/
theorem roundToInt_eq (s : Sign) (m : ℕ) (e : ℤ) :
    UnpackedFloat.roundToInt s m e = s.apply ⌊(m * 2 ^ e : ℚ)⌋ := by
  have hshifts : (m * 2 ^ e : ℚ) =
      (m <<< (e - 0).toNat : ℕ) / 2 ^ (0 - (e - (e - 0).toNat)).toNat := by
    rw [Nat.shiftLeft_eq, Nat.cast_mul, Nat.cast_pow, Nat.cast_ofNat,
      eq_div_iff (by positivity), mul_assoc]
    congr 1
    rw [← zpow_natCast, ← zpow_natCast, ← zpow_add₀ two_ne_zero]
    congr 1
    omega
  have hshifted := (approximates_exact (m <<< (e - 0).toNat)).shiftRight
    (0 - (e - (e - 0).toNat)).toNat
  rw [hshifts, hshifted.floor_eq]
  rfl

/-- Of the numbers with as many digits as there can be, those from the place of the unit on are
not below one. -/
lemma one_le_iff_place {s : Sign} {m : ℕ} {e : ℤ} {hm : 0 < m}
    (h : IsRounded (.finite s m e hm)) : (1 : ℚ) ≤ m * 2 ^ e ↔ -23 ≤ e := by
  obtain ⟨hdigits, -, hfull⟩ := h
  constructor
  · intro hone
    by_contra hplace
    have hm' : (m : ℚ) < 2 ^ (24 : ℤ) := by
      exact_mod_cast (by simpa using hdigits : m < 16777216)
    have hlt : (m * 2 ^ e : ℚ) < 2 ^ (24 + e) := by
      rw [zpow_add₀ two_ne_zero]
      exact mul_lt_mul_of_pos_right hm' (by positivity)
    have hle : (2 : ℚ) ^ (24 + e) ≤ 1 := zpow_le_one_of_nonpos₀ one_le_two (by omega)
    linarith
  · intro hplace
    have hm' : (2 : ℚ) ^ (23 : ℤ) ≤ m := by
      have hfull' : 8388608 ≤ m := by omega
      exact_mod_cast hfull'
    calc (1 : ℚ) ≤ 2 ^ (23 + e) := one_le_zpow₀ one_le_two (by omega)
      _ = 2 ^ (23 : ℤ) * 2 ^ e := zpow_add₀ two_ne_zero 23 e
      _ ≤ m * 2 ^ e := mul_le_mul_of_nonneg_right hm' (by positivity)

/-- The integer part of a positive number is zero if the number is below one. -/
lemma toNat_floor_eq_zero_iff {m : ℕ} {e : ℤ} :
    (⌊(m * 2 ^ e : ℚ)⌋).toNat = 0 ↔ ¬ (1 : ℚ) ≤ m * 2 ^ e := by
  have hfloor : (1 : ℤ) ≤ ⌊(m * 2 ^ e : ℚ)⌋ ↔ (1 : ℚ) ≤ m * 2 ^ e := by
    rw [Int.le_floor, Int.cast_one]
  rw [← hfloor]
  omega

/-- **A count is zero for everything below one**, and for what is missing. -/
theorem countOf_eq_zero_iff {x : Float32} : countOf x = 0 ↔ ¬ 1.0 ≤ x := by
  have hpacked : IsPacked x.toModel.unpack := isPacked_unpack _
  have hone : (1.0 : Float32).isNaN = false := by decide
  have hlimit : ∀ n : ℕ, min n (UInt64.size - 1) = 0 ↔ n = 0 := by
    simp only [UInt64.size]
    omega
  rw [countOf_eq, hlimit, Float32.le_iff, hone, Float32.position, Float32.position,
    Float32.unpack_one]
  change _ ↔ ¬ (_ ∧ x.toModel.unpack.isNaN = false ∧ _)
  generalize x.toModel.unpack = unpacked at hpacked ⊢
  rw [← not_lt (a := positionOf unpacked)]
  rcases unpacked with (_ | _) | _ | _ | ⟨_ | _, m, e, hm⟩
  case finite.positive =>
    have hplace := one_le_iff_place hpacked.1
    obtain ⟨⟨-, -, hfull⟩, -⟩ := hpacked
    rw [UnpackedFloat.toInt, roundToInt_eq, apply_positive, toNat_floor_eq_zero_iff, hplace]
    simp only [positionOf, lex_triple_lt, isNaN_finite, true_and]
    omega
  case finite.negative =>
    have hnonneg : (0 : ℤ) ≤ ⌊(m * 2 ^ e : ℚ)⌋ := Int.floor_nonneg.2 (by positivity)
    rw [UnpackedFloat.toInt, roundToInt_eq, apply_negative]
    simp only [positionOf, lex_triple_lt, isNaN_finite, true_and]
    omega
  all_goals
    simp [UnpackedFloat.toInt, positionOf, lex_triple_lt, isNaN_infinity, isNaN_zero,
      isNaN_notANumber, UInt64.size]

/-- The integer part of a number above minus one is not below zero, and it is below every whole
number that the number is below. -/
theorem toInt_mem {x : UnpackedFloat} {n : ℕ} (low high : ℤ) (hx : x.isFinite)
    (hlow : -1 < valueOf x) (hhigh : valueOf x < n + 1) :
    0 ≤ x.toInt low high ∧ x.toInt low high ≤ n := by
  obtain ⟨s, rfl⟩ | ⟨s, m, e, hm, rfl⟩ := eq_zero_or_eq_finite hx
  · exact ⟨le_rfl, Int.natCast_nonneg n⟩
  have hpos : (0 : ℚ) ≤ m * 2 ^ e := by positivity
  rw [valueOf_finite] at hlow hhigh
  rw [UnpackedFloat.toInt, roundToInt_eq]
  cases s with
  | negative =>
    rw [apply_negative, Int.cast_neg, Int.cast_one, neg_one_mul, neg_lt_neg_iff] at hlow
    have hfloor : ⌊(m * 2 ^ e : ℚ)⌋ = 0 := Int.floor_eq_zero_iff.2 ⟨hpos, hlow⟩
    rw [hfloor]
    exact ⟨le_rfl, Int.natCast_nonneg n⟩
  | positive =>
    rw [apply_positive, Int.cast_one, one_mul] at hhigh
    have hfloor : ⌊(m * 2 ^ e : ℚ)⌋ < (n : ℤ) + 1 := Int.floor_lt.2 (by exact_mod_cast hhigh)
    exact ⟨Int.floor_nonneg.2 hpos, Int.lt_add_one_iff.1 hfloor⟩

/-- The integer part of a finite number is the nearest integer on the side of zero. -/
lemma toInt_eq {x : UnpackedFloat} (low high : ℤ) (hx : x.isFinite) :
    x.toInt low high = if 0 ≤ valueOf x then ⌊valueOf x⌋ else ⌈valueOf x⌉ := by
  obtain ⟨s, rfl⟩ | ⟨s, m, e, hm, rfl⟩ := eq_zero_or_eq_finite hx
  · rw [valueOf_zero, if_pos le_rfl, Int.floor_zero]
    rfl
  have hpos : (0 : ℚ) < m * 2 ^ e := by positivity
  rw [UnpackedFloat.toInt, roundToInt_eq, valueOf_finite]
  cases s with
  | negative =>
    rw [apply_negative, apply_negative, Int.cast_neg, Int.cast_one, neg_one_mul,
      if_neg (by linarith), Int.ceil_neg]
  | positive =>
    rw [apply_positive, apply_positive, Int.cast_one, one_mul, if_pos hpos.le]

namespace Float32

variable {a : Float32} {n : ℕ}

lemma wholePart32_mem (ha : a.isFinite) (hlow : -1 < value a) (hhigh : value a < n + 1) :
    0 ≤ wholePart32 a ∧ wholePart32 a ≤ n := by
  have hwhole := toInt_mem minInt64 maxInt64 ha hlow hhigh
  unfold wholePart32 truncate clampInt
  unfold minInt64 maxInt64 at *
  omega

/-- A number between two integers of 64 bits has an integer part between them. -/
lemma wholePart32_mem_Icc {j k : ℤ} (ha : a.isFinite) (hj : minInt64 ≤ j) (hk : k ≤ maxInt64)
    (hlow : j ≤ value a) (hhigh : value a ≤ k) : wholePart32 a ∈ Set.Icc j k := by
  have htoInt : a.toModel.unpack.toInt minInt64 maxInt64 ∈ Set.Icc j k := by
    rw [toInt_eq _ _ ha]
    split_ifs with hsign
    · exact ⟨Int.le_floor.2 hlow, Int.floor_le_iff.2 (hhigh.trans_lt (lt_add_one _))⟩
    · exact ⟨Int.le_ceil_iff.2 ((sub_one_lt _).trans_le hlow), Int.ceil_le.2 hhigh⟩
  obtain ⟨hle, hge⟩ := htoInt
  rw [Set.mem_Icc]
  unfold wholePart32 truncate clampInt
  omega

lemma countOf_le (ha : a.isFinite) (hlow : 0 ≤ value a) (hhigh : value a < n + 1) :
    countOf a ≤ n := by
  have hwhole := toInt_mem 0 (UInt64.size - 1) ha (neg_one_lt_zero.trans_le hlow) hhigh
  rw [countOf_eq]
  omega

end Float32

end Detection
