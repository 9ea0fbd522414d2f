/-
# Lines through points above each other

Where all abscissae agree there is no line of least squares that is not vertical, and the level
line at the mean ordinate is taken instead.  That they agree is seen from the spread.  It is zero
if nothing of it is rounded, but also if only the two products at its end are: they are rounded to
the same number, being the same exactly.  So it is enough that the sum of the squares has no more
than 53 digits, which is always so for up to 32 abscissae.  For 33 of them it need not be.

The main result is `Line.fit32_replicate`.
-/
import Detection.Proofs.Number.Error
import Detection.Proofs.Number.Wide

namespace Detection

open Float.Model (UnpackedFloat)
open Float.Model.UnpackedFloat (Sign)

namespace Line

variable {a : Float} {x : Float32} {s : Sign} {n m : ℕ} {k : ℤ}

/-! ## The spread of equal abscissae -/

lemma positive_mul (s : Sign) : Sign.positive * s = s := by
  cases s <;> rfl

lemma spread_replicate_eq (n : ℕ) (a : Float) :
    spread (List.replicate n a) = Float.ofNat n * Scalar.sum (List.replicate n (a * a)) -
      Scalar.sum (List.replicate n a) * Scalar.sum (List.replicate n a) := by
  unfold spread
  rw [List.length_replicate, List.map_replicate]
  rfl

/-- Both products are those of the number of abscissae, twice, and of one of them, twice. -/
lemma spread_replicate (ha : Holds a s m k) (hn : 0 < n) (hn' : n < 2 ^ 53) (hm : Fits m k)
    (hsum : Fits (n * m) k) (hsquare : Fits (m * m) (k + k))
    (hsquares : Fits (n * (m * m)) (k + k)) : spread (List.replicate n a) = 0.0 := by
  have hcount : Fits n 0 := ⟨hn, hn', by decide, by decide⟩
  have htotal := holds_sum_replicate ha hn hsum
  have htotals := holds_sum_replicate (ha.mul ha hm hm hsquare) hn hsquares
  have hleft := (holds_ofNat hn hn').mul_eq htotals hcount hsquares
  have hright := htotal.mul_eq htotal hsum hsum
  have hdigits : n * (n * (m * m)) = n * m * (n * m) := by ring
  rw [positive_mul, hdigits, zero_add] at hleft
  have hpos : 0 < n * m * (n * m) := Nat.mul_pos hsum.pos hsum.pos
  have hlog : (n * m * (n * m)).log2 < 106 := by
    rw [Nat.log2_lt hpos.ne']
    calc n * m * (n * m) < 2 ^ 53 * 2 ^ 53 := Nat.mul_lt_mul'' hsum.lt hsum.lt
      _ = 2 ^ 106 := by norm_num
  have hplace := hsquares.place_le
  rw [spread_replicate_eq, hleft, hright]
  exact sub_self_eq_zero (isFinite_pack_round hpos (by omega))

/-- Zeros, whatever their signs, add up to zero. -/
lemma sum_replicate_of_zero (hzero : a.toModel.unpack = .zero s) (n : ℕ) :
    Scalar.sum (List.replicate n a) = 0.0 := by
  have hadd : (0.0 : Float) + a = 0.0 := by
    change Float.ofModel (.pack (UnpackedFloat.add .binary64 _ a.toModel.unpack)) = _
    rw [hzero]
    cases s <;> rfl
  change (List.replicate n a).foldl (· + ·) 0.0 = _
  induction n with
  | zero => rfl
  | succ n ih => rw [List.replicate_succ, List.foldl_cons, hadd, ih]

lemma spread_replicate_of_zero (hzero : a.toModel.unpack = .zero s) (hn : 0 < n)
    (hn' : n < 2 ^ 53) : spread (List.replicate n a) = 0.0 := by
  have hsquare : a * a = 0.0 := by
    change Float.ofModel (.pack (UnpackedFloat.mul .binary64 a.toModel.unpack a.toModel.unpack)) = _
    rw [hzero]
    cases s <;> rfl
  have hproduct : Float.ofNat n * 0.0 = 0.0 := by
    obtain ⟨i, hpos, heq, -⟩ :=
      (⟨hn, hn', by decide, by decide⟩ : Fits n 0).exists_round_eq .positive
    change Float.ofModel (.pack (UnpackedFloat.mul .binary64 (Float.ofNat n).toModel.unpack _)) = _
    rw [(holds_ofNat hn hn').trans heq]
    rfl
  have hsquares : Scalar.sum (List.replicate n (0.0 : Float)) = 0.0 :=
    sum_replicate_of_zero (s := .positive) rfl n
  rw [spread_replicate_eq, hsquare, sum_replicate_of_zero hzero, hsquares, hproduct]
  decide

/-! ## Abscissae of 32 bits -/

/-- One number is a multiple of two powers of two.  The less digits the factor of the one has, the
less it is above the other one. -/
lemma place_lt {m' : ℕ} {k' : ℤ} (h : (m : ℚ) * 2 ^ k = m' * 2 ^ k') (hm' : 0 < m')
    (hlt : m < 2 ^ 27) : k' < 27 + k := by
  refine (zpow_lt_zpow_iff_right₀ (one_lt_two (α := ℚ))).1 ?_
  have hone : (1 : ℚ) ≤ m' := by exact_mod_cast hm'
  have hdigits : (m : ℚ) < 2 ^ 27 := by exact_mod_cast hlt
  calc (2 : ℚ) ^ k' = 1 * 2 ^ k' := (one_mul _).symm
    _ ≤ m' * 2 ^ k' := mul_le_mul_of_nonneg_right hone (by positivity)
    _ = m * 2 ^ k := h.symm
    _ < 2 ^ 27 * 2 ^ k := mul_lt_mul_of_pos_right hdigits (by positivity)
    _ = 2 ^ (27 + k) := by
        rw [zpow_add₀ two_ne_zero]
        rfl

/-- A finite abscissa is a multiple of a power of two, and its squares are added up exactly as
long as the digits of the sum suffice. -/
lemma spread_replicate_widen (hx : x.isFinite) (hvalue : |Float32.value x| = m * 2 ^ k)
    (hn : 0 < n) (hn' : n < 2 ^ 53) (hdigits : n * m ^ 2 < 2 ^ 53) :
    spread (List.replicate n (widen x)) = 0.0 := by
  have hpacked : IsPacked x.toModel.unpack := isPacked_unpack _
  obtain ⟨s, hunpack⟩ | ⟨s, M, e, hM, hunpack⟩ := eq_zero_or_eq_finite hx
  · have hzero : (widen x).toModel.unpack = .zero s := by
      unfold widen
      rw [hunpack]
      cases s <;> rfl
    exact spread_replicate_of_zero hzero hn hn'
  · obtain ⟨hholds, hfits⟩ := holds_widen hunpack
    rw [hunpack] at hpacked
    obtain ⟨⟨hlt, hplace, -⟩, hplace'⟩ := hpacked
    have hsame : (M : ℚ) * 2 ^ e = m * 2 ^ k := by
      rw [← hvalue, Float32.value, hunpack, abs_valueOf_finite]
    have hm : 0 < m := by
      rcases Nat.eq_zero_or_pos m with rfl | hm
      · rw [Nat.cast_zero, zero_mul] at hsame
        exact absurd hsame (by positivity)
      · exact hm
    have hsquare : m ^ 2 ≤ n * m ^ 2 := Nat.le_mul_of_pos_left _ hn
    have hfactor : n * m ≤ n * m ^ 2 := Nat.mul_le_mul_left n (Nat.le_self_pow two_ne_zero m)
    have hone : m ≤ n * m := Nat.le_mul_of_pos_left m hn
    have hroot : m < 2 ^ 27 := by
      rw [← Nat.pow_lt_pow_iff_left two_ne_zero]
      omega
    have hlow := place_lt hsame.symm hM hroot
    have hhigh := place_lt hsame hm (by omega)
    have hmm : m * m = m ^ 2 := (sq m).symm
    have hnm : 0 < n * m := Nat.mul_pos hn hm
    have hmultiple : Holds (widen x) s m k := hholds.trans (round_eq_round_of_eq hM hm hsame)
    refine spread_replicate hmultiple hn hn' ⟨hm, by omega, by omega, by omega⟩
      ⟨hnm, by omega, by omega, by omega⟩ ⟨?_, ?_, by omega, by omega⟩
      ⟨?_, ?_, by omega, by omega⟩
    · exact Nat.mul_pos hm hm
    · rw [hmm]
      omega
    · exact Nat.mul_pos hn (Nat.mul_pos hm hm)
    · rwa [hmm]

/-- A finite number of 32 bits has no more than 24 digits. -/
lemma exists_abs_value_eq (hx : x.isFinite) :
    ∃ (m : ℕ) (k : ℤ), |Float32.value x| = m * 2 ^ k ∧ m < 2 ^ 24 := by
  have hpacked : IsPacked x.toModel.unpack := isPacked_unpack _
  obtain ⟨s, hunpack⟩ | ⟨s, m, e, hm, hunpack⟩ := eq_zero_or_eq_finite hx
  · refine ⟨0, 0, ?_, by decide⟩
    rw [Float32.value, hunpack, valueOf_zero, abs_zero, Nat.cast_zero, zero_mul]
  · rw [hunpack] at hpacked
    refine ⟨m, e, ?_, hpacked.1.1⟩
    rw [Float32.value, hunpack, abs_valueOf_finite]

/-! ## The level line -/

lemma fit_of_spread_eq_zero {xs ys : List Float} (hpos : 0 < xs.length)
    (hlength : ys.length = xs.length) (h : spread xs = 0.0) :
    fit xs ys = ⟨0.0, Scalar.sum ys / Float.ofNat xs.length⟩ := by
  have hguard : (xs.isEmpty || xs.length != ys.length) = false := by
    have hne : xs ≠ [] := List.length_pos_iff.1 hpos
    simp [hne, hlength]
  have hminute : Scalar.isMinute (0.0 : Float) = true := by decide
  unfold fit
  rw [hguard, if_neg Bool.false_ne_true, h]
  exact if_pos hminute

/-- **Equal abscissae give the level line at the mean ordinate.**  This is so for up to 32 of them,
whatever finite number they are, and for more of them as long as the sum of their squares has 53
digits: they are the `m`-fold of a power of two, and `n` squares of `m` are below 2^53. -/
theorem fit32_replicate {ys : List Float32} (hx : x.isFinite) (hn : 0 < n)
    (hlength : ys.length = n)
    (h : n ≤ 32 ∨ n < 2 ^ 53 ∧ ∃ (m : ℕ) (k : ℤ),
      |Float32.value x| = m * 2 ^ k ∧ n * m ^ 2 < 2 ^ 53) :
    fit32 (List.replicate n x) ys = ⟨0.0, Scalar.sum (ys.map widen) / Float.ofNat n⟩ := by
  have hspread : spread (List.replicate n (widen x)) = 0.0 := by
    rcases h with hfew | ⟨hmany, m, k, hvalue, hdigits⟩
    · obtain ⟨m, k, hvalue, hm⟩ := exists_abs_value_eq hx
      have hdigits : n * m ^ 2 < 2 ^ 53 := by
        calc n * m ^ 2 ≤ 32 * (2 ^ 24 - 1) ^ 2 :=
              Nat.mul_le_mul hfew (Nat.pow_le_pow_left (Nat.le_sub_one_of_lt hm) 2)
          _ < 2 ^ 53 := by norm_num
      exact spread_replicate_widen hx hvalue hn (by omega) hdigits
    · exact spread_replicate_widen hx hvalue hn hmany hdigits
  have hcount : (List.replicate n (widen x)).length = n := List.length_replicate
  have hsame : (ys.map widen).length = (List.replicate n (widen x)).length := by
    rw [List.length_map, hcount, hlength]
  unfold fit32
  rw [List.map_replicate, fit_of_spread_eq_zero (hcount.symm ▸ hn) hsame hspread, hcount]

/-- 32 points at an odd number of 24 digits, and a thousand at a power of two. -/
theorem fit32_replicate_32_and_1000 :
    ((16777215.0 : Float32).isFinite ∧
      fit32 (List.replicate 32 16777215.0) (List.replicate 32 0.5) =
        ⟨0.0, Scalar.sum ((List.replicate 32 (0.5 : Float32)).map widen) / Float.ofNat 32⟩) ∧
      |Float32.value 0.5| = (1 : ℕ) * 2 ^ (-1 : ℤ) ∧ 1000 * 1 ^ 2 < 2 ^ 53 ∧
      fit32 (List.replicate 1000 0.5) (List.replicate 1000 16777215.0) =
        ⟨0.0, Scalar.sum ((List.replicate 1000 (16777215.0 : Float32)).map widen) /
          Float.ofNat 1000⟩ := by
  have hhalf : |Float32.value 0.5| = (1 : ℕ) * 2 ^ (-1 : ℤ) := by
    rw [Float32.value_half]
    norm_num
  exact ⟨⟨rfl, fit32_replicate rfl (by decide) List.length_replicate (.inl (by decide))⟩, hhalf,
    by norm_num, fit32_replicate rfl (by decide) List.length_replicate
      (.inr ⟨by norm_num, 1, -1, hhalf, by norm_num⟩)⟩

/-- 33 points at an odd number of 24 digits: the sum of the squares has one digit too many. -/
def columnOf33 : List Float32 :=
  List.replicate 33 16777215.0

theorem not_fit32_columnOf33 :
    ¬ ∀ (n : ℕ) (x : Float32) (ys : List Float32), 1 ≤ n → x.isFinite → (∀ y ∈ ys, y.isFinite) →
      ys.length = n →
        fit32 (List.replicate n x) ys = ⟨0.0, Scalar.sum (ys.map widen) / Float.ofNat n⟩ := by
  intro hall
  have hfit := hall 33 16777215.0 columnOf33 (by decide) rfl (by decide) rfl
  have hslope : (fit32 columnOf33 columnOf33).slope = 1.0 := by
    decide +kernel
  have hlevel : (fit32 columnOf33 columnOf33).slope = 0.0 := congrArg slope hfit
  rw [hslope] at hlevel
  exact absurd hlevel (by decide)

end Line

end Detection
