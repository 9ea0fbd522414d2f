/-
# The numbers of a JSON text are finite

A number that is beyond all 64-bit numbers is not read.  This is seen where a count is multiplied
by a power of ten; dividing by one cannot make a number too large.  So every number that was read
is an integer or finite.

## Main definitions

* `Json.Number.IsFinite`: an integer or a finite 64-bit number.

The main result is `Json.Number.isFinite_of_ofSpelling?`.
-/
import Detection.Json.Number
import Detection.Proofs.Number.Integers
import Detection.Proofs.Number.Missing

namespace Detection

open Float.Model (UnpackedFloat Format totalExponent)
open Float.Model.UnpackedFloat (Sign Accuracy unpack pack)

/-! ## Quotients -/

section Quotients

variable {m n : ℕ}

lemma log2_div_le (hn : 0 < n) (h : 0 < m / n) : (m / n).log2 + n.log2 ≤ m.log2 := by
  have hle : m / n * n ≤ m := Nat.div_mul_le_self m n
  have hm : m ≠ 0 := by
    rintro rfl
    simp at h
  rw [Nat.le_log2 hm, pow_add]
  exact (Nat.mul_le_mul (Nat.log2_self_le h.ne') (Nat.log2_self_le hn.ne')).trans hle

lemma log2_le_div (hm : 0 < m) (hn : 0 < n) : m.log2 ≤ (m / n).log2 + n.log2 + 1 := by
  have hlt : m < (m / n + 1) * n := by
    rw [mul_comm]
    exact Nat.lt_mul_div_succ m hn
  have hpow : (m / n + 1) * n ≤ 2 ^ ((m / n).log2 + 1) * 2 ^ (n.log2 + 1) :=
    Nat.mul_le_mul Nat.lt_log2_self Nat.lt_log2_self.le
  rw [← pow_add] at hpow
  have hlog := (Nat.log2_lt hm.ne').2 (hlt.trans_le hpow)
  omega

/-- Dividing by what is not below two does not raise the last place. -/
lemma hasPlaceLE_pack_divCore {s : Sign} {e f p : ℤ} (hm : 0 < m) (hdigits : m < 2 ^ 53)
    (hn : 0 < n) (htwo : 1 ≤ n.log2 + f) (he : e ≤ p) (hlow : -1074 < p) (hhigh : p ≤ 971) :
    HasPlaceLE p (unpack .binary64 (pack .binary64 (UnpackedFloat.roundWithAccuracy .binary64 s
      (UnpackedFloat.divCore .binary64 m e n f).1 (UnpackedFloat.divCore .binary64 m e n f).2.1
      (UnpackedFloat.divCore .binary64 m e n f).2.2))) := by
  have hlog : m.log2 < 53 := (Nat.log2_lt hm.ne').2 hdigits
  unfold UnpackedFloat.divCore
  dsimp only
  have htarget : Format.binary64.targetExponent (totalExponent m e - totalExponent n f) =
      max (m.log2 + 1 + e - (n.log2 + 1 + f) - 53) (-1074) := rfl
  generalize Format.binary64.targetExponent (totalExponent m e - totalExponent n f) = place
    at htarget ⊢
  obtain ⟨j, hj⟩ : ∃ j : ℕ, (e - f - min (e - f) place).toNat = j := ⟨_, rfl⟩
  rw [hj]
  have hshift : (m <<< j).log2 = m.log2 + j := log2_shiftLeft hm j
  have hquotient := log2_le_div (shiftLeft_pos hm j) hn
  have hquotient' := log2_div_le (m := m <<< j) hn
  have hlast : Format.binary64.targetExponent (totalExponent (m <<< j / n) (min (e - f) place)) =
      max ((m <<< j / n).log2 + 1 + min (e - f) place - 53) (-1074) := rfl
  obtain ⟨k, -, -, heq⟩ := exists_roundWithAccuracy_eq (s := s)
    (approximates_fraction (m <<< j) hn) (e := min (e - f) place) (by rw [hlast]; omega)
  rw [heq, hlast]
  refine hasPlaceLE_pack_ofDigits hlow.le hhigh ?_
  rcases Nat.eq_zero_or_pos (m <<< j / n) with hzero | hpos
  · have hnone : Nat.log2 0 = 0 := by decide
    rw [hzero, hnone]
    omega
  · have := hquotient' hpos
    omega

end Quotients

variable {a b : Float} {p : ℤ} {k : ℕ}

/-- A number that is not below two. -/
def IsDivisor (b : Float) : Prop :=
  ∃ (m : ℕ) (e : ℤ) (hm : 0 < m), b.toModel.unpack = .finite .positive m e hm ∧ 1 ≤ m.log2 + e

lemma IsDivisor.isFinite (h : IsDivisor b) : b.toModel.unpack.isFinite := by
  obtain ⟨m, e, hm, hunpack, -⟩ := h
  rw [hunpack]
  rfl

lemma hasPlaceLE_pack_zero (s : Sign) :
    HasPlaceLE p (unpack .binary64 (pack .binary64 (.zero s))) := by
  have hzero : unpack .binary64 (pack .binary64 (.zero s)) = .zero s := by
    cases s <;> rfl
  rw [hzero]
  exact True.intro

lemma hasPlaceLE_div (ha : HasPlaceLE p a.toModel.unpack) (hb : IsDivisor b) (hlow : -1074 < p)
    (hhigh : p ≤ 971) : HasPlaceLE p (a / b).toModel.unpack := by
  obtain ⟨n, f, hn, hunpack, htwo⟩ := hb
  change HasPlaceLE p (unpack .binary64 (pack .binary64 (UnpackedFloat.div .binary64 _ _)))
  rw [hunpack]
  rcases hleft : a.toModel.unpack with s | _ | s | ⟨s, m, e, hm⟩
  · rw [hleft] at ha
    exact ha.elim
  · rw [hleft] at ha
    exact ha.elim
  · exact hasPlaceLE_pack_zero _
  · rw [hleft] at ha
    exact hasPlaceLE_pack_divCore hm (lt_of_unpack_eq_finite hleft) hn htwo ha hlow hhigh

/-! ## Products and signs -/

/-- A product of finite numbers is finite, if it is not infinite. -/
lemma isFinite_mul (ha : a.toModel.unpack.isFinite) (hb : b.toModel.unpack.isFinite)
    (h : (a * b).isInf = false) : (a * b).toModel.unpack.isFinite := by
  have hmul : (UnpackedFloat.mul .binary64 a.toModel.unpack b.toModel.unpack).isNaN = false := by
    obtain ⟨s, hx⟩ | ⟨s, m, e, hm, hx⟩ := eq_zero_or_eq_finite ha <;>
      obtain ⟨t, hy⟩ | ⟨t, n, f, hn, hy⟩ := eq_zero_or_eq_finite hb <;>
      rw [hx, hy]
    · exact isNaN_zero _
    · exact isNaN_zero _
    · exact isNaN_zero _
    · exact isNaN_roundWithAccuracy _ _ _ _
  have hthere : (a * b).toModel.unpack.isNaN = false := isNaN_unpack_pack hmul
  replace h : (a * b).toModel.unpack.isInf = false := h
  cases hproduct : (a * b).toModel.unpack with
  | notANumber => rw [hproduct] at hthere; cases hthere
  | infinity s => rw [hproduct] at h; cases h
  | zero s => rfl
  | finite s m e hm => rfl

/-- A finite number has its last place below the limit. -/
lemma hasPlaceLE_unpack {x : BitVec Format.binary64.numBits} (h : (unpack .binary64 x).isFinite) :
    HasPlaceLE 971 (unpack .binary64 x) := by
  have hexponent : (UnpackedFloat.unpackExponent x).toNat < 2048 :=
    (UnpackedFloat.unpackExponent x).isLt
  have hbias : (Format.binary64.exponentBias : ℤ) + (52 : ℕ) = 1075 := rfl
  unfold unpack at h ⊢
  dsimp only at h ⊢
  split_ifs at h ⊢ with hlast hzero hfirst hzero
  · cases h
  · cases h
  · exact True.intro
  · change ((UnpackedFloat.unpackExponent x).toNat : ℤ) - _ + 1 ≤ 971
    rw [hbias, hfirst]
    decide
  · change ((UnpackedFloat.unpackExponent x).toNat : ℤ) - _ ≤ 971
    have hne : (UnpackedFloat.unpackExponent x).toNat ≠ 2047 := fun heq =>
      hlast (BitVec.eq_of_toNat_eq heq)
    omega

lemma isFinite_neg (ha : a.toModel.unpack.isFinite) : (-a).toModel.unpack.isFinite := by
  have hplace : HasPlaceLE 971 a.toModel.unpack := hasPlaceLE_unpack ha
  change (unpack .binary64 (pack .binary64 a.toModel.unpack.neg)).isFinite
  obtain ⟨s, hx⟩ | ⟨s, m, e, hm, hx⟩ := eq_zero_or_eq_finite ha <;> rw [hx] at hplace ⊢
  · exact (hasPlaceLE_pack_zero (p := 971) _).isFinite
  · exact (hasPlaceLE_unpack_pack hplace (by decide) le_rfl).isFinite

/-! ## Powers of ten -/

namespace Json.Number

/-- The largest power of ten that is used is close to the largest number, so that its digits are
looked at themselves. -/
lemma unpack_powerOfTen_maxPower : (powerOfTen maxPower).toModel.unpack =
    .finite .positive 0x11ccf385ebc8a0 971 (by decide) := by
  have hbits : (powerOfTen maxPower).toModel.toBits = 0x7fe1ccf385ebc8a0 := by
    decide +kernel
  change unpack .binary64 (powerOfTen maxPower).toModel.toBits.toBitVec = _
  rw [hbits]
  rfl

lemma isDivisor_powerOfTen (hk : 0 < k) (hk' : k ≤ maxPower) : IsDivisor (powerOfTen k) := by
  rcases hk'.eq_or_lt with rfl | hlt
  · exact ⟨_, _, _, unpack_powerOfTen_maxPower, by decide⟩
  · have hpos : 0 < 10 ^ k := by positivity
    have hread := ofScientific_eq_round one_pos (k := k) (by unfold maxPower at hk'; omega)
    rw [one_mul] at hread
    have hone : 1 ≤ (10 ^ k).log2 := by
      rw [Nat.le_log2 hpos.ne']
      calc 2 ^ 1 ≤ 10 ^ 1 := by decide
        _ ≤ 10 ^ k := Nat.pow_le_pow_right (by decide) hk
    have hlimit : (10 ^ k).log2 < 1023 := by
      rw [Nat.log2_lt hpos.ne']
      calc 10 ^ k ≤ 10 ^ 307 := Nat.pow_le_pow_right (by decide) (Nat.le_of_lt_succ hlt)
        _ < 2 ^ 1023 := by decide +kernel
    obtain ⟨m, e, hm, hunpack, hlog, hplace, -⟩ := exists_unpack_pack_round (s := .positive)
      (k := 0) hpos (by omega) (by omega)
    refine ⟨m, e, hm, ?_, by omega⟩
    rw [← hunpack, ← hread]
    rfl

lemma isFinite_powerOfTen (hk : k ≤ maxPower) : (powerOfTen k).toModel.unpack.isFinite := by
  rcases Nat.eq_zero_or_pos k with rfl | hpos
  · rfl
  · exact (isDivisor_powerOfTen hpos hk).isFinite

/-! ## Numbers of a text -/

/-- Scaling by a power of ten gives a finite number, if it gives one. -/
lemma isFinite_of_scaled? {x y : Float} {exponent : ℤ} (hx : HasPlaceLE 900 x.toModel.unpack)
    (h : scaled? x exponent = some y) : y.toModel.unpack.isFinite := by
  fun_induction scaled? x exponent with
  | case1 => cases h
  | case2 x exponent hsign hlimit product hinf =>
    rw [← Option.some.inj h]
    exact isFinite_mul hx.isFinite (isFinite_powerOfTen (by omega)) (Bool.not_eq_true _ ▸ hinf)
  | case3 =>
    cases h
    exact hx.isFinite
  | case4 => cases h
  | case5 x exponent hsign hlimit =>
    cases h
    have hdivisor : IsDivisor (powerOfTen (-exponent).toNat) :=
      isDivisor_powerOfTen (by omega) (by omega)
    exact (hasPlaceLE_div hx hdivisor (by decide) (by decide)).isFinite
  | case6 =>
    cases h
    exact hx.isFinite
  | case7 x exponent hsign hlimit hne ih =>
    have hdivisor : IsDivisor (powerOfTen maxPower) := isDivisor_powerOfTen (by decide) le_rfl
    exact ih (hasPlaceLE_div hx hdivisor (by decide) (by decide)) h

lemma takeUp_lt {count : ℕ} (h : count < UInt64.size) (digits : List Char) :
    (takeUp count digits).1 < UInt64.size := by
  induction digits generalizing count with
  | nil => exact h
  | cons c rest ih =>
    unfold takeUp
    dsimp only
    split_ifs with hlonger
    · exact ih hlonger
    · exact h

lemma hasPlaceLE_ofNat {count : ℕ} (h : count < UInt64.size) :
    HasPlaceLE 900 (Float.ofNat count).toModel.unpack := by
  rcases Nat.eq_zero_or_pos count with rfl | hpos
  · have hzero : (Float.ofNat 0).toModel.unpack = .zero .positive := rfl
    rw [hzero]
    exact True.intro
  · have hlog : count.log2 < 64 := (Nat.log2_lt hpos.ne').2 h
    rw [unpack_ofNat hpos]
    exact hasPlaceLE_pack_round hpos (by decide) (by decide) (by omega)

/-- A number that can be read: an integer, or a finite one of 64 bits. -/
def IsFinite : Number → Prop
  | .integer _ => True
  | .double x => x.toModel.unpack.isFinite
  | .single _ => False

/-- Every number that is read is an integer or finite. -/
theorem isFinite_of_ofSpelling? {s : Spelling} {x : Number} (h : ofSpelling? s = some x) :
    x.IsFinite := by
  unfold ofSpelling? at h
  split at h
  · cases h
    exact True.intro
  · obtain ⟨y, hy, rfl⟩ := Option.map_eq_some_iff.1 h
    unfold double? at hy
    obtain ⟨z, hz, rfl⟩ := Option.map_eq_some_iff.1 hy
    have hcount := takeUp_lt (takeUp_lt (by decide : 0 < UInt64.size) s.whole) (s.fraction.getD [])
    have hfinite := isFinite_of_scaled? (hasPlaceLE_ofNat hcount) hz
    cases s.negative with
    | false => exact hfinite
    | true => exact isFinite_neg hfinite

end Json.Number

end Detection
