/-
# Logarithms to the base two

The logarithm is taken from outside, and little is assumed of it: it is negative infinity at zero,
exact at powers of two, and for all other positive numbers within the bounds that the smallest and
the largest number set.  The exponent of a number, rounded down, is such a logarithm.

## Main definitions

* `Float32.IsMultiple`: a number is a multiple of a power of two.
* `Float32.IsWithin`: a number lies between two powers of two.
* `IsLogarithm`: what is assumed of a logarithm.
* `exponent`: the exponent of a positive number.

The main result is `isLogarithm_exponent`.
-/
import Detection.Proofs.Number.Symmetry
import Detection.Proofs.Number.Truncation
import Detection.Proofs.Number.Whole

namespace Detection

open Float.Model (UnpackedFloat)
open Float.Model.UnpackedFloat (Sign)

namespace Float32

variable {a b : Float32}

/-! ## Numbers that are near powers of two -/

/-- A finite number is a multiple of a power of two. -/
structure IsMultiple (n : ℕ) (k : ℤ) (a : Float32) : Prop where
  isFinite : a.isFinite
  value_eq : value a = n * 2 ^ k

/-- A multiple of a power of two is not rounded, if it has few digits. -/
lemma isMultiple_of_grade_eq {n : ℕ} {k : ℤ} (hpos : 0 < n) (hn : n < 0x800000) (hlow : -126 ≤ k)
    (hhigh : k ≤ 104) (ha : a.isNaN = false) (h : grade a = nearestGrade (n * 2 ^ k)) :
    IsMultiple n k a := by
  obtain ⟨x, hx, hfx, hvalue⟩ := exists_isPacked_valueOf_eq_mul hpos hn hlow hhigh
  rw [← hvalue] at h
  obtain ⟨hfinite, heq⟩ := value_of_grade_eq hx hfx ha h
  exact ⟨hfinite, heq.trans hvalue⟩

lemma isMultiple_ofNat {n k : ℕ} (hpos : 0 < n) (hn : n < 0x800000) (hk : k ≤ 104) :
    IsMultiple n k (Float32.ofNat (n * 2 ^ k)) := by
  obtain ⟨hthere, hgrade⟩ := grade_ofNat (n * 2 ^ k)
  refine isMultiple_of_grade_eq hpos hn (by omega) (by omega) hthere ?_
  rw [hgrade, zpow_natCast]
  push_cast
  rfl

/-- Multiplying by a power of two moves the digits. -/
lemma IsMultiple.mul {n : ℕ} {j k : ℤ} (ha : IsMultiple n j a) (hb : IsMultiple 1 k b)
    (hpos : 0 < n) (hn : n < 0x800000) (hlow : -126 ≤ j + k) (hhigh : j + k ≤ 104) :
    IsMultiple n (j + k) (a * b) := by
  obtain ⟨hthere, hgrade⟩ := grade_mul ha.isFinite hb.isFinite
  refine isMultiple_of_grade_eq hpos hn hlow hhigh hthere ?_
  rw [hgrade, ha.value_eq, hb.value_eq, Nat.cast_one, one_mul, mul_assoc,
    ← zpow_add₀ two_ne_zero]

/-- The ratio of two multiples that have the same digits is a power of two. -/
lemma IsMultiple.div {n : ℕ} {j k : ℤ} (ha : IsMultiple n j a) (hb : IsMultiple n k b)
    (hpos : 0 < n) (hlow : -126 ≤ j - k) (hhigh : j - k ≤ 104) : IsMultiple 1 (j - k) (a / b) := by
  have hne : (n : ℚ) ≠ 0 := by exact_mod_cast hpos.ne'
  obtain ⟨hthere, hgrade⟩ := grade_div ha.isFinite hb.isFinite (by
    rw [hb.value_eq]
    positivity)
  refine isMultiple_of_grade_eq one_pos (by decide) hlow hhigh hthere ?_
  rw [hgrade, ha.value_eq, hb.value_eq, mul_div_mul_left _ _ hne, ← zpow_sub₀ two_ne_zero,
    Nat.cast_one, one_mul]

/-- A finite number lies between two powers of two. -/
structure IsWithin (j k : ℤ) (a : Float32) : Prop where
  isFinite : a.isFinite
  zpow_le : 2 ^ j ≤ value a
  le_zpow : value a ≤ 2 ^ k

lemma IsWithin.pos {j k : ℤ} (h : IsWithin j k a) : 0 < value a :=
  lt_of_lt_of_le (by positivity) h.zpow_le

/-- Rounding does not lead past a power of two. -/
lemma isWithin_of_grade_eq {v : ℚ} {j k : ℤ} (hj : -126 ≤ j) (hk : k ≤ 104) (hlow : 2 ^ j ≤ v)
    (hhigh : v ≤ 2 ^ k) (ha : a.isNaN = false) (h : grade a = nearestGrade v) :
    IsWithin j k a := by
  have hjk : j ≤ k := (zpow_le_zpow_iff_right₀ one_lt_two).1 (hlow.trans hhigh)
  obtain ⟨x, hx, hfx, hvx⟩ :=
    exists_isPacked_valueOf_eq_mul one_pos (by decide) hj (hjk.trans hk)
  obtain ⟨y, hy, hfy, hvy⟩ :=
    exists_isPacked_valueOf_eq_mul one_pos (by decide) (hj.trans hjk) hk
  rw [Nat.cast_one, one_mul] at hvx hvy
  have hle : gradeOf x ≤ grade a := by
    rw [h, gradeOf_eq_nearestGrade hx hfx, hvx]
    exact nearestGrade_mono hlow
  have hge : grade a ≤ gradeOf y := by
    rw [h, gradeOf_eq_nearestGrade hy hfy, hvy]
    exact nearestGrade_mono hhigh
  have hfinite : a.isFinite := by
    have hlimit := (gradeOf_lt_of_isFinite hx hfx).1
    have hlimit' := (gradeOf_lt_of_isFinite hy hfy).2
    by_contra hinfinite
    have houter := grade_of_isFinite_eq_false ha (Bool.not_eq_true _ ▸ hinfinite)
    omega
  refine ⟨hfinite, ?_, ?_⟩
  · rw [← hvx]
    exact valueOf_le_valueOf hx (isPacked_unpack _) hfx hfinite hle
  · rw [← hvy]
    exact valueOf_le_valueOf (isPacked_unpack _) hy hfinite hfy hge

lemma isWithin_ofNat {n k : ℕ} (hpos : 0 < n) (hn : n ≤ 2 ^ k) (hk : k ≤ 104) :
    IsWithin 0 k (Float32.ofNat n) := by
  obtain ⟨hthere, hgrade⟩ := grade_ofNat n
  refine isWithin_of_grade_eq (by decide) (by omega) ?_ ?_ hthere hgrade
  · rw [zpow_zero]
    exact_mod_cast hpos
  · rw [zpow_natCast]
    exact_mod_cast hn

lemma IsWithin.mul {j k j' k' : ℤ} (ha : IsWithin j k a) (hb : IsWithin j' k' b)
    (hlow : -126 ≤ j + j') (hhigh : k + k' ≤ 104) : IsWithin (j + j') (k + k') (a * b) := by
  obtain ⟨hthere, hgrade⟩ := grade_mul ha.isFinite hb.isFinite
  refine isWithin_of_grade_eq hlow hhigh ?_ ?_ hthere hgrade
  · rw [zpow_add₀ two_ne_zero]
    exact mul_le_mul ha.zpow_le hb.zpow_le (by positivity) ha.pos.le
  · rw [zpow_add₀ two_ne_zero]
    exact mul_le_mul ha.le_zpow hb.le_zpow hb.pos.le (by positivity)

lemma IsWithin.div {j k j' k' : ℤ} (ha : IsWithin j k a) (hb : IsWithin j' k' b)
    (hlow : -126 ≤ j - k') (hhigh : k - j' ≤ 104) : IsWithin (j - k') (k - j') (a / b) := by
  obtain ⟨hthere, hgrade⟩ := grade_div ha.isFinite hb.isFinite hb.pos.ne'
  refine isWithin_of_grade_eq hlow hhigh ?_ ?_ hthere hgrade
  · rw [zpow_sub₀ two_ne_zero]
    exact div_le_div₀ ha.pos.le ha.zpow_le hb.pos hb.le_zpow
  · rw [zpow_sub₀ two_ne_zero]
    exact div_le_div₀ (by positivity) ha.le_zpow (by positivity) hb.zpow_le

end Float32

/-! ## What is assumed of a logarithm -/

/-- A function is a logarithm to the base two, as far as is needed. -/
structure IsLogarithm (log2 : Float32 → Float32) : Prop where
  /-- The logarithm of zero is negative infinity. -/
  zero : log2 0.0 = -infinity32
  /-- The logarithms of powers of two are exact. -/
  power : ∀ x : Float32, ∀ k : ℤ, x.isFinite → Float32.value x = 2 ^ k →
    (log2 x).isFinite ∧ Float32.value (log2 x) = k
  /-- The logarithm of a positive number is that of a 32-bit number. -/
  bounded : ∀ x : Float32, x.isFinite → 0 < Float32.value x →
    (log2 x).isFinite ∧ Float32.value (log2 x) ∈ Set.Icc (-149 : ℚ) 128

/-- An integer of a few digits as a 32-bit number. -/
def ofSmallInt (n : ℤ) : Float32 :=
  if 0 ≤ n then Float32.ofNat n.toNat else -Float32.ofNat (-n).toNat

/-- The exponent of a positive number, and negative infinity for zero. -/
def exponent (x : Float32) : Float32 :=
  match x.toModel.unpack with
  | .finite .positive m e _ => ofSmallInt (m.log2 + e)
  | .zero _ => -infinity32
  | _ => x

lemma value_ofSmallInt {n : ℤ} (h : n.natAbs < 0x800000) :
    (ofSmallInt n).isFinite ∧ Float32.value (ofSmallInt n) = n := by
  unfold ofSmallInt
  split_ifs with hsign
  · obtain ⟨hfinite, hvalue⟩ := Float32.value_ofNat (n := n.toNat) (by omega)
    have hcast : ((n.toNat : ℕ) : ℚ) = n := by exact_mod_cast Int.toNat_of_nonneg hsign
    exact ⟨hfinite, hvalue.trans hcast⟩
  · obtain ⟨hfinite, hvalue⟩ := Float32.value_ofNat (n := (-n).toNat) (by omega)
    have hcast : (((-n).toNat : ℕ) : ℚ) = -n := by
      exact_mod_cast Int.toNat_of_nonneg (by omega : 0 ≤ -n)
    rw [Float32.isFinite_neg, Float32.value_neg, hvalue, hcast, neg_neg]
    exact ⟨hfinite, rfl⟩

/-- The exponent of a positive number is its logarithm, rounded down. -/
lemma exponent_eq {x : Float32} (hx : x.isFinite) (hpos : 0 < Float32.value x) :
    exponent x = ofSmallInt (Int.log 2 (Float32.value x)) ∧
      Int.log 2 (Float32.value x) ∈ Set.Icc (-149) 127 := by
  have hpacked : IsPacked x.toModel.unpack := isPacked_unpack _
  rcases Float32.eq_zero_or_eq_positive hx hpos.le with ⟨s, hzero⟩ | ⟨m, e, hm, hdigits⟩
  · rw [Float32.value, hzero, valueOf_zero] at hpos
    exact absurd hpos (lt_irrefl 0)
  · rw [hdigits] at hpacked
    obtain ⟨⟨hlt, hlow, -⟩, hhigh⟩ := hpacked
    have hfloor : ⌊Float32.value x / 2 ^ e⌋ = m := by
      rw [Float32.value, hdigits, valueOf_finite, apply_positive, Int.cast_one, one_mul,
        mul_div_cancel_right₀ _ (by positivity), Int.floor_natCast]
    have hlog : m.log2 < 24 := (Nat.log2_lt hm.ne').2 hlt
    rw [log_eq hm hfloor, Set.mem_Icc]
    refine ⟨?_, by omega⟩
    unfold exponent
    rw [hdigits]

theorem isLogarithm_exponent : IsLogarithm exponent where
  zero := by decide
  power := by
    intro x k hx hvalue
    have hpos : 0 < Float32.value x := by
      rw [hvalue]
      positivity
    obtain ⟨hexponent, hlow, hhigh⟩ := exponent_eq hx hpos
    have hlog : Int.log 2 (Float32.value x) = k := by
      rw [hvalue]
      exact_mod_cast Int.log_zpow (R := ℚ) (by decide : 1 < 2) k
    rw [hlog] at hexponent hlow hhigh
    rw [hexponent]
    exact value_ofSmallInt (by omega)
  bounded := by
    intro x hx hpos
    obtain ⟨hexponent, hlow, hhigh⟩ := exponent_eq hx hpos
    obtain ⟨hfinite, hvalue⟩ := value_ofSmallInt
      (n := Int.log 2 (Float32.value x)) (by omega)
    rw [hexponent, hvalue]
    refine ⟨hfinite, ?_, ?_⟩
    · exact_mod_cast hlow
    · exact_mod_cast hhigh.trans (by decide)

end Detection
