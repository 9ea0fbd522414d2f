/-
# Scaling and shifting 32-bit numbers

Multiplying by a number that is not below zero keeps numbers in order, and so does adding a finite
one.  The exact product or sum does, and rounding keeps the order as well.  A product is missing
where an infinite number meets zero; if everything below zero is replaced by zero afterwards, as
far as what is missing, the order is kept even then.

The main results are `Float32.greatest_mul_le` and `Float32.add_le_add`.
-/
import Detection.Proofs.Number.Arithmetic
import Detection.Proofs.Number.Rank

namespace Detection

open Float.Model (UnpackedFloat Format)
open Float.Model.UnpackedFloat (Sign)

/-! ## Grades and exact values -/

section Unpacked

variable {x y : UnpackedFloat}

/-- The grade of a finite number is between those of the two infinities. -/
lemma gradeOf_lt_of_isFinite (h : IsPacked x) (hfinite : x.isFinite) :
    -infinityGrade < gradeOf x ∧ gradeOf x < infinityGrade := by
  obtain ⟨s, rfl⟩ | ⟨s, m, e, hm, rfl⟩ := eq_zero_or_eq_finite hfinite
  · change -infinityGrade < 0 ∧ 0 < infinityGrade
    decide
  · have hpos := gradeAt_pos h.1
    have hlimit := (gradeAt_lt_iff h.1).2 h.2
    cases s <;> rw [gradeOf]
    · rw [apply_negative]
      omega
    · rw [apply_positive]
      omega

/-- Finite numbers of one grade have one value. -/
lemma valueOf_eq_of_gradeOf_eq (hx : IsPacked x) (hy : IsPacked y) (hfx : x.isFinite)
    (hfy : y.isFinite) (h : gradeOf x = gradeOf y) : valueOf x = valueOf y := by
  obtain ⟨s, rfl⟩ | ⟨s, m, e, hm, rfl⟩ := eq_zero_or_eq_finite hfx <;>
    obtain ⟨s', rfl⟩ | ⟨s', m', e', hm', rfl⟩ := eq_zero_or_eq_finite hfy
  · rfl
  · have hpos := gradeAt_pos hy.1
    cases s' <;> simp [gradeOf, Sign.apply] at h <;> omega
  · have hpos := gradeAt_pos hx.1
    cases s <;> simp [gradeOf, Sign.apply] at h <;> omega
  · have hpos := gradeAt_pos hx.1
    have hpos' := gradeAt_pos hy.1
    have hlt := gradeAt_lt_gradeAt_iff hx.1 hy.1
    have hlt' := gradeAt_lt_gradeAt_iff hy.1 hx.1
    have hsame : s = s' ∧ e = e' ∧ m = m' := by
      cases s <;> cases s' <;> simp [gradeOf, Sign.apply] at h ⊢ <;> omega
    obtain ⟨rfl, rfl, rfl⟩ := hsame
    rfl

lemma valueOf_le_valueOf (hx : IsPacked x) (hy : IsPacked y) (hfx : x.isFinite)
    (hfy : y.isFinite) (h : gradeOf x ≤ gradeOf y) : valueOf x ≤ valueOf y := by
  rcases h.lt_or_eq with hlt | heq
  · by_contra hvalue
    have hgrade := nearestGrade_mono (not_le.1 hvalue).le
    rw [← gradeOf_eq_nearestGrade hx hfx, ← gradeOf_eq_nearestGrade hy hfy] at hgrade
    exact hgrade.not_gt hlt
  · exact (valueOf_eq_of_gradeOf_eq hx hy hfx hfy heq).le

/-- The product of numbers that can be packed is rounded. -/
lemma isRounded_mul (hx : IsPacked x) (hy : IsPacked y) : IsRounded (.mul .binary32 x y) := by
  rcases x with s | _ | s | ⟨s, m, e, hm⟩ <;> rcases y with s' | _ | s' | ⟨s', m', e', hm'⟩
  case finite.finite => exact (rounds_mul hx hy rfl rfl).isRounded
  all_goals trivial

lemma sign_mul_comm (s s' : Sign) : s * s' = s' * s := by
  cases s <;> cases s' <;> rfl

lemma unpacked_mul_comm (x y : UnpackedFloat) :
    UnpackedFloat.mul .binary32 x y = .mul .binary32 y x := by
  rcases x with s | _ | s | ⟨s, m, e, hm⟩ <;> rcases y with s' | _ | s' | ⟨s', m', e', hm'⟩
  case finite.finite =>
    simp only [UnpackedFloat.mul]
    rw [sign_mul_comm, Nat.mul_comm, Int.add_comm]
  case infinity.infinity | infinity.finite | finite.infinity =>
    exact congrArg UnpackedFloat.infinity (sign_mul_comm s s')
  case zero.zero | zero.finite | finite.zero =>
    exact congrArg UnpackedFloat.zero (sign_mul_comm s s')
  all_goals rfl

end Unpacked

namespace Float32

variable {a b c s : Float32}

/-! ## Values of 32-bit numbers -/

/-- A missing number counts as zero. -/
lemma grade_of_isNaN (ha : a.isNaN = true) : grade a = 0 := by
  change a.toModel.unpack.isNaN = true at ha
  rw [grade]
  generalize a.toModel.unpack = x at ha
  rcases x with _ | _ | _ | _
  · exact absurd ha Bool.noConfusion
  · rfl
  · exact absurd ha Bool.noConfusion
  · exact absurd ha Bool.noConfusion

/-- What is there and not finite is infinite. -/
lemma exists_unpack_eq_infinity (ha : a.isNaN = false) (hinfinite : a.isFinite = false) :
    ∃ sign, a.toModel.unpack = .infinity sign := by
  change a.toModel.unpack.isNaN = false at ha
  change a.toModel.unpack.isFinite = false at hinfinite
  generalize a.toModel.unpack = x at ha hinfinite
  rcases x with sign | _ | _ | _
  · exact ⟨sign, rfl⟩
  · exact absurd ha Bool.noConfusion
  · exact absurd hinfinite Bool.noConfusion
  · exact absurd hinfinite Bool.noConfusion

/-- The grade of an infinite number is one of the two outermost. -/
lemma grade_of_isFinite_eq_false (ha : a.isNaN = false) (hinfinite : a.isFinite = false) :
    grade a = infinityGrade ∨ grade a = -infinityGrade := by
  obtain ⟨sign, h⟩ := exists_unpack_eq_infinity ha hinfinite
  rw [grade, h]
  cases sign with
  | negative => exact .inr rfl
  | positive => exact .inl rfl

lemma value_le_value (ha : a.isFinite) (hb : b.isFinite) (h : a ≤ b) : value a ≤ value b :=
  valueOf_le_valueOf (isPacked_unpack _) (isPacked_unpack _) ha hb (le_iff_grade.1 h).2.2

lemma value_zero : value 0.0 = 0 := by
  rw [value, unpack_zero, valueOf_zero]

lemma value_nonneg (ha : a.isFinite) (h : 0.0 ≤ a) : 0 ≤ value a :=
  value_zero ▸ value_le_value rfl ha h

lemma nonneg_of_value_nonneg (ha : a.isFinite) (h : 0 ≤ value a) : 0.0 ≤ a := by
  rw [zero_le_iff_grade, grade_eq_nearestGrade ha]
  exact ⟨isNaN_of_isFinite ha, nearestGrade_nonneg h⟩

/-- A finite number that is not below zero is zero, or it has digits and no sign. -/
lemma eq_zero_or_eq_positive (ha : a.isFinite) (h : 0 ≤ value a) :
    (∃ sign, a.toModel.unpack = .zero sign) ∨
      ∃ m e hm, a.toModel.unpack = .finite .positive m e hm := by
  obtain ⟨sign, hzero⟩ | ⟨sign, m, e, hm, hdigits⟩ := eq_zero_or_eq_finite ha
  · exact .inl ⟨sign, hzero⟩
  · have hpos : (0 : ℚ) < m * 2 ^ e := by positivity
    rw [value, hdigits, valueOf_finite] at h
    cases sign with
    | negative =>
      rw [apply_negative, Int.cast_neg, Int.cast_one] at h
      linarith
    | positive => exact .inr ⟨m, e, hm, hdigits⟩

/-- What is neither below zero nor above a finite number is finite. -/
lemma isFinite_of_le (ha : 0.0 ≤ a) (hb : b.isFinite) (h : a ≤ b) : a.isFinite := by
  rcases eq_infinity_or_value_nonneg ha with hinfinite | ⟨hfinite, -⟩
  · have hgrade := (le_iff_grade.1 h).2.2
    have hlimit := (gradeOf_lt_of_isFinite (isPacked_unpack _) hb).2
    rw [grade, hinfinite] at hgrade
    exact absurd (hgrade.trans_lt hlimit) (lt_irrefl infinityGrade)
  · exact hfinite

/-! ## Scaling -/

lemma unpack_mul (a b : Float32) :
    (a * b).toModel.unpack = limited (.mul .binary32 a.toModel.unpack b.toModel.unpack) :=
  unpack_pack (isRounded_mul (isPacked_unpack _) (isPacked_unpack _))

/-- Nothing is left of a number that is multiplied by zero, and what is missing counts as much. -/
lemma grade_mul_of_unpack_eq_zero {sign : Sign} (ha : a.isNaN = false)
    (hs : s.toModel.unpack = .zero sign) : grade (a * s) = 0 := by
  change a.toModel.unpack.isNaN = false at ha
  rw [grade, unpack_mul, hs]
  generalize a.toModel.unpack = x at ha
  rcases x with _ | _ | _ | _
  · rfl
  · exact absurd ha Bool.noConfusion
  · rfl
  · rfl

/-- A number that is multiplied by infinity keeps its sign only. -/
lemma grade_mul_of_unpack_eq_infinity (ha : a.isNaN = false)
    (hs : s.toModel.unpack = .infinity .positive) :
    0 < grade a ∧ grade (a * s) = infinityGrade ∨ grade a = 0 ∧ grade (a * s) = 0 ∨
      grade a < 0 ∧ grade (a * s) = -infinityGrade := by
  have hpacked : IsPacked a.toModel.unpack := isPacked_unpack _
  change a.toModel.unpack.isNaN = false at ha
  rw [grade, grade, unpack_mul, hs]
  generalize a.toModel.unpack = x at ha hpacked
  rcases x with (_ | _) | _ | _ | ⟨_ | _, m, e, hm⟩
  · exact .inr (.inr ⟨by decide, rfl⟩)
  · exact .inl ⟨by decide, rfl⟩
  · exact absurd ha Bool.noConfusion
  · exact .inr (.inl ⟨rfl, rfl⟩)
  · have hpos := gradeAt_pos hpacked.1
    refine .inr (.inr ⟨?_, rfl⟩)
    rw [gradeOf, apply_negative]
    omega
  · exact .inl ⟨gradeAt_pos hpacked.1, rfl⟩

/-- An infinite number stays what it is when it is multiplied by a positive one. -/
lemma grade_mul_of_unpack_eq_positive {m : ℕ} {e : ℤ} {hm : 0 < m} (ha : a.isNaN = false)
    (hinfinite : a.isFinite = false) (hs : s.toModel.unpack = .finite .positive m e hm) :
    grade (a * s) = grade a := by
  obtain ⟨sign, h⟩ := exists_unpack_eq_infinity ha hinfinite
  rw [grade, grade, unpack_mul, hs, h]
  cases sign <;> rfl

/-- Multiplying by a number that is not below zero keeps numbers in order, as long as a product
that is missing counts as zero. -/
theorem grade_mul_le (hs : 0.0 ≤ s) (h : a ≤ b) : grade (a * s) ≤ grade (b * s) := by
  obtain ⟨ha, hb, hgrade⟩ := le_iff_grade.1 h
  rcases eq_infinity_or_value_nonneg hs with hinfinite | ⟨hfinite, hvalue⟩
  · have hinfinity : 0 < infinityGrade := by decide
    have hproduct := grade_mul_of_unpack_eq_infinity ha hinfinite
    have hproduct' := grade_mul_of_unpack_eq_infinity hb hinfinite
    omega
  rcases eq_zero_or_eq_positive hfinite hvalue with ⟨sign, hs⟩ | ⟨m, e, hm, hs⟩
  · rw [grade_mul_of_unpack_eq_zero ha hs, grade_mul_of_unpack_eq_zero hb hs]
  -- Products of finite numbers are compared by their values.  An infinite number stays outermost.
  have houter : ∀ x : Float32, x.isNaN = false → x.isFinite = false →
      grade (x * s) = grade x ∧ (grade x = infinityGrade ∨ grade x = -infinityGrade) :=
    fun x hthere hx => ⟨grade_mul_of_unpack_eq_positive hthere hx hs,
      grade_of_isFinite_eq_false hthere hx⟩
  have hinner : ∀ x : Float32, x.isFinite → -infinityGrade < grade x ∧ grade x < infinityGrade :=
    fun x hx => gradeOf_lt_of_isFinite (isPacked_unpack _) hx
  have hmem : ∀ x : Float32, -infinityGrade ≤ grade x ∧ grade x ≤ infinityGrade :=
    fun x => gradeOf_mem (isPacked_unpack _)
  cases hfa : a.isFinite with
  | false =>
    have hleft := houter a ha hfa
    cases hfb : b.isFinite with
    | false =>
      have hright := houter b hb hfb
      omega
    | true =>
      have hright := hinner b hfb
      have hproduct := hmem (b * s)
      omega
  | true =>
    cases hfb : b.isFinite with
    | false =>
      have hleft := hinner a hfa
      have hright := houter b hb hfb
      have hproduct := hmem (a * s)
      omega
    | true =>
      rw [(grade_mul hfa hfinite).2, (grade_mul hfb hfinite).2]
      exact nearestGrade_mono (mul_le_mul_of_nonneg_right (value_le_value hfa hfb h) hvalue)

protected theorem mul_comm (a b : Float32) : a * b = b * a :=
  congrArg (fun x => Float32.ofModel (.pack x)) (unpacked_mul_comm _ _)

lemma value_one : value 1.0 = 1 := by
  rw [value, unpack_one, valueOf_finite, apply_positive]
  norm_num

/-- A number that is not below zero stays what it is when it is multiplied by one. -/
lemma grade_one_mul (hs : 0.0 ≤ s) : grade (1.0 * s) = grade s := by
  rcases eq_infinity_or_value_nonneg hs with hinfinite | ⟨hfinite, -⟩
  · have hone : 0 < grade 1.0 := by decide
    have hproduct := grade_mul_of_unpack_eq_infinity (a := 1.0) rfl hinfinite
    have hgrade : grade s = infinityGrade := by
      rw [grade, hinfinite]
      rfl
    omega
  · rw [(grade_mul rfl hfinite).2, value_one, one_mul, grade_eq_nearestGrade hfinite]

/-- Taking a fraction of a number that is not below zero does not make it larger. -/
theorem mul_le_of_le_one (ha : a ≤ 1.0) (hs : 0.0 ≤ s) (hthere : (a * s).isNaN = false) :
    a * s ≤ s :=
  le_iff_grade.2 ⟨hthere, (zero_le_iff_grade.1 hs).1,
    (grade_mul_le hs ha).trans_eq (grade_one_mul hs)⟩

/-- Taking a fraction of a number that is not above zero does not make it positive. -/
lemma not_lt_mul_of_le_zero (ha : 0.0 ≤ a) (hfinite : a.isFinite) (hs : s ≤ 0.0) :
    ¬ 0.0 < a * s := by
  intro hlt
  have hproduct : grade (s * a) ≤ grade (0.0 * a) := grade_mul_le ha hs
  have hnothing : grade (a * 0.0) = 0 :=
    grade_mul_of_unpack_eq_zero (isNaN_of_isFinite hfinite) unpack_zero
  have hgrade : grade 0.0 < grade (a * s) := (lt_iff_grade.1 hlt).2.2
  have hzero : grade 0.0 = 0 := by decide
  rw [Float32.mul_comm a] at hgrade hnothing
  omega

/-- A finite number that is not below zero is not after a division by a positive one. -/
theorem nonneg_div (ha : a.isFinite) (hnonneg : 0.0 ≤ a) (hb : 0.0 < b) : 0.0 ≤ a / b := by
  rw [zero_le_iff_grade]
  rcases eq_infinity_or_value_nonneg (Float32.le_of_lt hb) with hinfinite | ⟨hfinite, hvalue⟩
  · -- Nothing is left of a finite number that is divided by infinity.
    have hquotient : ∃ s, UnpackedFloat.div .binary32 a.toModel.unpack b.toModel.unpack =
        .zero s := by
      rw [hinfinite]
      obtain ⟨s, h⟩ | ⟨s, m, e, hm, h⟩ := eq_zero_or_eq_finite ha <;> rw [h] <;>
        exact ⟨_, rfl⟩
    obtain ⟨s, hquotient⟩ := hquotient
    have hrounds := rounds_zero s
    rw [← hquotient] at hrounds
    obtain ⟨hthere, hgrade⟩ := grade_of_rounds (a := a / b) hrounds (unpack_pack hrounds.isRounded)
    rw [hgrade, nearestGrade_zero]
    exact ⟨hthere, le_rfl⟩
  · have hne : value b ≠ 0 := by
      intro hzero
      have hgrade := (lt_iff_grade.1 hb).2.2
      rw [grade_eq_nearestGrade hfinite, hzero, nearestGrade_zero] at hgrade
      exact absurd hgrade (by decide)
    obtain ⟨hthere, hgrade⟩ := grade_div ha hfinite hne
    rw [hgrade]
    exact ⟨hthere, nearestGrade_nonneg (div_nonneg (value_nonneg ha hnonneg) hvalue)⟩

/-! ## Cutting off below zero -/

/-- A number with zero in place of what is below zero or missing. -/
lemma grade_greatest32_zero (a : Float32) :
    (greatest32 a 0.0).isNaN = false ∧ grade (greatest32 a 0.0) = max (grade a) 0 := by
  have hzero : (0.0 : Float32).isNaN = false := by decide
  have hgrade : grade 0.0 = 0 := by decide
  unfold greatest32
  split
  · rename_i hmissing
    rw [hgrade, grade_of_isNaN hmissing, max_self]
    exact ⟨hzero, rfl⟩
  · rename_i hthere
    rw [Bool.not_eq_true] at hthere
    split
    · rename_i hlt
      rw [lt_iff_grade, hgrade] at hlt
      rw [hgrade, max_eq_right hlt.2.2.le]
      exact ⟨hzero, rfl⟩
    · rename_i hle
      rw [Float32.not_lt hthere hzero, le_iff_grade, hgrade] at hle
      rw [max_eq_left hle.2.2]
      exact ⟨hthere, rfl⟩

lemma nonneg_greatest32_zero (a : Float32) : 0.0 ≤ greatest32 a 0.0 := by
  obtain ⟨hthere, hgrade⟩ := grade_greatest32_zero a
  rw [zero_le_iff_grade, hgrade]
  exact ⟨hthere, le_max_right _ _⟩

/-- Multiplying by a number that is not below zero keeps numbers in order, with zero in place of
products that are below zero or missing. -/
theorem greatest_mul_le (hs : 0.0 ≤ s) (h : a ≤ b) :
    greatest32 (a * s) 0.0 ≤ greatest32 (b * s) 0.0 := by
  obtain ⟨hthere, hgrade⟩ := grade_greatest32_zero (a * s)
  obtain ⟨hthere', hgrade'⟩ := grade_greatest32_zero (b * s)
  rw [le_iff_grade, hgrade, hgrade']
  exact ⟨hthere, hthere', max_le_max_right 0 (grade_mul_le hs h)⟩

/-- What is below zero or missing is no larger than a bound that is not below zero. -/
lemma lt_greatest32_zero_iff (hb : 0.0 ≤ b) : b < greatest32 a 0.0 ↔ b < a := by
  have hgrade := (zero_le_iff_grade.1 hb).2
  obtain ⟨hthere, hmax⟩ := grade_greatest32_zero a
  rw [lt_iff_grade, lt_iff_grade, hmax]
  constructor
  · rintro ⟨hb, -, hlt⟩
    have hlt' : grade b < grade a := by omega
    refine ⟨hb, Bool.eq_false_iff.2 fun hmissing => ?_, hlt'⟩
    rw [grade_of_isNaN hmissing] at hlt'
    omega
  · rintro ⟨hb, -, hlt⟩
    exact ⟨hb, hthere, hlt.trans_le (le_max_left _ _)⟩

/-! ## Shifting -/

/-- Adding a finite number keeps finite numbers in order. -/
protected theorem add_le_add (ha : a.isFinite) (hb : b.isFinite) (hc : c.isFinite) (h : a ≤ b) :
    a + c ≤ b + c := by
  obtain ⟨hthere, hgrade⟩ := grade_add ha hc
  obtain ⟨hthere', hgrade'⟩ := grade_add hb hc
  rw [le_iff_grade, hgrade, hgrade']
  exact ⟨hthere, hthere', nearestGrade_mono (by linarith [value_le_value ha hb h])⟩

end Float32

end Detection
