/-
# Missing numbers and numbers within bounds

What is computed from arbitrary numbers may be missing, and there is nothing else to say about it
then.  But where sums, products and quotients are there, they lie within bounds that follow from
those of what they are computed from, even where numbers are infinite or are rounded.

## Main definitions

* `MissingOrNonneg`: a number is missing or not below zero.
* `Between`: a number is missing or lies between two others.

The main results are `MissingOrNonneg.div`, `between_div` and `add_le_four_mul`.
-/
import Detection.Proofs.Number.Scaling
import Detection.Proofs.Number.Whole

namespace Detection

open Float.Model (UnpackedFloat)
open Float.Model.UnpackedFloat (Sign)

namespace Float32

variable {a b g low high : Float32}

/-! ## Missing operands -/

/-- The result of an operation is missing if one of its operands is. -/
structure PassesMissing (op : UnpackedFloat → UnpackedFloat → UnpackedFloat) : Prop where
  left : ∀ y, op .notANumber y = .notANumber
  right : ∀ x, op x .notANumber = .notANumber

lemma unpack_of_isNaN (ha : a.isNaN = true) : a.toModel.unpack = .notANumber := by
  change a.toModel.unpack.isNaN = true at ha
  generalize a.toModel.unpack = x at ha
  rcases x with _ | _ | _ | _
  · exact absurd ha Bool.noConfusion
  · rfl
  · exact absurd ha Bool.noConfusion
  · exact absurd ha Bool.noConfusion

lemma PassesMissing.isNaN {op : UnpackedFloat → UnpackedFloat → UnpackedFloat}
    (hop : PassesMissing op) (h : a.isNaN = true ∨ b.isNaN = true) :
    (Float32.ofModel (.pack (op a.toModel.unpack b.toModel.unpack))).isNaN = true := by
  rcases h with ha | hb
  · rw [unpack_of_isNaN ha, hop.left]
    rfl
  · rw [unpack_of_isNaN hb, hop.right]
    rfl

lemma isNaN_add (h : a.isNaN = true ∨ b.isNaN = true) : (a + b).isNaN = true :=
  have hop : PassesMissing (.add .binary32) := ⟨fun _ => rfl, fun x => by cases x <;> rfl⟩
  hop.isNaN h

lemma isNaN_sub (h : a.isNaN = true ∨ b.isNaN = true) : (a - b).isNaN = true :=
  have hop : PassesMissing (.sub .binary32) := ⟨fun _ => rfl, fun x => by cases x <;> rfl⟩
  hop.isNaN h

lemma isNaN_mul (h : a.isNaN = true ∨ b.isNaN = true) : (a * b).isNaN = true :=
  have hop : PassesMissing (.mul .binary32) := ⟨fun _ => rfl, fun x => by cases x <;> rfl⟩
  hop.isNaN h

lemma isNaN_div (h : a.isNaN = true ∨ b.isNaN = true) : (a / b).isNaN = true :=
  have hop : PassesMissing (.div .binary32) := ⟨fun _ => rfl, fun x => by cases x <;> rfl⟩
  hop.isNaN h

/-! ## Some values -/

lemma value_two : value 2.0 = 2 := by
  rw [value, unpack_two, valueOf_finite, apply_positive]
  norm_num

lemma value_four : value 4.0 = 4 := by
  have hunpack : (4.0 : Float32).toModel.unpack =
      .finite .positive 0x800000 (-21) (by decide) := rfl
  rw [value, hunpack, valueOf_finite, apply_positive]
  norm_num

lemma value_half : value 0.5 = 1 / 2 := by
  have hunpack : (0.5 : Float32).toModel.unpack =
      .finite .positive 0x800000 (-24) (by decide) := rfl
  rw [value, hunpack, valueOf_finite, apply_positive]
  norm_num

lemma value_neg_half : value (-0.5) = -(1 / 2) := by
  have hunpack : (-0.5 : Float32).toModel.unpack =
      .finite .negative 0x800000 (-24) (by decide) := rfl
  rw [value, hunpack, valueOf_finite, apply_negative]
  norm_num

/-! ## Numbers that are not below zero -/

/-- A number is missing or not below zero. -/
def MissingOrNonneg (a : Float32) : Prop :=
  a.isNaN = true ∨ 0.0 ≤ a

lemma missingOrNonneg_of_grade (h : 0 ≤ grade a) : MissingOrNonneg a := by
  cases ha : a.isNaN with
  | false => exact .inr (zero_le_iff_grade.2 ⟨ha, h⟩)
  | true => exact .inl ha

namespace MissingOrNonneg

lemma mul (ha : MissingOrNonneg a) (hb : MissingOrNonneg b) : MissingOrNonneg (a * b) := by
  rcases ha with ha | ha
  · exact .inl (isNaN_mul (.inl ha))
  rcases hb with hb | hb
  · exact .inl (isNaN_mul (.inr hb))
  have hproduct : grade (0.0 * b) ≤ grade (a * b) := grade_mul_le hb ha
  have hzero : grade (b * 0.0) = 0 :=
    grade_mul_of_unpack_eq_zero (zero_le_iff_grade.1 hb).1 unpack_zero
  rw [Float32.mul_comm, hzero] at hproduct
  exact missingOrNonneg_of_grade hproduct

/-- An infinite number that is divided by a positive one stays infinite, unless the other is
infinite, too. -/
lemma infinity_div (ha : a.toModel.unpack = .infinity .positive) (hb : 0.0 < b) :
    MissingOrNonneg (a / b) := by
  rcases eq_infinity_or_value_nonneg (Float32.le_of_lt hb) with hinfinite | ⟨hfinite, hvalue⟩
  · have hquotient : UnpackedFloat.div .binary32 a.toModel.unpack b.toModel.unpack =
        .notANumber := by
      rw [ha, hinfinite]
      rfl
    left
    change (UnpackedFloat.unpack .binary32 (UnpackedFloat.pack .binary32
      (UnpackedFloat.div .binary32 a.toModel.unpack b.toModel.unpack))).isNaN = true
    rw [hquotient]
    rfl
  rcases eq_zero_or_eq_positive hfinite hvalue with ⟨s, hzero⟩ | ⟨m, e, hm, hdigits⟩
  · have hgrade := (lt_iff_grade.1 hb).2.2
    rw [grade, grade, unpack_zero, hzero] at hgrade
    exact absurd hgrade (lt_irrefl 0)
  · have hquotient : UnpackedFloat.div .binary32 a.toModel.unpack b.toModel.unpack =
        .infinity .positive := by
      rw [ha, hdigits]
      rfl
    exact .inr (le_of_unpack_eq_infinity rfl (unpack_pack_of_eq_infinity hquotient))

theorem div (ha : MissingOrNonneg a) (hb : 0.0 < b) : MissingOrNonneg (a / b) := by
  rcases ha with ha | ha
  · exact .inl (isNaN_div (.inl ha))
  · rcases eq_infinity_or_value_nonneg ha with hinfinite | ⟨hfinite, -⟩
    · exact infinity_div hinfinite hb
    · exact .inr (nonneg_div hfinite ha hb)

end MissingOrNonneg

/-! ## Numbers between bounds -/

/-- A number is missing, or it lies between two bounds. -/
def Between (low high a : Float32) : Prop :=
  a.isNaN = true ∨ low ≤ a ∧ a ≤ high

lemma isFinite_of_le_of_le (hlow : low.isFinite) (hhigh : high.isFinite) (hla : low ≤ a)
    (hah : a ≤ high) : a.isFinite := by
  obtain ⟨-, ha, hgrade⟩ := le_iff_grade.1 hla
  have hgrade' := (le_iff_grade.1 hah).2.2
  have hlimit := (gradeOf_lt_of_isFinite (isPacked_unpack _) hlow).1
  have hlimit' := (gradeOf_lt_of_isFinite (isPacked_unpack _) hhigh).2
  by_contra hinfinite
  have houter := grade_of_isFinite_eq_false ha (Bool.not_eq_true _ ▸ hinfinite)
  change -infinityGrade < grade low at hlimit
  change grade high < infinityGrade at hlimit'
  omega

lemma Between.mono {low' high' : Float32} (h : Between low high a) (hlow : low' ≤ low)
    (hhigh : high ≤ high') : Between low' high' a := by
  rcases h with hmissing | ⟨hla, hah⟩
  · exact .inl hmissing
  · exact .inr ⟨Float32.le_trans hlow hla, Float32.le_trans hah hhigh⟩

/-- What is missing or not above a bound is not above it after it is cut off below zero. -/
lemma greatest32_zero_le (hhigh : 0.0 ≤ high) (h : a.isNaN = true ∨ a ≤ high) :
    greatest32 a 0.0 ≤ high := by
  unfold greatest32
  split
  · exact hhigh
  · rename_i hthere
    split
    · exact hhigh
    · exact h.resolve_left hthere

/-- What is missing or not below a bound is not below it after it is cut off above one. -/
lemma le_least32_one (hlow : low ≤ 1.0) (h : a.isNaN = true ∨ low ≤ a) :
    low ≤ least32 a 1.0 := by
  unfold least32
  split
  · exact hlow
  · rename_i hthere
    split
    · exact hlow
    · exact h.resolve_left hthere

lemma least32_one_le (a : Float32) : least32 a 1.0 ≤ 1.0 := by
  unfold least32
  split
  · exact Float32.le_refl rfl
  · rename_i hthere
    split
    · exact Float32.le_refl rfl
    · rename_i hnot
      exact (Float32.not_lt rfl (Bool.not_eq_true _ ▸ hthere)).1 hnot

lemma value_pos (hb : 0.0 < b) (hfinite : b.isFinite) : 0 < value b := by
  refine (value_nonneg hfinite (Float32.le_of_lt hb)).lt_of_ne fun hzero => ?_
  have hgrade := (lt_iff_grade.1 hb).2.2
  rw [grade_eq_nearestGrade hfinite, ← hzero, nearestGrade_zero] at hgrade
  exact absurd hgrade (by decide)

/-- Nothing is left of what is divided by infinity, not even zero if that is infinite, too. -/
lemma div_infinity (hb : b.toModel.unpack = .infinity .positive) :
    (a / b).isNaN = true ∨ (a / b).isNaN = false ∧ grade (a / b) = 0 := by
  have hquotient : ∀ x : UnpackedFloat,
      UnpackedFloat.div .binary32 x (.infinity .positive) = .notANumber ∨
        ∃ s, UnpackedFloat.div .binary32 x (.infinity .positive) = .zero s := by
    rintro (s | _ | s | ⟨s, m, e, hm⟩)
    · exact .inl rfl
    · exact .inl rfl
    · exact .inr ⟨_, rfl⟩
    · exact .inr ⟨_, rfl⟩
  have hunpack : (a / b).toModel.unpack = UnpackedFloat.unpack .binary32
      (UnpackedFloat.pack .binary32
        (UnpackedFloat.div .binary32 a.toModel.unpack (.infinity .positive))) := by
    rw [← hb]
    rfl
  rcases hquotient a.toModel.unpack with hmissing | ⟨s, hzero⟩
  · left
    change (a / b).toModel.unpack.isNaN = true
    rw [hunpack, hmissing]
    rfl
  · right
    rw [hzero, unpack_pack (rounds_zero s).isRounded] at hunpack
    obtain ⟨hthere, hgrade⟩ := grade_of_rounds (rounds_zero s) hunpack
    exact ⟨hthere, hgrade.trans nearestGrade_zero⟩

/-- A quotient lies between bounds on both sides of zero if the divisor times these bounds lie on
both sides of the dividend. -/
theorem between_div (hb : 0.0 < b) (hlow : low ≤ 0.0) (hhigh : 0.0 ≤ high)
    (hfinite : low.isFinite ∧ high.isFinite)
    (h : b.isFinite → a.isNaN = true ∨
      a.isFinite ∧ value low * value b ≤ value a ∧ value a ≤ value high * value b) :
    Between low high (a / b) := by
  rcases eq_infinity_or_value_nonneg (Float32.le_of_lt hb) with hinfinite | ⟨hfb, -⟩
  · refine (div_infinity hinfinite).imp_right fun ⟨hthere, hgrade⟩ => ?_
    have hzero : grade 0.0 = 0 := by decide
    obtain ⟨hl, -, hlow⟩ := le_iff_grade.1 hlow
    obtain ⟨-, hh, hhigh⟩ := le_iff_grade.1 hhigh
    rw [le_iff_grade, le_iff_grade, hgrade, ← hzero]
    exact ⟨⟨hl, hthere, hlow⟩, hthere, hh, hhigh⟩
  · rcases h hfb with ha | ⟨ha, hlow, hhigh⟩
    · exact .inl (isNaN_div (.inl ha))
    have hpos := value_pos hb hfb
    obtain ⟨hthere, hgrade⟩ := grade_div ha hfb hpos.ne'
    right
    rw [le_iff_grade, le_iff_grade, hgrade, grade_eq_nearestGrade hfinite.1,
      grade_eq_nearestGrade hfinite.2]
    exact ⟨⟨isNaN_of_isFinite hfinite.1, hthere, nearestGrade_mono ((le_div_iff₀ hpos).2 hlow)⟩,
      hthere, isNaN_of_isFinite hfinite.2, nearestGrade_mono ((div_le_iff₀ hpos).2 hhigh)⟩

end Float32

/-! ## Sums with a small number -/

/-- A number that is added is lost if it is less than half a unit in the last place. -/
lemma nearestGrade_add_of_lt {s : Sign} {m : ℕ} {e : ℤ} {hm : 0 < m} {r : ℚ}
    (h : IsRounded (.finite s m e hm)) (hr : 0 ≤ r) (hlt : r < 2 ^ e / 2) :
    nearestGrade (m * 2 ^ e + r) = nearestGrade (m * 2 ^ e) := by
  have hpow : (0 : ℚ) < 2 ^ e := by positivity
  have hpos : (0 : ℚ) < m * 2 ^ e := by positivity
  have hunits : ((m * 2 ^ e + r) / 2 ^ e : ℚ) = m + r / 2 ^ e := by
    rw [add_div, mul_div_cancel_right₀ _ hpow.ne']
  have hrest : 0 ≤ r / 2 ^ e := by positivity
  have hrest' : r / 2 ^ e < 1 / 2 := by
    rw [div_lt_iff₀ hpow]
    linarith
  have hfloor : ⌊((m * 2 ^ e + r) / 2 ^ e : ℚ)⌋ = m := by
    rw [hunits, Int.floor_eq_iff, Int.cast_natCast]
    exact ⟨by linarith, by linarith⟩
  have hfloor' : ⌊(m * 2 ^ e / 2 ^ e : ℚ)⌋ = m := by
    rw [mul_div_cancel_right₀ _ hpow.ne', Int.floor_natCast]
  have hplace : lastPlace (m * 2 ^ e + r) = lastPlace (m * 2 ^ e) := by
    unfold lastPlace
    rw [log_eq hm hfloor, log_eq hm hfloor']
  have hplaces : inPlaces (m * 2 ^ e + r) = inPlaces (m * 2 ^ e) := by
    rw [inPlaces_eq h, inPlaces, hplace, lastPlace_eq h, nearestEven, hfloor, if_pos]
    rw [hunits, Int.cast_natCast]
    linarith
  have hpos' : (0 : ℚ) < m * 2 ^ e + r := by linarith
  rw [nearestGrade, nearestGrade, if_pos hpos, if_pos hpos', magnitudeGrade, magnitudeGrade, hplace,
    hplaces]

namespace Float32

variable {a b g : Float32}

/-- Two more than a number from one on is rounded to something finite, which is not larger than four
times the number. -/
lemma exists_isPacked_add_two (hg : g.isFinite) (hone : 1 ≤ value g) :
    ∃ z, IsPacked z ∧ z.isFinite ∧ nearestGrade (value g + 2) ≤ gradeOf z ∧
      valueOf z ≤ 4 * value g := by
  have hpacked : IsPacked g.toModel.unpack := isPacked_unpack _
  rcases eq_zero_or_eq_positive hg (zero_le_one.trans hone) with ⟨s, hzero⟩ | ⟨m, e, hm, hdigits⟩
  · rw [value, hzero, valueOf_zero] at hone
    exact absurd hone (by norm_num)
  rw [hdigits] at hpacked
  have hvalue : value g = m * 2 ^ e := by
    rw [value, hdigits, valueOf_finite, apply_positive, Int.cast_one, one_mul]
  rw [hvalue] at hone ⊢
  obtain ⟨⟨hlimit, hplace, hfull⟩, hlarge⟩ := id hpacked
  by_cases he : e ≤ 102
  · -- Four times the number is a number, too.
    have hfour : valueOf (.finite .positive m (e + 2) hm) = 4 * (m * 2 ^ e) := by
      rw [valueOf_finite, apply_positive, zpow_add₀ two_ne_zero]
      norm_num
      ring
    have hz : IsPacked (.finite .positive m (e + 2) hm) := by
      refine ⟨⟨hlimit, by omega, .inl (hfull.resolve_right ?_)⟩, by omega⟩
      rintro rfl
      have hm' : (m : ℚ) < 2 ^ (24 : ℤ) := by exact_mod_cast (by simpa using hlimit : m < 16777216)
      have hsmall : (m * 2 ^ (-149 : ℤ) : ℚ) < 2 ^ (24 : ℤ) * 2 ^ (-149 : ℤ) :=
        mul_lt_mul_of_pos_right hm' (by positivity)
      exact absurd (hone.trans_lt hsmall) (by norm_num)
    refine ⟨_, hz, rfl, ?_, hfour.le⟩
    rw [gradeOf_eq_nearestGrade hz rfl, hfour]
    exact nearestGrade_mono (by linarith)
  · -- The number is so large that two more is not another one.
    have hhalf : (2 : ℚ) < 2 ^ e / 2 := by
      have hpow : (2 : ℚ) ^ (3 : ℤ) ≤ 2 ^ e := zpow_le_zpow_right₀ one_le_two (by omega)
      norm_num at hpow
      linarith
    have hvalue' : valueOf (.finite .positive m e hm) = m * 2 ^ e := by
      rw [valueOf_finite, apply_positive, Int.cast_one, one_mul]
    refine ⟨_, hpacked, rfl, ?_, by linarith⟩
    rw [gradeOf_eq_nearestGrade hpacked rfl, hvalue',
      nearestGrade_add_of_lt hpacked.1 zero_le_two hhalf]

/-- No sum of a number up to another one and of a number up to two is larger than four times the
other one, if that is not below one. -/
theorem add_le_four_mul (ha : 0.0 ≤ a) (hag : a ≤ g) (hg : g.isFinite) (hone : 1.0 ≤ g)
    (hb : 0.0 ≤ b) (htwo : b ≤ 2.0) :
    (a + b).isFinite ∧ 0 ≤ value (a + b) ∧ value (a + b) ≤ 4 * value g := by
  have hfa := isFinite_of_le ha hg hag
  have hfb := isFinite_of_le hb rfl htwo
  have hlow : 0 ≤ value a + value b := add_nonneg (value_nonneg hfa ha) (value_nonneg hfb hb)
  have hhigh : value a + value b ≤ value g + 2 :=
    add_le_add (value_le_value hfa hg hag) (value_two ▸ value_le_value hfb rfl htwo)
  obtain ⟨hthere, hgrade⟩ := grade_add hfa hfb
  obtain ⟨z, hz, hfz, hbound, hvalue⟩ :=
    exists_isPacked_add_two hg (value_one ▸ value_le_value rfl hg hone)
  have hle : grade (a + b) ≤ gradeOf z :=
    hgrade.trans_le ((nearestGrade_mono hhigh).trans hbound)
  have hnonneg : 0.0 ≤ a + b := zero_le_iff_grade.2 ⟨hthere, hgrade ▸ nearestGrade_nonneg hlow⟩
  rcases eq_infinity_or_value_nonneg hnonneg with hinfinite | ⟨hfinite, hvalue'⟩
  · have hlimit := (gradeOf_lt_of_isFinite hz hfz).2
    rw [grade, hinfinite] at hle
    exact absurd (hle.trans_lt hlimit) (lt_irrefl infinityGrade)
  · have hz' : value (a + b) ≤ valueOf z :=
      valueOf_le_valueOf (isPacked_unpack _) hz hfinite hfz hle
    exact ⟨hfinite, hvalue', hz'.trans hvalue⟩

/-- A half less than a number that is not below zero. -/
lemma sub_half_mem (ha : a.isFinite) (hnonneg : 0 ≤ value a) :
    (a - 0.5).isFinite ∧ -(1 / 2) ≤ value (a - 0.5) ∧ value (a - 0.5) ≤ value a := by
  have hhigh : a - 0.5 ≤ a := sub_le_of_nonneg ha (by decide)
  have hlow : -0.5 ≤ a - 0.5 := by
    obtain ⟨hthere, hgrade⟩ := grade_sub ha (b := 0.5) rfl
    rw [le_iff_grade, hgrade, grade_eq_nearestGrade rfl, value_neg_half, value_half]
    exact ⟨rfl, hthere, nearestGrade_mono (by linarith)⟩
  have hfinite : (a - 0.5).isFinite := isFinite_of_le_of_le rfl ha hlow hhigh
  exact ⟨hfinite, value_neg_half ▸ value_le_value rfl hfinite hlow,
    value_le_value hfinite ha hhigh⟩

end Float32

end Detection
