/-
# The order of operands

Sums and products of 32-bit numbers do not depend on the order of their operands.  A difference
taken the other way round is the negative one, the sign of a zero apart, so its square is the same;
and numbers that are alike can be put for each other in every product, quotient and comparison, as
long as nothing is divided by a zero.

The main results are `Float32.add_comm`, `Float32.mul_self_sub_comm` and `Float32.Alike.lt_iff`.
-/
import Detection.Proofs.Number.Missing
import Detection.Proofs.Number.Scaling
import Detection.Proofs.Number.Zeros

namespace Detection

open Float.Model (UnpackedFloat)
open Float.Model.UnpackedFloat (Sign)

section Unpacked

variable {x y : UnpackedFloat}

lemma unpacked_add_comm (x y : UnpackedFloat) :
    UnpackedFloat.add .binary32 x y = .add .binary32 y x := by
  -- Only of two finite numbers there are digits to add; the other sums are looked up.
  rcases x with s | _ | s | ⟨s, m, e, hm⟩ <;> rcases y with s' | _ | s' | ⟨s', m', e', hm'⟩
  case infinity.infinity => cases s <;> cases s' <;> rfl
  case zero.zero => cases s <;> cases s' <;> rfl
  case finite.finite =>
    simp only [UnpackedFloat.add]
    rw [Int.add_comm, Int.min_comm]
  all_goals rfl

lemma isPacked_neg (h : IsPacked x) : IsPacked x.neg := by
  rcases x with s | _ | s | ⟨s, m, e, hm⟩
  · trivial
  · trivial
  · trivial
  · exact h

lemma gradeOf_neg (x : UnpackedFloat) : gradeOf x.neg = -gradeOf x := by
  rcases x with (_ | _) | _ | _ | ⟨_ | _, m, e, hm⟩
  · rfl
  · rfl
  · rfl
  · rfl
  · exact (neg_neg _).symm
  · rfl

lemma valueOf_neg (x : UnpackedFloat) : valueOf x.neg = -valueOf x := by
  rcases x with s | _ | s | ⟨s, m, e, hm⟩
  case finite =>
    change valueOf (.finite (-s) m e hm) = -valueOf (.finite s m e hm)
    rw [valueOf_finite, valueOf_finite, apply_one_neg, neg_mul]
  all_goals exact neg_zero.symm

lemma unpacked_isFinite_neg (x : UnpackedFloat) : x.neg.isFinite = x.isFinite := by
  cases x <;> rfl

lemma mul_neg_neg (x : UnpackedFloat) :
    UnpackedFloat.mul .binary32 x.neg x.neg = .mul .binary32 x x := by
  rcases x with s | _ | s | ⟨s, m, e, hm⟩
  · cases s <;> rfl
  · rfl
  · cases s <;> rfl
  · cases s <;> rfl

/-- What is infinite or missing is so in a difference, too, and nothing is rounded. -/
lemma sub_eq_neg_sub (h : ¬ (x.isFinite = true ∧ y.isFinite = true)) :
    IsPacked (.sub .binary32 y x) ∧
      UnpackedFloat.sub .binary32 x y = (UnpackedFloat.sub .binary32 y x).neg := by
  rcases x with s | _ | s | ⟨s, m, e, hm⟩ <;> rcases y with s' | _ | s' | ⟨s', m', e', hm'⟩
  case infinity.infinity => cases s <;> cases s' <;> exact ⟨trivial, rfl⟩
  case infinity.zero | infinity.finite | zero.infinity | finite.infinity =>
    cases s <;> exact ⟨trivial, rfl⟩
  case zero.zero | zero.finite | finite.zero | finite.finite => exact absurd ⟨rfl, rfl⟩ h
  all_goals exact ⟨trivial, rfl⟩

/-- A number is not told from itself. -/
lemma compare_self (h : x.isNaN = false) : x.compare x = some .eq := by
  rcases x with s | _ | s | ⟨s, m, e, hm⟩
  · cases s <;> rfl
  · exact absurd h Bool.noConfusion
  · rfl
  · cases s <;> simp [UnpackedFloat.compare]

end Unpacked

namespace Float32

variable {a b c d : Float32}

/-! ## Exchanging operands -/

protected lemma add_comm (a b : Float32) : a + b = b + a :=
  congrArg (fun x => Float32.ofModel (.pack x)) (unpacked_add_comm _ _)

lemma unpack_neg (a : Float32) : (-a).toModel.unpack = a.toModel.unpack.neg :=
  have hpacked : IsPacked a.toModel.unpack.neg := isPacked_neg (isPacked_unpack _)
  (unpack_pack hpacked.isRounded).trans hpacked.limited_eq

lemma grade_neg (a : Float32) : grade (-a) = -grade a := by
  rw [grade, unpack_neg, gradeOf_neg]
  rfl

lemma value_neg (a : Float32) : value (-a) = -value a := by
  rw [value, unpack_neg, valueOf_neg]
  rfl

lemma isFinite_neg (a : Float32) : (-a).isFinite = a.isFinite := by
  change (-a).toModel.unpack.isFinite = a.toModel.unpack.isFinite
  rw [unpack_neg, unpacked_isFinite_neg]

lemma neg_isNaN (a : Float32) : (-a).isNaN = a.isNaN := by
  change (-a).toModel.unpack.isNaN = a.toModel.unpack.isNaN
  rw [unpack_neg, isNaN_neg]

lemma alike_of_grade_eq (ha : a.isNaN = false) (hb : b.isNaN = false) (h : grade a = grade b) :
    Alike a b :=
  alike_of_le_of_le (le_iff_grade.2 ⟨ha, hb, h.le⟩) (le_iff_grade.2 ⟨hb, ha, h.ge⟩)

/-- A difference taken the other way round is the negative one, the sign of a zero apart. -/
lemma alike_sub_comm (a b : Float32) : Alike (a - b) (-(b - a)) := by
  by_cases hfinite : a.isFinite ∧ b.isFinite
  · obtain ⟨ha, hb⟩ := hfinite
    obtain ⟨hthere, hgrade⟩ := grade_sub ha hb
    obtain ⟨hthere', hgrade'⟩ := grade_sub hb ha
    refine alike_of_grade_eq hthere ((neg_isNaN _).trans hthere') ?_
    rw [grade_neg, hgrade, hgrade', ← nearestGrade_neg, neg_sub]
  · -- What infinite numbers make is not told by grades, so the unpacked forms are compared.
    obtain ⟨hpacked, hneg⟩ := sub_eq_neg_sub hfinite
    have hunpack : (b - a).toModel.unpack = .sub .binary32 b.toModel.unpack a.toModel.unpack :=
      (unpack_pack hpacked.isRounded).trans hpacked.limited_eq
    refine .inl ?_
    change Float32.ofModel (.pack (.sub .binary32 a.toModel.unpack b.toModel.unpack)) =
      .ofModel (.pack (b - a).toModel.unpack.neg)
    rw [hunpack, hneg]

/-! ## Squares -/

lemma neg_mul_neg_self (a : Float32) : -a * -a = a * a := by
  change Float32.ofModel (.pack (.mul .binary32 (-a).toModel.unpack (-a).toModel.unpack)) =
    .ofModel (.pack (.mul .binary32 a.toModel.unpack a.toModel.unpack))
  rw [unpack_neg, mul_neg_neg]

/-- A square does not show the sign of a zero. -/
lemma Alike.mul_self (h : Alike a b) : a * a = b * b := by
  rcases h with rfl | ⟨rfl | rfl, rfl | rfl⟩ <;> rfl

/-- The square of a difference does not depend on what is taken from what. -/
theorem mul_self_sub_comm (a b : Float32) : (a - b) * (a - b) = (b - a) * (b - a) :=
  (alike_sub_comm a b).mul_self.trans (neg_mul_neg_self (b - a))

/-! ## Products and quotients of numbers that are alike -/

/-- An operation that makes zeros of zeros, or something missing whatever their sign, takes
zeros to what is alike. -/
lemma alike_of_isZero {f : UnpackedFloat → UnpackedFloat}
    (hf : (∀ s, f (.zero s) = .notANumber) ∨ ∀ s, ∃ s', f (.zero s) = .zero s') (ha : IsZero a)
    (hb : IsZero b) :
    Alike (.ofModel (.pack (f a.toModel.unpack))) (.ofModel (.pack (f b.toModel.unpack))) := by
  obtain ⟨s, hs⟩ := ha.exists_unpack_eq
  obtain ⟨s', hs'⟩ := hb.exists_unpack_eq
  rw [hs, hs']
  rcases hf with hnone | hzero
  · rw [hnone, hnone]
    exact .inl rfl
  · have hpack : ∀ t : Sign, IsZero (.ofModel (.pack (.zero t))) := by
      rintro (_ | _)
      · exact .inr rfl
      · exact .inl rfl
    obtain ⟨t, ht⟩ := hzero s
    obtain ⟨t', ht'⟩ := hzero s'
    rw [ht, ht']
    exact .inr ⟨hpack t, hpack t'⟩

lemma Alike.mul_right (h : Alike a b) (c : Float32) : Alike (a * c) (b * c) := by
  rcases h with rfl | ⟨ha, hb⟩
  · exact .inl rfl
  · refine alike_of_isZero (f := fun x => .mul .binary32 x c.toModel.unpack) ?_ ha hb
    rcases c.toModel.unpack with t | _ | t | ⟨t, m, e, hm⟩
    · exact .inl fun _ => rfl
    · exact .inl fun _ => rfl
    · exact .inr fun s => ⟨s * t, rfl⟩
    · exact .inr fun s => ⟨s * t, rfl⟩

lemma Alike.mul (hab : Alike a b) (hcd : Alike c d) : Alike (a * c) (b * d) := by
  have hright : Alike (b * c) (b * d) := by
    rw [Float32.mul_comm b c, Float32.mul_comm b d]
    exact hcd.mul_right b
  exact (hab.mul_right c).trans hright

lemma Alike.div_right (h : Alike a b) (c : Float32) : Alike (a / c) (b / c) := by
  rcases h with rfl | ⟨ha, hb⟩
  · exact .inl rfl
  · refine alike_of_isZero (f := fun x => .div .binary32 x c.toModel.unpack) ?_ ha hb
    rcases c.toModel.unpack with t | _ | t | ⟨t, m, e, hm⟩
    · exact .inr fun s => ⟨s / t, rfl⟩
    · exact .inl fun _ => rfl
    · exact .inl fun _ => rfl
    · exact .inr fun s => ⟨s / t, rfl⟩

/-! ## Comparing numbers that are alike -/

lemma Alike.isNaN_eq (h : Alike a b) : a.isNaN = b.isNaN := by
  rcases h with rfl | ⟨rfl | rfl, rfl | rfl⟩ <;> rfl

lemma Alike.grade_eq (h : Alike a b) : grade a = grade b := by
  rcases h with rfl | ⟨ha, hb⟩
  · rfl
  · rw [(isZero_iff_grade.1 ha).2, (isZero_iff_grade.1 hb).2]

lemma Alike.isTiny_eq (h : Alike a b) : Scalar.isTiny a = Scalar.isTiny b := by
  rcases h with rfl | ⟨ha, hb⟩
  · rfl
  · rw [ha.isTiny, hb.isTiny]

theorem Alike.lt_iff (hab : Alike a b) (hcd : Alike c d) : a < c ↔ b < d := by
  rw [lt_iff_grade, lt_iff_grade, hab.isNaN_eq, hcd.isNaN_eq, hab.grade_eq, hcd.grade_eq]

/-- Numbers that are alike compare equal, unless they are missing. -/
lemma Alike.isNaN_or_beq (h : Alike a b) :
    a.isNaN = true ∧ b.isNaN = true ∨ (a == b) = true := by
  rcases h with rfl | ⟨rfl | rfl, rfl | rfl⟩
  · cases hthere : a.isNaN
    · have hsame : (a == a) = (a.toModel.unpack.compare a.toModel.unpack == some .eq) := rfl
      rw [hsame, compare_self hthere]
      exact .inr rfl
    · exact .inl ⟨rfl, rfl⟩
  all_goals exact .inr rfl

end Float32
end Detection
