/-
# The two zeros

Comparing does not tell the two zeros apart.  So which of two zeros is taken for the larger one
depends on which is named first, but this is all that depends on it; and the sign of a zero is
lost again as soon as one is added.

## Main definitions

* `IsZero`: a number is one of the two zeros.
* `Alike`: two numbers are the same, the sign of a zero apart.
-/
import Detection.Number.Scalar
import Detection.Proofs.Number.Rank

namespace Detection

open Float.Model (UnpackedFloat)
open Float.Model.UnpackedFloat (Sign)

namespace Float32

/-- A number is one of the two zeros. -/
def IsZero (a : Float32) : Prop :=
  a = 0.0 ∨ a = -0.0

instance (a : Float32) : Decidable (IsZero a) :=
  inferInstanceAs (Decidable (a = 0.0 ∨ a = -0.0))

/-- Two numbers are the same, the sign of a zero apart. -/
def Alike (a b : Float32) : Prop :=
  a = b ∨ IsZero a ∧ IsZero b

variable {a b c d : Float32}

/-! ## Telling numbers apart -/

/-- There is one missing number only. -/
lemma eq_of_isNaN (ha : a.isNaN = true) (hb : b.isNaN = true) : a = b := by
  rw [← rank_inj, rank_of_isNaN ha, rank_of_isNaN hb]

/-- The zeros are the numbers of grade zero. -/
lemma isZero_iff_grade : IsZero a ↔ a.isNaN = false ∧ grade a = 0 := by
  constructor
  · rintro (rfl | rfl)
    · exact ⟨rfl, rfl⟩
    · exact ⟨rfl, rfl⟩
  · rintro ⟨hthere, hgrade⟩
    have hzero : rank 0.0 = 0 := by decide
    have hminus : rank (-0.0) = -1 := by decide
    rcases rank_eq_grade_or hthere with ⟨-, hrank⟩ | ⟨-, hrank⟩
    · exact .inl (rank_inj.1 (by rw [hrank, hgrade, hzero]))
    · exact .inr (rank_inj.1 (by rw [hrank, hgrade, hminus]; rfl))

/-- A zero has no digits. -/
lemma IsZero.exists_unpack_eq (h : IsZero a) : ∃ s, a.toModel.unpack = .zero s := by
  rcases h with rfl | rfl
  · exact ⟨.positive, rfl⟩
  · exact ⟨.negative, rfl⟩

lemma isZero_of_unpack_eq_zero {s : Sign} (h : a.toModel.unpack = .zero s) : IsZero a := by
  refine isZero_iff_grade.2 ⟨?_, ?_⟩
  · change a.toModel.unpack.isNaN = false
    rw [h, isNaN_zero]
  · rw [grade, h]
    rfl

/-- A zero is too close to zero to divide by. -/
lemma IsZero.isTiny (h : IsZero a) : Scalar.isTiny a = true := by
  rcases h with rfl | rfl <;> decide

/-- Numbers that are not apart in the order are alike. -/
lemma alike_of_le_of_le (hab : a ≤ b) (hba : b ≤ a) : Alike a b := by
  obtain ⟨ha, hb, hle⟩ := le_iff_grade.1 hab
  have hgrade : grade a = grade b := le_antisymm hle (le_iff_grade.1 hba).2.2
  by_cases hzero : grade a = 0
  · exact .inr ⟨isZero_iff_grade.2 ⟨ha, hzero⟩, isZero_iff_grade.2 ⟨hb, hgrade ▸ hzero⟩⟩
  · -- The sign of all other numbers is that of their grade, so they have one rank.
    have hranka := rank_eq_grade_or ha
    have hrankb := rank_eq_grade_or hb
    exact .inl (rank_inj.1 (by omega))

/-- There is one positive infinity only. -/
lemma eq_infinity32 (h : a.toModel.unpack = .infinity .positive) : a = infinity32 := by
  have hthere : a.isNaN = false := by
    change a.toModel.unpack.isNaN = false
    rw [h]
    rfl
  have halike : Alike a infinity32 :=
    alike_of_le_of_le (le_of_unpack_eq_infinity hthere rfl) (le_of_unpack_eq_infinity rfl h)
  exact halike.resolve_right fun hzero => absurd hzero.2 (by decide)

lemma Alike.trans (hab : Alike a b) (hbc : Alike b c) : Alike a c := by
  rcases hab with rfl | ⟨ha, hb⟩
  · exact hbc
  · rcases hbc with rfl | ⟨-, hc⟩
    · exact .inr ⟨ha, hb⟩
    · exact .inr ⟨ha, hc⟩

/-! ## The larger and the smaller of two numbers -/

/-- Of two numbers the second one if a relation leads from the first one to it, and otherwise the
first one; of a missing number and another one the other one.  It hardly matters which of the two
is named first, if the relation leads one way between all numbers that are not alike. -/
lemma alike_ite_comm {R : Float32 → Float32 → Prop} [DecidableRel R]
    (hthere : ∀ a b, R a b → a.isNaN = false ∧ b.isNaN = false)
    (hasymm : ∀ a b, R a b → ¬ R b a)
    (halike : ∀ a b, a.isNaN = false → b.isNaN = false → ¬ R a b → ¬ R b a → Alike a b)
    (a b : Float32) :
    Alike (if a.isNaN then b else if R a b then b else a)
      (if b.isNaN then a else if R b a then a else b) := by
  cases ha : a.isNaN <;> cases hb : b.isNaN
  · by_cases hab : R a b
    · exact .inl (by simp [hab, hasymm a b hab])
    · by_cases hba : R b a
      · exact .inl (by simp [hab, hba])
      · simpa [hab, hba] using halike a b ha hb hab hba
  · have hab : ¬ R a b := fun h => Bool.eq_false_iff.1 (hthere a b h).2 hb
    exact .inl (by simp [hab])
  · have hba : ¬ R b a := fun h => Bool.eq_false_iff.1 (hthere b a h).2 ha
    exact .inl (by simp [hba])
  · exact .inl (by simpa using (eq_of_isNaN ha hb).symm)

lemma lt_asymm (hab : a < b) : ¬ b < a := fun hba =>
  Float32.lt_irrefl a (Float32.lt_trans hab hba)

lemma alike_of_not_lt (ha : a.isNaN = false) (hb : b.isNaN = false) (hab : ¬ a < b)
    (hba : ¬ b < a) : Alike a b :=
  alike_of_le_of_le ((Float32.not_lt hb ha).1 hba) ((Float32.not_lt ha hb).1 hab)

lemma greatest32_eq_or (a b : Float32) : greatest32 a b = a ∨ greatest32 a b = b := by
  unfold greatest32
  split_ifs <;> simp

lemma least32_eq_or (a b : Float32) : least32 a b = a ∨ least32 a b = b := by
  unfold least32
  split_ifs <;> simp

lemma alike_greatest32_comm (a b : Float32) : Alike (greatest32 a b) (greatest32 b a) := by
  refine alike_ite_comm (R := (· < ·)) (fun a b h => ?_) (fun a b => lt_asymm)
    (fun a b => alike_of_not_lt) a b
  obtain ⟨ha, hb, -⟩ := lt_iff.1 h
  exact ⟨ha, hb⟩

lemma alike_least32_comm (a b : Float32) : Alike (least32 a b) (least32 b a) := by
  refine alike_ite_comm (R := (· > ·)) (fun a b h => ?_) (fun a b => lt_asymm)
    (fun a b ha hb hab hba => alike_of_not_lt ha hb hba hab) a b
  obtain ⟨hb, ha, -⟩ := lt_iff.1 h
  exact ⟨ha, hb⟩

/-- Of two numbers that are no zeros there is one larger one. -/
lemma greatest32_comm (ha : ¬ IsZero a) (hb : ¬ IsZero b) : greatest32 a b = greatest32 b a := by
  refine (alike_greatest32_comm a b).resolve_right fun hzero => ?_
  rcases greatest32_eq_or a b with h | h
  · exact ha (h ▸ hzero.1)
  · exact hb (h ▸ hzero.1)

/-- Of two numbers that are no zeros there is one smaller one. -/
lemma least32_comm (ha : ¬ IsZero a) (hb : ¬ IsZero b) : least32 a b = least32 b a := by
  refine (alike_least32_comm a b).resolve_right fun hzero => ?_
  rcases least32_eq_or a b with h | h
  · exact ha (h ▸ hzero.1)
  · exact hb (h ▸ hzero.1)

/-! ## Sums and differences -/

/-- Taking a zero away leaves everything but a zero as it is. -/
lemma sub_eq_of_isZero (ha : ¬ IsZero a) (hb : IsZero b) :
    a - b = .ofModel (.pack a.toModel.unpack) := by
  obtain ⟨s, hs⟩ := hb.exists_unpack_eq
  change Float32.ofModel (.pack (.sub .binary32 a.toModel.unpack b.toModel.unpack)) = _
  rw [hs]
  rcases hx : a.toModel.unpack with _ | _ | s' | _
  · rfl
  · rfl
  · exact absurd (isZero_of_unpack_eq_zero hx) ha
  · rfl

/-- Taking something else away from a zero does not leave the sign of the zero. -/
lemma eq_sub_of_isZero (ha : IsZero a) (hb : ¬ IsZero b) :
    a - b = .ofModel (.pack b.toModel.unpack.neg) := by
  obtain ⟨s, hs⟩ := ha.exists_unpack_eq
  change Float32.ofModel (.pack (.sub .binary32 a.toModel.unpack b.toModel.unpack)) = _
  rw [hs]
  rcases hx : b.toModel.unpack with _ | _ | s' | _
  · rfl
  · rfl
  · exact absurd (isZero_of_unpack_eq_zero hx) hb
  · rfl

lemma isZero_sub (ha : IsZero a) (hb : IsZero b) : IsZero (a - b) := by
  rcases ha with rfl | rfl <;> rcases hb with rfl | rfl <;> decide

lemma Alike.sub (hab : Alike a b) (hcd : Alike c d) : Alike (a - c) (b - d) := by
  have hright : Alike (a - c) (a - d) := by
    rcases hcd with rfl | ⟨hc, hd⟩
    · exact .inl rfl
    · by_cases ha : IsZero a
      · exact .inr ⟨isZero_sub ha hc, isZero_sub ha hd⟩
      · exact .inl ((sub_eq_of_isZero ha hc).trans (sub_eq_of_isZero ha hd).symm)
  have hleft : Alike (a - d) (b - d) := by
    rcases hab with rfl | ⟨ha, hb⟩
    · exact .inl rfl
    · by_cases hd : IsZero d
      · exact .inr ⟨isZero_sub ha hd, isZero_sub hb hd⟩
      · exact .inl ((eq_sub_of_isZero ha hd).trans (eq_sub_of_isZero hb hd).symm)
  exact hright.trans hleft

/-- Adding one leaves no zero. -/
lemma Alike.add_one (h : Alike a b) : a + 1.0 = b + 1.0 := by
  rcases h with rfl | ⟨rfl | rfl, rfl | rfl⟩ <;> rfl

end Float32

end Detection
