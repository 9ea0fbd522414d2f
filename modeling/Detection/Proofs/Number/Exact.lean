/-
# Exact numbers

The formulas that are written over any kind of number can be read without rounding: in the
rationals, or in the reals where a square root is taken.

## Main definitions

* `Scalar.ofField`: the operations of an ordered field, as the formulas use them.
-/
import Detection.Number.Line
import Mathlib.Algebra.BigOperators.Group.List.Basic
import Mathlib.Analysis.Real.Sqrt
import Mathlib.Tactic.NormNum

namespace Detection

namespace Scalar

/-- The operations of an ordered field. -/
abbrev ofField (K : Type) [Field K] [LinearOrder K] : Scalar K where
  decideLT a b := inferInstanceAs (Decidable (a < b))
  ofNat n := n
  abs a := |a|
  least := min
  greatest := max

end Scalar

instance : Scalar ℚ := .ofField ℚ

noncomputable instance : RootScalar ℝ where
  toScalar := .ofField ℝ
  sqrt := Real.sqrt

namespace Scalar

variable {K : Type} [Field K] [LinearOrder K]

/-- The zero of the formulas is that of the field. -/
lemma zero_ofField [IsStrictOrderedRing K] : (0.0 : K) = 0 := by
  norm_num

lemma sum_ofField [IsStrictOrderedRing K] (values : List K) :
    @sum K (.ofField K) values = values.sum := by
  change values.foldl (· + ·) 0.0 = values.sum
  rw [zero_ofField, List.sum_eq_foldl]

lemma isTiny_ofField_eq_false_iff {x : K} :
    @isTiny K (.ofField K) x = false ↔ 1e-6 ≤ |x| := by
  change decide (|x| < 1e-6) = false ↔ _
  rw [decide_eq_false_iff_not, not_lt]

lemma isTiny_ofField_of_le {x : K} (h : 1e-6 ≤ x) : @isTiny K (.ofField K) x = false :=
  isTiny_ofField_eq_false_iff.2 (h.trans (le_abs_self x))

lemma isMinute_ofField_eq_false_iff {x : K} :
    @isMinute K (.ofField K) x = false ↔ 1e-15 ≤ |x| := by
  change decide (|x| < 1e-15) = false ↔ _
  rw [decide_eq_false_iff_not, not_lt]

end Scalar

namespace Line

variable {K : Type} [Field K] [LinearOrder K] [IsStrictOrderedRing K] {xs ys : List K}

lemma spread_ofField (xs : List K) :
    @spread K (.ofField K) xs =
      xs.length * (xs.map fun x => x * x).sum - xs.sum * xs.sum := by
  let _ := Scalar.ofField K
  rw [spread, Scalar.sum_ofField, Scalar.sum_ofField]
  rfl

/-- Where the abscissae spread, a line is fitted by the closed formulas. -/
lemma fit_ofField (hne : xs ≠ []) (hlength : xs.length = ys.length)
    (hspread : 1e-15 ≤ |@spread K (.ofField K) xs|) :
    let slope := (xs.length * (List.zipWith (· * ·) xs ys).sum - xs.sum * ys.sum) /
      @spread K (.ofField K) xs
    @fit K (.ofField K) xs ys = ⟨slope, (ys.sum - slope * xs.sum) / xs.length⟩ := by
  let _ := Scalar.ofField K
  have hgood : (xs.isEmpty || xs.length != ys.length) = false := by
    simp [hne, hlength]
  rw [fit, hgood]
  simp only [Scalar.sum_ofField, Scalar.isMinute_ofField_eq_false_iff.2 hspread]
  rfl

end Line

end Detection
