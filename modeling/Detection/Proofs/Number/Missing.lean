/-
# Where missing numbers come from

A bit pattern stands for no number if it has the last exponent and a mantissa.  Rounding never
gives such a pattern, and neither does packing what is rounded, so a numeral is read as a missing
number only if it says so itself: the word for a missing number, with or without a sign.

The case principle of `unpack` comes from Batteries, and no module of Mathlib but the whole of it
brings this.
-/
import Detection.Number.Reading
import Detection.Proofs.Number.Order
import Mathlib

namespace Detection

open Float.Model (UnpackedFloat Format)
open Float.Model.UnpackedFloat (Sign Accuracy pack unpack unpackExponent unpackMantissa)

/-! ## Bit patterns -/

section Patterns

variable {spec : Format}

lemma isNaN_unpack_iff {b : BitVec spec.numBits} :
    (unpack spec b).isNaN = true ↔ unpackExponent b = -1#_ ∧ unpackMantissa b ≠ 0#_ := by
  fun_cases unpack spec b with
  | case1 _ _ _ _ hlast hnone => exact iff_of_false Bool.false_ne_true fun h => h.2 hnone
  | case2 _ _ hlast hnone => exact iff_of_true rfl ⟨hlast, hnone⟩
  | case3 _ _ _ _ hlast => exact iff_of_false Bool.false_ne_true fun h => hlast h.1
  | case4 _ _ _ _ _ hlast => exact iff_of_false Bool.false_ne_true fun h => hlast h.1
  | case5 _ _ _ _ _ hlast => exact iff_of_false Bool.false_ne_true fun h => hlast h.1

/-- Packing makes no number missing, however far it is from being rounded. -/
lemma isNaN_unpack_pack {x : UnpackedFloat} (h : x.isNaN = false) :
    (unpack spec (pack spec x)).isNaN = false := by
  rw [← Bool.not_eq_true, isNaN_unpack_iff]
  fun_cases pack spec x with
  | case1 => exact absurd h (by simp [isNaN_notANumber])
  | case2 s => simp [UnpackedFloat.packedInfinity]
  | case3 s => simp [UnpackedFloat.packedZero]
  | case4 s m e hm exponent hlarge => simp [UnpackedFloat.packedInfinity]
  | case5 s m e hm digits exponent hlarge hnormal =>
    -- The exponent stays below the last one, so it is not the last one.
    suffices exponent % 2 ^ spec.exponentBits ≠ 2 ^ spec.exponentBits - 1 by
      simp [BitVec.neg_one_eq_allOnes, ← BitVec.toNat_inj, this]
    rw [Nat.mod_eq_of_lt (by omega)]
    omega
  | case6 s m e hm digits exponent hlarge hnormal => simp [Nat.pos_iff_ne_zero.1 spec.he]

end Patterns

/-! ## Rounding -/

section Rounding

variable {spec : Format}

lemma isNaN_neg (x : UnpackedFloat) : x.neg.isNaN = x.isNaN := by
  cases x <;> rfl

lemma isNaN_roundWithAccuracy (s : Sign) (m : ℕ) (e : ℤ) (accuracy : Accuracy) :
    (UnpackedFloat.roundWithAccuracy spec s m e accuracy).isNaN = false := by
  fun_cases UnpackedFloat.roundWithAccuracy spec s m e accuracy with
  | case1 => exact isNaN_zero s
  | case2 => exact isNaN_finite s _ _ _

/-- A decimal has a nearest number, if only infinity. -/
lemma isNaN_ofScientific (units : ℕ) (exponent : ℤ) :
    (UnpackedFloat.ofScientific spec units exponent).isNaN = false := by
  unfold UnpackedFloat.ofScientific
  split_ifs
  · exact isNaN_zero .positive
  · exact isNaN_infinity .positive
  · exact isNaN_zero .positive
  · exact isNaN_roundWithAccuracy _ _ _ _
  · exact isNaN_roundWithAccuracy _ _ _ _

/-- A decimal with a sign is read as a number that is there, in every format. -/
lemma isNaN_packed_decimal (units : ℕ) (exponent : ℤ) :
    (unpack spec (pack spec (UnpackedFloat.ofScientific spec units exponent))).isNaN = false ∧
      (unpack spec (pack spec (UnpackedFloat.neg
        (unpack spec (pack spec (UnpackedFloat.ofScientific spec units exponent)))))).isNaN =
          false := by
  have hplain : (unpack spec (pack spec (.ofScientific spec units exponent))).isNaN = false :=
    isNaN_unpack_pack (isNaN_ofScientific units exponent)
  refine ⟨hplain, isNaN_unpack_pack ?_⟩
  rw [isNaN_neg, hplain]

end Rounding

/-! ## Numerals -/

namespace Numeral

/-- A numeral stands for a missing 32-bit number exactly if it is the one that says so. -/
lemma isNaN_toFloat32_iff (n : Numeral) : n.toFloat32.isNaN = true ↔ n = .missing := by
  rcases n with _ | (_ | _) | ⟨_ | _, d⟩
  · exact ⟨fun _ => rfl, fun _ => rfl⟩
  · exact iff_of_false (by decide) nofun
  · exact iff_of_false (by decide) nofun
  · have h : d.toFloat32.isNaN = false := (isNaN_packed_decimal d.units d.exponent).1
    exact iff_of_false (Bool.eq_false_iff.1 h) nofun
  · have h : (-d.toFloat32).isNaN = false := (isNaN_packed_decimal d.units d.exponent).2
    exact iff_of_false (Bool.eq_false_iff.1 h) nofun

/-- A numeral stands for a missing 64-bit number exactly if it is the one that says so. -/
lemma isNaN_toFloat_iff (n : Numeral) : n.toFloat.isNaN = true ↔ n = .missing := by
  rcases n with _ | (_ | _) | ⟨_ | _, d⟩
  · exact ⟨fun _ => rfl, fun _ => rfl⟩
  · exact iff_of_false (by decide) nofun
  · exact iff_of_false (by decide) nofun
  · have h : d.toFloat.isNaN = false := (isNaN_packed_decimal d.units d.exponent).1
    exact iff_of_false (Bool.eq_false_iff.1 h) nofun
  · have h : (-d.toFloat).isNaN = false := (isNaN_packed_decimal d.units d.exponent).2
    exact iff_of_false (Bool.eq_false_iff.1 h) nofun

end Numeral

/-! ## Spellings -/

namespace Text

/-- The words for a missing number. -/
def missingWords : List (List Char) :=
  [['n', 'a', 'n'], ['+', 'n', 'a', 'n'], ['-', 'n', 'a', 'n']]

/-- A text is a word for a missing number, in small or capital letters. -/
def SpellsMissing (text : List Char) : Prop := lower text ∈ missingWords

lemma toLower_eq_iff {c d : Char} (hd : d.toNat < 'a'.toNat) (hd' : d.toLower = d) :
    c.toLower = d ↔ c = d := by
  constructor
  · intro h
    unfold Char.toLower at h
    split_ifs at h with hc
    · -- A capital letter becomes a small one, and no small letter comes before the first.
      have hval : (c.val + 32).toNat = d.toNat := congrArg Char.toNat h
      have hlow : 65 ≤ c.val.toNat := hc.1
      have hhigh : c.val.toNat ≤ 90 := hc.2
      rw [UInt32.toNat_add] at hval
      change d.toNat < 97 at hd
      change (c.val.toNat + 32) % 4294967296 = _ at hval
      omega
    · exact h
  · rintro rfl
    exact hd'

lemma magnitude?_eq_missing_iff {negative : Bool} {text : List Char} :
    magnitude? negative text = some .missing ↔ lower text = ['n', 'a', 'n'] := by
  unfold magnitude?
  dsimp only
  split_ifs with hmissing hinfinite
  · simp [hmissing]
  · simp [hmissing]
  · simp [hmissing]

/-- A text is read as the numeral for a missing number exactly if it spells it. -/
theorem numeral?_eq_missing_iff {text : List Char} :
    numeral? text = some .missing ↔ SpellsMissing text := by
  have hplus : ∀ c : Char, c.toLower = '+' ↔ c = '+' := fun c => toLower_eq_iff (by decide) rfl
  have hminus : ∀ c : Char, c.toLower = '-' ↔ c = '-' := fun c => toLower_eq_iff (by decide) rfl
  unfold SpellsMissing missingWords
  rcases text with _ | ⟨c, rest⟩
  · simp [numeral?, magnitude?_eq_missing_iff, lower]
  · by_cases hp : c = '+'
    · subst hp
      simp [numeral?, magnitude?_eq_missing_iff, lower]
    · by_cases hm : c = '-'
      · subst hm
        simp [numeral?, magnitude?_eq_missing_iff, lower]
      · simp [numeral?, magnitude?_eq_missing_iff, lower, hplus, hminus, hp, hm]

end Text

end Detection
