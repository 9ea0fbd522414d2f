/-
# Finite numbers written as text

Whatever the style, a finite number is written as digits, perhaps with a point and digits behind
it, and perhaps with a signed power of ten.  Every such text is a numeral, and it holds neither
blanks nor commas.

## Main definitions

* `Text.IsDecimal`: a decimal as it is written, without a sign.
* `Text.IsNumeral`: the same with or without a minus.

The main results are `Text.IsNumeral.exists_numeral?` and `Json.Number.IsFinite.isNumeral_write`.
-/
import Detection.Json.Number
import Detection.Proofs.Json.Numbers
import Detection.Proofs.Text.Lines
import Mathlib.Tactic.FinCases

namespace Detection

namespace Text

variable {text digits rest : List Char} {c : Char}

/-! ## Decimals -/

/-- A point with digits behind it, or nothing. -/
inductive IsFraction : List Char → Prop where
  /-- There is no point. -/
  | none : IsFraction []
  /-- There is a point. -/
  | point {digits : List Char} (hdigits : ∀ c ∈ digits, isDigit c) : IsFraction ('.' :: digits)

/-- A power of ten with its sign, or nothing. -/
inductive IsExponent : List Char → Prop where
  /-- There is no power of ten. -/
  | none : IsExponent []
  /-- There is a power of ten. -/
  | signed {sign : Char} {digits : List Char} (hsign : sign = '+' ∨ sign = '-')
      (hne : digits ≠ []) (hdigits : ∀ c ∈ digits, isDigit c) : IsExponent ('e' :: sign :: digits)

/-- Digits, perhaps with a point and digits behind it, and perhaps with a power of ten. -/
inductive IsDecimal : List Char → Prop where
  /-- The digits before the point, and what follows them. -/
  | mk {whole fraction exponent : List Char} (hne : whole ≠ []) (hwhole : ∀ c ∈ whole, isDigit c)
      (hfraction : IsFraction fraction) (hexponent : IsExponent exponent) :
      IsDecimal (whole ++ (fraction ++ exponent))

/-- A decimal with or without a minus. -/
def IsNumeral (text : List Char) : Prop :=
  ∃ decimal, IsDecimal decimal ∧ (text = decimal ∨ text = '-' :: decimal)

lemma isDigit_iff : isDigit c ↔ '0'.toNat ≤ c.toNat ∧ c.toNat ≤ '9'.toNat := by
  rw [isDigit, Bool.and_eq_true, decide_eq_true_iff, decide_eq_true_iff]
  rfl

lemma takeWhile_isDigit_append (hdigits : ∀ c ∈ digits, isDigit c)
    (hrest : ∀ c ∈ rest.head?, ¬ isDigit c) : (digits ++ rest).takeWhile isDigit = digits ∧
      (digits ++ rest).dropWhile isDigit = rest := by
  rw [List.takeWhile_append_of_pos hdigits, List.dropWhile_append_of_pos hdigits]
  rcases rest with _ | ⟨c, rest⟩
  · simp
  · have hc : ¬ isDigit c := hrest c rfl
    rw [List.takeWhile_cons_of_neg hc, List.dropWhile_cons_of_neg hc, List.append_nil]
    exact ⟨rfl, rfl⟩

lemma natural?_eq (hne : digits ≠ []) (hdigits : ∀ c ∈ digits, isDigit c) :
    natural? digits = some (digitsValue digits) := by
  have hempty : digits.isEmpty = false := List.isEmpty_eq_false_iff.2 hne
  rw [natural?, hempty, List.all_eq_true.2 hdigits]
  rfl

lemma IsExponent.not_isDigit_head (h : IsExponent text) : ∀ c ∈ text.head?, ¬ isDigit c := by
  cases h with
  | none => nofun
  | signed =>
    rintro c ⟨⟩
    decide

lemma IsExponent.exists_exponent? (h : IsExponent text) :
    ∃ exponent, exponent? text = some exponent := by
  cases h with
  | none => exact ⟨0, rfl⟩
  | signed hsign hne hdigits =>
    rw [exponent?, if_pos (.inl rfl)]
    rcases hsign with rfl | rfl
    · rw [signed?, natural?_eq hne hdigits]
      exact ⟨_, rfl⟩
    · rw [signed?, natural?_eq hne hdigits]
      exact ⟨_, rfl⟩

/-- What follows the digits before the point is taken apart as it was put together. -/
lemma fraction_append {part exponent : List Char} (hpart : IsFraction part)
    (hexponent : IsExponent exponent) :
    ∃ digits, fraction (part ++ exponent) = (digits, exponent) := by
  cases hpart with
  | none =>
    cases hexponent with
    | none => exact ⟨[], rfl⟩
    | signed => exact ⟨[], rfl⟩
  | @point digits hdigits =>
    obtain ⟨htake, hdrop⟩ := takeWhile_isDigit_append hdigits hexponent.not_isDigit_head
    refine ⟨digits, ?_⟩
    rw [List.cons_append, fraction, htake, hdrop]

lemma IsDecimal.exists_decimal? (h : IsDecimal text) : ∃ d, decimal? text = some d := by
  obtain @⟨whole, part, exponent, hne, hwhole, hpart, hexponent⟩ := h
  have hhead : ∀ c ∈ (part ++ exponent).head?, ¬ isDigit c := by
    cases hpart with
    | none => exact hexponent.not_isDigit_head
    | point =>
      rintro c ⟨⟩
      decide
  obtain ⟨htake, hdrop⟩ := takeWhile_isDigit_append hwhole hhead
  obtain ⟨digits, hfraction⟩ := fraction_append hpart hexponent
  obtain ⟨power, hpower⟩ := hexponent.exists_exponent?
  have hempty : whole.isEmpty = false := List.isEmpty_eq_false_iff.2 hne
  simp [decimal?, htake, hdrop, hfraction, hpower, hempty]

/-! ## Numerals -/

lemma toLower_of_isDigit (h : isDigit c) : c.toLower = c := by
  have hlimit := (isDigit_iff.1 h).2
  unfold Char.toLower
  rw [dif_neg]
  rintro ⟨hlow, -⟩
  have hlow' : 'A'.toNat ≤ c.toNat := hlow
  exact absurd (hlow'.trans hlimit) (by decide)

lemma IsDecimal.exists_head (h : IsDecimal text) : ∃ c rest, text = c :: rest ∧ isDigit c := by
  obtain ⟨hne, hwhole, -, -⟩ := h
  obtain ⟨c, rest, rfl⟩ := List.exists_cons_of_ne_nil hne
  exact ⟨c, _, rfl, hwhole c List.mem_cons_self⟩

/-- A text that begins with a digit is none of the words for numbers that are not finite. -/
lemma IsDecimal.exists_magnitude? (h : IsDecimal text) (negative : Bool) :
    ∃ numeral, magnitude? negative text = some numeral := by
  obtain ⟨c, rest, heq, hc⟩ := h.exists_head
  obtain ⟨d, hd⟩ := h.exists_decimal?
  have hword : ∀ first others, ¬ isDigit first → lower text ≠ first :: others := by
    intro first others hfirst hlower
    rw [heq, lower, List.map_cons, toLower_of_isDigit hc] at hlower
    exact hfirst ((List.cons.inj hlower).1 ▸ hc)
  have hn : ¬ isDigit 'n' := by decide
  have hi : ¬ isDigit 'i' := by decide
  exact ⟨.finite negative d, by simp [magnitude?, hword _ _ hn, hword _ _ hi, hd]⟩

lemma IsNumeral.exists_numeral? (h : IsNumeral text) : ∃ numeral, numeral? text = some numeral := by
  obtain ⟨decimal, hdecimal, rfl | rfl⟩ := h
  · obtain ⟨c, rest, rfl, hc⟩ := hdecimal.exists_head
    obtain ⟨numeral, hnumeral⟩ := hdecimal.exists_magnitude? false
    refine ⟨numeral, ?_⟩
    unfold numeral?
    split
    · rename_i heq
      exact absurd ((List.cons.inj heq).1 ▸ hc) (by decide)
    · rename_i heq
      exact absurd ((List.cons.inj heq).1 ▸ hc) (by decide)
    · exact hnumeral
  · exact hdecimal.exists_magnitude? true

/-- The characters of a numeral. -/
lemma IsNumeral.forall_mem (h : IsNumeral text) :
    ∀ c ∈ text, isDigit c ∨ c ∈ ['.', 'e', '+', '-'] := by
  have hdecimal : ∀ {decimal}, IsDecimal decimal →
      ∀ c ∈ decimal, isDigit c ∨ c ∈ ['.', 'e', '+', '-'] := by
    rintro _ ⟨-, hwhole, hfraction, hexponent⟩ c hc
    rcases List.mem_append.1 hc with hc | hc
    · exact .inl (hwhole c hc)
    rcases List.mem_append.1 hc with hc | hc
    · cases hfraction with
      | none => cases hc
      | point hdigits =>
        rcases List.mem_cons.1 hc with rfl | hc
        · exact .inr (by decide)
        · exact .inl (hdigits c hc)
    · cases hexponent with
      | none => cases hc
      | signed hsign hne hdigits =>
        rcases List.mem_cons.1 hc with rfl | hc
        · exact .inr (by decide)
        rcases List.mem_cons.1 hc with rfl | hc
        · rcases hsign with rfl | rfl <;> exact .inr (by decide)
        · exact .inl (hdigits c hc)
  obtain ⟨decimal, h, rfl | rfl⟩ := h
  · exact hdecimal h
  · rw [List.forall_mem_cons]
    exact ⟨.inr (by decide), hdecimal h⟩

lemma IsNumeral.not_mem_comma (h : IsNumeral text) : ',' ∉ text := by
  intro hmem
  rcases h.forall_mem _ hmem with hdigit | hother
  · exact absurd hdigit (by decide)
  · exact absurd hother (by decide)

lemma IsNumeral.trim_eq (h : IsNumeral text) : trim text = text := by
  refine trim_eq_self fun c hc => ?_
  rcases h.forall_mem c hc with hdigit | hother
  · have hlimits := isDigit_iff.1 hdigit
    change 48 ≤ c.toNat ∧ c.toNat ≤ 57 at hlimits
    simp only [isBlank, Bool.or_eq_true, Bool.and_eq_true, decide_eq_true_iff, beq_iff_eq]
    omega
  · fin_cases hother <;> decide

end Text

/-! ## Writing -/

section Writing

open Text

lemma isDigit_of_mem_toDigits {n : ℕ} : ∀ c ∈ Nat.toDigits 10 n, isDigit c :=
  fun _ h => Nat.isDigit_of_mem_toDigits (by decide) (by decide) h

lemma isDigit_of_mem_zeros {n : ℕ} : ∀ c ∈ Decimal.zeros n, isDigit c := by
  intro c h
  rw [List.eq_of_mem_replicate h]
  decide

lemma isDecimal_append {whole fraction : List Char} (hne : whole ≠ [])
    (hwhole : ∀ c ∈ whole, isDigit c) (hfraction : IsFraction fraction) :
    IsDecimal (whole ++ fraction) := by
  have h := IsDecimal.mk hne hwhole hfraction .none
  rwa [List.append_nil] at h

lemma isDecimal_of_digits {whole : List Char} (hne : whole ≠ [])
    (hwhole : ∀ c ∈ whole, isDigit c) : IsDecimal whole := by
  have h := isDecimal_append hne hwhole .none
  rwa [List.append_nil] at h

namespace Decimal

variable (d : Decimal)

/-- The digits of a whole number, with zeros behind them. -/
lemma isDigit_of_mem_whole :
    ∀ c ∈ if d.units = 0 then ['0'] else d.digits ++ zeros d.exponent.toNat, Text.isDigit c := by
  split_ifs
  · exact isDigit_of_mem_zeros (n := 1)
  · exact List.forall_mem_append.2 ⟨isDigit_of_mem_toDigits, isDigit_of_mem_zeros⟩

lemma whole_ne_nil : (if d.units = 0 then ['0'] else d.digits ++ zeros d.exponent.toNat) ≠ [] := by
  split_ifs
  · exact List.cons_ne_nil _ _
  · exact List.append_ne_nil_of_left_ne_nil Nat.toDigits_ne_nil _

lemma isDecimal_positional (showsFraction : Bool) : IsDecimal (d.positional showsFraction) := by
  have hzero : IsFraction ['.', '0'] := .point (isDigit_of_mem_zeros (n := 1))
  unfold positional
  dsimp only
  by_cases hbehind : (-d.exponent).toNat = 0
  · rw [if_pos hbehind]
    cases showsFraction with
    | false => exact isDecimal_of_digits d.whole_ne_nil d.isDigit_of_mem_whole
    | true => exact isDecimal_append d.whole_ne_nil d.isDigit_of_mem_whole hzero
  · rw [if_neg hbehind]
    -- There are zeros enough for a digit to stand before the point.
    have hlength : (-d.exponent).toNat <
        (zeros ((-d.exponent).toNat + 1 - d.digits.length) ++ d.digits).length := by
      rw [List.length_append, zeros, List.length_replicate]
      omega
    have hpadded : ∀ c ∈ zeros ((-d.exponent).toNat + 1 - d.digits.length) ++ d.digits,
        Text.isDigit c :=
      List.forall_mem_append.2 ⟨isDigit_of_mem_zeros, isDigit_of_mem_toDigits⟩
    generalize zeros _ ++ d.digits = padded at hlength hpadded ⊢
    refine isDecimal_append ?_ (fun c hc => hpadded c (List.mem_of_mem_take hc))
      (.point fun c hc => hpadded c (List.mem_of_mem_drop hc))
    rw [← List.length_pos_iff, List.length_take]
    omega

lemma isDecimal_scientific : IsDecimal d.scientific := by
  have hexponent : IsExponent ((if d.leadingExponent < 0 then ['e', '-'] else ['e', '+']) ++
      Nat.toDigits 10 d.leadingExponent.natAbs) := by
    split_ifs
    · exact .signed (.inr rfl) Nat.toDigits_ne_nil isDigit_of_mem_toDigits
    · exact .signed (.inl rfl) Nat.toDigits_ne_nil isDigit_of_mem_toDigits
  have hdigits : ∀ c ∈ d.digits, Text.isDigit c := isDigit_of_mem_toDigits
  have hne : d.digits ≠ [] := Nat.toDigits_ne_nil
  unfold scientific
  dsimp only
  rw [List.append_assoc]
  generalize d.digits = digits at hdigits hne
  rcases digits with _ | ⟨digit, _ | ⟨next, others⟩⟩
  · exact absurd rfl hne
  · have hdecimal := IsDecimal.mk hne hdigits .none hexponent
    exact hdecimal
  · rw [List.forall_mem_cons] at hdigits
    have hfirst : ∀ c ∈ [digit], Text.isDigit c := List.forall_mem_singleton.2 hdigits.1
    have hdecimal := IsDecimal.mk (List.cons_ne_nil _ _) hfirst (.point hdigits.2) hexponent
    exact hdecimal

/-- In every style a decimal is written as one. -/
lemma isDecimal_write (style : NumberStyle) : IsDecimal (d.write style) := by
  unfold write
  split
  · exact d.isDecimal_positional _
  · split_ifs
    · exact d.isDecimal_positional _
    · exact d.isDecimal_scientific

end Decimal

lemma isNumeral_toString (n : ℤ) : IsNumeral (toString n).toList := by
  cases n with
  | ofNat n =>
    exact ⟨_, isDecimal_of_digits Nat.toDigits_ne_nil isDigit_of_mem_toDigits, .inl Nat.toList_repr⟩
  | negSucc n =>
    have hdecimal : IsDecimal (Nat.toDigits 10 (n + 1)) :=
      isDecimal_of_digits Nat.toDigits_ne_nil isDigit_of_mem_toDigits
    refine ⟨_, hdecimal, .inr ?_⟩
    rw [← Nat.toList_repr]
    exact String.toList_append

/-- Integers and finite numbers are written as numerals. -/
theorem Json.Number.IsFinite.isNumeral_write {x : Json.Number} (h : x.IsFinite) :
    IsNumeral x.write.toList := by
  cases x with
  | integer value => exact isNumeral_toString value
  | double value =>
    have hfinite : ∃ negative d, Numeral.ofFloat doubleStyle.tie value = .finite negative d := by
      unfold Numeral.ofFloat
      obtain ⟨s, hx⟩ | ⟨s, m, e, hm, hx⟩ := eq_zero_or_eq_finite h
      · rw [hx]
        exact ⟨_, _, rfl⟩
      · rw [hx]
        exact ⟨_, _, rfl⟩
    obtain ⟨negative, d, hnumeral⟩ := hfinite
    refine ⟨d.write doubleStyle, d.isDecimal_write _, ?_⟩
    rw [write, hnumeral, writeNumeral, Numeral.write]
    cases negative with
    | false => exact .inl String.toList_ofList
    | true => exact .inr (by simp)
  | single value => exact h.elim

end Writing

end Detection
