/-
# Every date in its turn

The calendar finds the date of a day by divisions.  Here it is shown that it leaves no date out
and tells none twice: the date of the following day is the following date, with months of 28 to
31 days and a leap year where four divides the year, except for hundreds that four hundred does
not divide.

Years are taken from the first of March on, as the divisions take them: a day is given by such a
year and by its place in it (`firstOfMarch`, `dateIn`), then by its month and by its place there
(`monthStart`, `firstOfMonth`).

## Main results

* `dateOf_eq_iterate`: the date of a day, by counting.
* `strictMono_dateOf`: later days have later dates.
* `momentOf_injective`: different seconds are different moments.
-/
import Detection.Calendar
import Mathlib.Data.Prod.Lex
import Mathlib.Logic.Function.Iterate
import Mathlib.Order.Monotone.Basic
import Mathlib.Tactic.IntervalCases

namespace Detection
namespace Calendar

/-! ## Dates one after the other -/

/-- A year with a twenty-ninth of February. -/
def IsLeap (y : ℕ) : Prop := 4 ∣ y ∧ (100 ∣ y → 400 ∣ y)

instance : DecidablePred IsLeap := fun y =>
  inferInstanceAs (Decidable (4 ∣ y ∧ (100 ∣ y → 400 ∣ y)))

/-- The days of a month of a year. -/
def monthDays (y month : ℕ) : ℕ :=
  if month = 2 then if IsLeap y then 29 else 28
  else if month = 4 ∨ month = 6 ∨ month = 9 ∨ month = 11 then 30 else 31

namespace Date

/-- The date of the following day. -/
def next (d : Date) : Date :=
  if d.day < monthDays d.year d.month then { d with day := d.day + 1 }
  else if d.month < 12 then ⟨d.year, d.month + 1, 1⟩
  else ⟨d.year + 1, 1, 1⟩

/-- The year, the month and the day, in the order in which they are compared. -/
def parts (d : Date) : ℕ ×ₗ ℕ ×ₗ ℕ := toLex (d.year, toLex (d.month, d.day))

lemma parts_lt_parts_next (d : Date) : d.parts < d.next.parts := by
  unfold next
  split_ifs <;> simp [parts, Prod.Lex.toLex_lt_toLex]

end Date

/-! ## Years from March to February -/

variable {y t m : ℕ}

/-- The days before the first of March of a year. -/
def firstOfMarch (y : ℕ) : ℕ := 365 * y + y / 4 - y / 100 + y / 400

/-- The days from the first of March of a year to that of the next one. -/
def daysFrom (y : ℕ) : ℕ := if IsLeap (y + 1) then 366 else 365

lemma daysFrom_eq_or (y : ℕ) : daysFrom y = 366 ∨ daysFrom y = 365 := ite_eq_or_eq ..

lemma firstOfMarch_succ (y : ℕ) : firstOfMarch (y + 1) = firstOfMarch y + daysFrom y := by
  have hle : y / 100 ≤ y / 4 := Nat.div_le_div_left (by decide) (by decide)
  unfold daysFrom
  by_cases h : IsLeap (y + 1)
  · rw [if_pos h]
    simp only [firstOfMarch, IsLeap, Nat.succ_div] at *
    split_ifs <;> omega
  · rw [if_neg h]
    simp only [firstOfMarch, IsLeap, Nat.succ_div] at *
    split_ifs <;> omega

lemma firstOfMarch_add_mul (y c : ℕ) :
    firstOfMarch (y + 400 * c) = firstOfMarch y + cycleDays * c := by
  unfold firstOfMarch cycleDays
  omega

lemma daysFrom_add_mul (y c : ℕ) : daysFrom (y + 400 * c) = daysFrom y := by
  have h := firstOfMarch_succ (y + 400 * c)
  rw [Nat.add_right_comm, firstOfMarch_add_mul, firstOfMarch_add_mul, firstOfMarch_succ] at h
  omega

lemma firstOfMarch_le_cycleDays (hy : y ≤ 400) : firstOfMarch y ≤ cycleDays := by
  unfold firstOfMarch cycleDays
  omega

/-- Every day is in a year. -/
lemma exists_firstOfMarch_add (days : ℕ) : ∃ y t, days = firstOfMarch y + t ∧ t < daysFrom y := by
  induction days with
  | zero => exact ⟨0, 0, rfl, by decide⟩
  | succ days ih =>
    obtain ⟨y, t, rfl, ht⟩ := ih
    by_cases hlast : t + 1 < daysFrom y
    · exact ⟨y, t + 1, rfl, hlast⟩
    · have := daysFrom_eq_or (y + 1)
      exact ⟨y + 1, 0, by rw [firstOfMarch_succ]; omega, by omega⟩

/-- The divisions that find the year of a day in four hundred years.  As many days are taken off as
there were leap days, and perhaps one more: not on the first day of a year, but always on the
366th. -/
lemma yearInCycle_eq (hy : y < 400) (ht : t < daysFrom y) {r : ℕ} (hr : r = firstOfMarch y + t) :
    (r - r / 1460 + r / 36524 - r / (cycleDays - 1)) / 365 = y := by
  have hlt := firstOfMarch_succ y
  obtain ⟨a, c, d, rfl, ha, hc, hd⟩ :
      ∃ a c d, y = 100 * a + 4 * c + d ∧ a < 4 ∧ c < 25 ∧ d < 4 :=
    ⟨y / 100, y % 100 / 4, y % 4, by omega, by omega, by omega, by omega⟩
  have ht : t < 365 ∨ t = 365 ∧ d = 3 ∧ (c < 24 ∨ a = 3) := by
    unfold firstOfMarch at hlt
    omega
  have hr : r = 36524 * a + 1461 * c + 365 * d + t := by
    unfold firstOfMarch at hr
    omega
  clear hlt
  have h₁ : r / 1460 = 25 * a + c + (24 * a + c + 365 * d + t) / 1460 := by omega
  have h₂ : r / 36524 = a + (1461 * c + 365 * d + t) / 36524 := by omega
  have h₃ : r / (cycleDays - 1) = (1461 * c + 365 * d + t) / 36524 := by
    unfold cycleDays
    omega
  rw [h₁, h₂, h₃]
  have hle : (24 * a + c + 365 * d + t) / 1460 ≤ t := by omega
  have hge : t ≤ (24 * a + c + 365 * d + t) / 1460 + 364 := by omega
  omega

/-- The date that is a number of days after the first of March of a year. -/
def dateIn (y t : ℕ) : Date :=
  let month := (5 * t + 2) / 153
  { year := y + (if month < 10 then 0 else 1)
    month := if month < 10 then month + 3 else month - 9
    day := t - (153 * month + 2) / 5 + 1 }

lemma dateOf_firstOfMarch_add (ht : t < daysFrom y) :
    dateOf (firstOfMarch y + t) = dateIn y t := by
  obtain ⟨z, c, rfl, hz⟩ : ∃ z c, y = z + 400 * c ∧ z < 400 :=
    ⟨y % 400, y / 400, by omega, by omega⟩
  rw [daysFrom_add_mul] at ht
  have hcycle : firstOfMarch z + t < cycleDays := by
    have := firstOfMarch_le_cycleDays (Nat.succ_le_of_lt hz)
    rw [firstOfMarch_succ] at this
    omega
  have hmod : (firstOfMarch (z + 400 * c) + t) % cycleDays = firstOfMarch z + t := by
    rw [firstOfMarch_add_mul, Nat.add_right_comm, Nat.add_mul_mod_self_left,
      Nat.mod_eq_of_lt hcycle]
  have hdiv : (firstOfMarch (z + 400 * c) + t) / cycleDays = c := by
    rw [firstOfMarch_add_mul, Nat.add_right_comm, Nat.add_mul_div_left _ _ (by decide),
      Nat.div_eq_of_lt hcycle, Nat.zero_add]
  have hyear := yearInCycle_eq hz ht rfl
  have hday : firstOfMarch z + t - (365 * z + z / 4 - z / 100) = t := by
    unfold firstOfMarch
    omega
  simp only [dateOf, hmod, hdiv, hyear, hday, dateIn, Nat.add_assoc, Nat.add_comm (400 * c)]

/-! ## Months from March to February -/

/-- The days from the first of March to the first of the month that is `m` months later. -/
def monthStart (m : ℕ) : ℕ := (153 * m + 2) / 5

/-- The first of the month that is `m` months after the March of a year. -/
def firstOfMonth (y m : ℕ) : Date :=
  ⟨y + if m < 10 then 0 else 1, if m < 10 then m + 3 else m - 9, 1⟩

lemma firstOfMonth_succ (hm : m < 11) :
    firstOfMonth y (m + 1) = if (firstOfMonth y m).month < 12
      then ⟨(firstOfMonth y m).year, (firstOfMonth y m).month + 1, 1⟩
      else ⟨(firstOfMonth y m).year + 1, 1, 1⟩ := by
  interval_cases m <;> rfl

/-- A month ends where the next one or the next year begins. -/
lemma monthDays_firstOfMonth (hm : m < 12) :
    monthDays (firstOfMonth y m).year (firstOfMonth y m).month =
      min (monthStart (m + 1)) (daysFrom y) - monthStart m := by
  by_cases hleap : IsLeap (y + 1) <;>
    interval_cases m <;> simp [firstOfMonth, monthDays, monthStart, daysFrom, hleap]

lemma exists_monthStart_le (ht : t < daysFrom y) :
    ∃ m < 12, monthStart m ≤ t ∧ t < monthStart (m + 1) := by
  have := daysFrom_eq_or y
  unfold monthStart
  exact ⟨(5 * t + 2) / 153, by omega, by omega, by omega⟩

lemma dateIn_eq (hle : monthStart m ≤ t) (hlt : t < monthStart (m + 1)) :
    dateIn y t = { firstOfMonth y m with day := t - monthStart m + 1 } := by
  have hmonth : (5 * t + 2) / 153 = m := by
    unfold monthStart at *
    omega
  simp only [dateIn, hmonth, monthStart, firstOfMonth]

lemma next_dateIn (ht : t + 1 < daysFrom y) : (dateIn y t).next = dateIn y (t + 1) := by
  obtain ⟨m, hm, hle, hlt⟩ := exists_monthStart_le (Nat.lt_of_succ_lt ht)
  obtain ⟨m', hm', hle', hlt'⟩ := exists_monthStart_le ht
  have hdays := monthDays_firstOfMonth (y := y) hm
  rw [dateIn_eq hle hlt, dateIn_eq hle' hlt', Date.next]
  simp only [hdays]
  by_cases hmonth : t + 1 < monthStart (m + 1)
  · obtain rfl : m' = m := by
      unfold monthStart at *
      omega
    rw [if_pos (by omega), Nat.sub_add_comm hle]
  · obtain rfl : m' = m + 1 := by
      unfold monthStart at *
      omega
    have hfirst : t + 1 - monthStart (m + 1) = 0 := by omega
    rw [if_neg (by omega), hfirst, firstOfMonth_succ (by omega)]
    split_ifs <;> rfl

lemma next_dateIn_last (ht : t + 1 = daysFrom y) : (dateIn y t).next = dateIn (y + 1) 0 := by
  have hyear := daysFrom_eq_or y
  have hdays := monthDays_firstOfMonth (y := y) (m := 11) (by decide)
  rw [dateIn_eq (m := 11) (by unfold monthStart; omega) (by unfold monthStart; omega), Date.next]
  simp only [hdays]
  rw [if_neg (by unfold monthStart; omega)]
  rfl

/-! ## Counting days and seconds -/

/-- The date of the following day is the following date. -/
theorem dateOf_succ (days : ℕ) : dateOf (days + 1) = (dateOf days).next := by
  obtain ⟨y, t, rfl, ht⟩ := exists_firstOfMarch_add days
  rw [dateOf_firstOfMarch_add ht]
  by_cases hlast : t + 1 < daysFrom y
  · rw [next_dateIn hlast, Nat.add_assoc, dateOf_firstOfMarch_add hlast]
  · have hlast : t + 1 = daysFrom y := by omega
    have hpos : 0 < daysFrom (y + 1) := by
      have := daysFrom_eq_or (y + 1)
      omega
    rw [next_dateIn_last hlast, ← dateOf_firstOfMarch_add hpos, Nat.add_assoc, hlast,
      ← firstOfMarch_succ]
    rfl

/-- **The calendar counts days.**  The date of a day is reached from the first of March of the
year 0 by going to the following date once for each day. -/
theorem dateOf_eq_iterate (days : ℕ) : dateOf days = Date.next^[days] ⟨0, 3, 1⟩ := by
  induction days with
  | zero => rfl
  | succ days ih => rw [dateOf_succ, ih, Function.iterate_succ_apply']

/-- A leap day in a year that four hundred divides, and the end of a year. -/
example : dateOf (daysBefore1970 + 11016) = ⟨2000, 2, 29⟩ ∧
    dateOf (daysBefore1970 + 11322) = ⟨2000, 12, 31⟩ := by decide

/-- Later days have later dates. -/
theorem strictMono_dateOf : StrictMono fun days => (dateOf days).parts :=
  strictMono_nat_of_lt_succ fun days => by
    rw [dateOf_succ]
    exact (dateOf days).parts_lt_parts_next

lemma dateOf_injective : Function.Injective dateOf := fun _ _ h =>
  strictMono_dateOf.injective (congrArg Date.parts h)

/-- **Different seconds are different moments.** -/
theorem momentOf_injective : Function.Injective momentOf := by
  intro a b h
  simp only [momentOf, Moment.mk.injEq] at h
  obtain ⟨hyear, hmonth, hday, hhour, hminute, hsecond⟩ := h
  have hdays : daysBefore1970 + a / 86400 = daysBefore1970 + b / 86400 :=
    dateOf_injective (Date.ext hyear hmonth hday)
  omega

/-- The beginning of 1970. -/
example : momentOf 0 = ⟨1970, 1, 1, 0, 0, 0⟩ := by decide

end Calendar
end Detection
