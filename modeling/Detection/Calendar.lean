/-
# The calendar

Days are counted from the first of March of the year 0 of the calendar in use, so that a leap
day is the last day of its year.  Four hundred years have 146097 days.
-/
import Detection.Host

namespace Detection
namespace Calendar

/-- A date. -/
@[ext]
structure Date where
  /-- The year. -/
  year : Nat
  /-- The month, from 1. -/
  month : Nat
  /-- The day of the month, from 1. -/
  day : Nat
deriving DecidableEq, Repr

/-- The days of four hundred years. -/
def cycleDays : Nat := 146097

/-- The days from the first of March of the year 0 to the beginning of 1970. -/
def daysBefore1970 : Nat := 719468

/-- The date that is a number of days after the first of March of the year 0. -/
def dateOf (days : Nat) : Date :=
  let inCycle := days % cycleDays
  let year :=
    (inCycle - inCycle / 1460 + inCycle / 36524 - inCycle / (cycleDays - 1)) / 365
  let inYear := inCycle - (365 * year + year / 4 - year / 100)
  -- months of 31, 30, 31, 30 and 31 days follow each other from March on
  let month := (5 * inYear + 2) / 153
  { year := year + 400 * (days / cycleDays) + (if month < 10 then 0 else 1)
    month := if month < 10 then month + 3 else month - 9
    day := inYear - (153 * month + 2) / 5 + 1 }

/-- The moment that is a number of seconds after the beginning of 1970. -/
def momentOf (seconds : Nat) : Moment :=
  let date := dateOf (daysBefore1970 + seconds / 86400)
  let inDay := seconds % 86400
  { year := date.year
    month := date.month
    day := date.day
    hour := inDay / 3600
    minute := inDay / 60 % 60
    second := inDay % 60 }

end Calendar
end Detection
