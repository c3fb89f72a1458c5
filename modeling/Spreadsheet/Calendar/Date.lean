/-
# Dates

Dates of the proleptic Gregorian calendar, from year -262143 to year 262142 with
a year 0, and their number: the days since 1899-12-30, the day that serial
numbers count from.

* `of?_self` — a date is made of its parts.
-/

namespace Spreadsheet

/-! ### Years and months -/

namespace Calendar

/-- Whether the year has a 29th of February. -/
def isLeapYear (year : Int) : Bool :=
  year % 4 == 0 && (year % 100 != 0 || year % 400 == 0)

/-- The number of days in each month of a year. -/
def monthLengths (leap : Bool) : List Nat :=
  [31, if leap then 29 else 28, 31, 30, 31, 30, 31, 31, 30, 31, 30, 31]

/-- The number of days in a month, counted from 1; zero outside the year. -/
def daysInMonth (leap : Bool) (month : Nat) : Nat :=
  if month = 0 then 0 else (monthLengths leap)[month - 1]?.getD 0

/-- The number of days from 0001-01-01 to the first day of a year. -/
def daysBeforeYear (year : Int) : Int :=
  let past := year - 1
  365 * past + past / 4 - past / 100 + past / 400

/-- The number of days of a year before the first day of a month. -/
def daysBeforeMonth (leap : Bool) (month : Nat) : Nat :=
  ((monthLengths leap).take (month - 1)).foldl (· + ·) 0

/-- The number of days from 0001-01-01 to 1899-12-30. -/
def originDays : Int := 693593

/-- The first and the last year of the calendar. -/
def firstYear : Int := -262143

@[inherit_doc firstYear]
def lastYear : Int := 262142

end Calendar

open Calendar

/-! ### Dates -/

/-- A day of the calendar. -/
structure Date where
  year : Int
  month : Nat
  day : Nat
  year_range : firstYear ≤ year ∧ year ≤ lastYear
  day_range : 1 ≤ day ∧ day ≤ daysInMonth (isLeapYear year) month
deriving DecidableEq

namespace Date

/-- The date with the given parts, if there is one. -/
def of? (year : Int) (month day : Nat) : Option Date :=
  if hyear : firstYear ≤ year ∧ year ≤ lastYear then
    if hday : 1 ≤ day ∧ day ≤ daysInMonth (isLeapYear year) month then
      some ⟨year, month, day, hyear, hday⟩
    else none
  else none

/-- A date is made of its parts. -/
theorem of?_self (date : Date) : of? date.year date.month date.day = some date := by
  simp [of?, date.year_range, date.day_range]

/-- The days from 1899-12-30 to the date, negative before it. -/
def number (date : Date) : Int :=
  daysBeforeYear date.year - originDays + daysBeforeMonth (isLeapYear date.year) date.month +
    (date.day - 1 : Nat)

/-- The day of the week, Sunday being 0; 1899-12-30 was a Saturday. -/
def weekday (date : Date) : Fin 7 :=
  ⟨((date.number + 6) % 7).toNat, by omega⟩

/-! ### The date of a number -/

/-- The year that holds the day `days` after 0001-01-01: whole periods of 400,
100, 4 years and one year are taken off in turn, and the last day of a period of
100 years or of one year stays in it. -/
def yearOfDays (days : Int) : Int :=
  let inEra := days % 146097
  let centuries := min 3 (inEra / 36524)
  let inCentury := inEra - centuries * 36524
  let inCycle := inCentury % 1461
  let years := min 3 (inCycle / 365)
  400 * (days / 146097) + 100 * centuries + 4 * (inCentury / 1461) + years + 1

/-- The month that holds a day of the year, counted from 0, among the months that
are left, and the day of that month. -/
def monthAndDay (month dayOfYear : Nat) : (lengths : List Nat) → Nat × Nat
  | [] => (month, dayOfYear + 1)
  | length :: rest =>
    if dayOfYear < length then (month, dayOfYear + 1)
    else monthAndDay (month + 1) (dayOfYear - length) rest

/-- The date with the given number, if the calendar reaches it. -/
def ofNumber? (number : Int) : Option Date :=
  let days := number + originDays
  let year := yearOfDays days
  let (month, day) :=
    monthAndDay 1 (days - daysBeforeYear year).toNat (monthLengths (isLeapYear year))
  of? year month day

end Date

/-- The day that serial numbers count from. -/
def originDate : Date :=
  ⟨1899, 12, 30, by decide, by decide⟩

example : originDate.number = 0 := by decide

end Spreadsheet
