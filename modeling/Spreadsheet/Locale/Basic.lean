/-
# Locales

A locale says how numbers and dates are written: separators and symbols, date
and time patterns, names of months and days, and how a short year is read.

* `fullYear_two_digits` — a year of two digits is read into the hundred years
  that end with the locale's last one.
-/

import Spreadsheet.Text.Basic

namespace Spreadsheet

/-- The order in which a date in numbers gives its parts. -/
inductive DateOrder where
  | monthDayYear
  | dayMonthYear
  | yearMonthDay
deriving DecidableEq

/-- The conventions of one language and region. Days of the week start with
Sunday. -/
structure Locale where
  tag : Text
  decimalSeparator : Char
  groupSeparator : Char
  negativeSign : Text
  percentSymbol : Text
  perMilleSymbol : Text
  dateSeparator : Text
  timeSeparator : Text
  shortDatePattern : Text
  longDatePattern : Text
  shortTimePattern : Text
  longTimePattern : Text
  monthDayPattern : Text
  yearMonthPattern : Text
  monthNames : Vector Text 12
  abbreviatedMonthNames : Vector Text 12
  dayNames : Vector Text 7
  abbreviatedDayNames : Vector Text 7
  amDesignator : Text
  pmDesignator : Text
  dateOrder : DateOrder
  /-- The last year that two digits can stand for. -/
  twoDigitYearMax : Int
deriving DecidableEq

namespace Locale

/-- The year that a short year stands for: in the century of the locale's last
short year, or in the one before it when that would be later than the last. -/
def fullYear (locale : Locale) (short : Int) : Int :=
  let century := locale.twoDigitYearMax - locale.twoDigitYearMax.tmod 100
  if locale.twoDigitYearMax < century + short then century + short - 100 else century + short

/-- Two digits are read into the hundred years that end with the last short
year. -/
theorem fullYear_two_digits {locale : Locale} {short : Int} (hlast : 0 ≤ locale.twoDigitYearMax)
    (hlow : 0 ≤ short) (hhigh : short < 100) :
    locale.twoDigitYearMax - 100 < locale.fullYear short ∧
      locale.fullYear short ≤ locale.twoDigitYearMax ∧
      locale.fullYear short % 100 = short := by
  have hmod := Int.tmod_eq_emod_of_nonneg hlast (b := 100)
  unfold fullYear
  simp only [hmod]
  split <;> omega

end Locale

end Spreadsheet
