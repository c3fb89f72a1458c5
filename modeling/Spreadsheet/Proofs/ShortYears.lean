/-
# Dates in numbers with long and short years

A date in numbers has its parts in an order, with a mark after each of the first two. With the
year in four digits it is read back in every locale when the year comes first, and in the order of
the locale. With the last two digits of the year it is read back in the order of the locale, for
the hundred years that end with the locale's last short one; a dash then asks for the year first.

* `Locale.yearOfDigits_two` — two digits are read as the year they end.
* `Locale.datePart?_shortYear` — what a date with a short year is read as.
* `Locale.readDate?_separated` — dates with long and with short years in the registered locales.
-/

import Spreadsheet.Proofs.DateReading

namespace Spreadsheet

namespace Date

/-- The date in numbers, its parts in the order with a mark after each of the first two: the year
as the text says, the month and the day in at least so many digits as their widths ask for. -/
def separated (date : Date) (order : DateOrder) (first second : Char) (year : Text)
    (monthWidth dayWidth : Nat) : Text :=
  order.join first second year (Text.number monthWidth date.month) (Text.number dayWidth date.day)

/-- The year in four digits. -/
def longYear (date : Date) : Text :=
  Text.number 4 date.year.toNat

/-- The last two digits of the year. -/
def shortYear (date : Date) : Text :=
  Text.number 2 (date.year % 100).toNat

variable {date : Date}

theorem length_longYear (hhigh : date.year ≤ 9999) : date.longYear.length = 4 :=
  Text.length_number (by decide) (by omega)

theorem length_shortYear : date.shortYear.length = 2 :=
  Text.length_number (by decide) (by omega)

end Date

namespace Locale

section Separated

variable {locale : Locale} {order : DateOrder} {first second : Char} {date : Date}
  {monthWidth dayWidth : Nat}

/-- **Two digits are read as the year they end**, among the hundred years up to the locale's last
short one. -/
theorem yearOfDigits_two (hlast : 0 ≤ locale.twoDigitYearMax)
    (hlow : locale.twoDigitYearMax - 100 < date.year) (hhigh : date.year ≤ locale.twoDigitYearMax) :
    locale.yearOfDigits date.shortYear (Nat.ofDigitChars 10 date.shortYear 0) = date.year := by
  have hvalue : (Nat.ofDigitChars 10 date.shortYear 0 : Int) = date.year % 100 := by
    rw [Date.shortYear, (Text.writes_number _ _).value]
    omega
  have hmod : 0 ≤ date.year % 100 ∧ date.year % 100 < 100 := by omega
  obtain ⟨habove, hbelow, hdigits⟩ := fullYear_two_digits hlast hmod.1 hmod.2
  rw [yearOfDigits, if_pos (Nat.le_of_eq Date.length_shortYear), hvalue]
  omega

variable (hfirst : first ∈ dateMarks) (hsecond : second ∈ dateMarks) (hmonth : monthWidth ≤ 2)
  (hday : dayWidth ≤ 2)
include hfirst hsecond hmonth hday

/-- A date with a long year is read back in the order of the locale and with the year first. -/
theorem datePart?_longYear (horder : order = .yearMonthDay ∨ order = locale.dateOrder)
    (hlow : 0 ≤ date.year) (hhigh : date.year ≤ 9999) :
    locale.datePart? (date.separated order first second date.longYear monthWidth dayWidth) =
      some date := by
  obtain ⟨hmonthDigits, hdayDigits⟩ := date.month_day_lt
  exact datePart?_join horder hfirst hsecond (Text.writes_number _ _) (Text.writes_number _ _)
    (Text.writes_number _ _) (Int.toNat_of_nonneg hlow).symm (Date.length_longYear hhigh)
    (Text.length_number_le (by decide) hmonth hmonthDigits)
    (Text.length_number_le (by decide) hday hdayDigits)

/-- **What a date with a short year is read as**, in the order of the locale: the date, or
nothing if there is a dash and the year does not come first. -/
theorem datePart?_shortYear (hlast : 0 ≤ locale.twoDigitYearMax)
    (hlow : locale.twoDigitYearMax - 100 < date.year) (hhigh : date.year ≤ locale.twoDigitYearMax) :
    locale.datePart?
        (date.separated locale.dateOrder first second date.shortYear monthWidth dayWidth) =
      if (first = '-' ∨ second = '-') ∧ locale.dateOrder ≠ .yearMonthDay then none
      else some date := by
  obtain ⟨hmonthDigits, hdayDigits⟩ := date.month_day_lt
  have hshort : date.shortYear.length ≠ 4 := by simp [Date.length_shortYear]
  have hordered := datePart?_ordered (Or.inr rfl) hfirst hsecond
    (Text.writes_number 2 (date.year % 100).toNat) (Text.writes_number monthWidth date.month)
    (Text.writes_number dayWidth date.day) (yearOfDigits_two hlast hlow hhigh)
    (Text.length_number_le (by decide) hmonth hmonthDigits)
    (Text.length_number_le (by decide) hday hdayDigits)
  rw [Date.separated, Date.shortYear, hordered]
  exact if_congr (and_congr_right fun _ => and_iff_left hshort) rfl rfl

end Separated

/-- The last short year of every registered locale. -/
theorem twoDigitYearMax_of_registered :
    ∀ locale ∈ registered, locale.twoDigitYearMax = 2049 := by
  decide

/-- **Dates in numbers in the registered locales**, with the month and the day in two digits or in
as many as they have, and each mark any of the three. A year of four digits is read back in every
locale when it comes first, and in the order of the locale. The last two digits of a year from 1950
to 2049 are read back in the order of the locale, unless there is a dash; with a dash the text is
no date, unless the locale puts the year first. -/
theorem readDate?_separated {locale : Locale} (hlocale : locale ∈ registered) (date : Date)
    {first second : Char} (hfirst : first ∈ dateMarks) (hsecond : second ∈ dateMarks)
    {monthWidth dayWidth : Nat} (hmonth : monthWidth ≤ 2) (hday : dayWidth ≤ 2) :
    (0 ≤ date.year ∧ date.year ≤ 9999 →
      locale.readDate?
          (date.separated .yearMonthDay first second date.longYear monthWidth dayWidth) =
        some (.midnight date) ∧
      locale.readDate?
          (date.separated locale.dateOrder first second date.longYear monthWidth dayWidth) =
        some (.midnight date)) ∧
    (1950 ≤ date.year ∧ date.year ≤ 2049 →
      (first ≠ '-' ∧ second ≠ '-' ∨ locale.dateOrder = .yearMonthDay →
        locale.readDate?
            (date.separated locale.dateOrder first second date.shortYear monthWidth dayWidth) =
          some (.midnight date)) ∧
      ((first = '-' ∨ second = '-') ∧ locale.dateOrder ≠ .yearMonthDay →
        locale.readDate?
            (date.separated locale.dateOrder first second date.shortYear monthWidth dayWidth) =
          none)) := by
  have hnumeric : ∀ (order : DateOrder) (width n : Nat),
      ∀ c ∈ date.separated order first second (Text.number width n) monthWidth dayWidth,
        inNumericDate c = true := fun order width n =>
    DateOrder.inNumericDate_of_mem (Text.writes_number _ _) (Text.writes_number _ _)
      (Text.writes_number _ _) hfirst hsecond
  constructor
  · rintro ⟨hlow, hhigh⟩
    exact ⟨readDate?_date (hnumeric _ _ _)
        (datePart?_longYear hfirst hsecond hmonth hday (Or.inl rfl) hlow hhigh),
      readDate?_date (hnumeric _ _ _)
        (datePart?_longYear hfirst hsecond hmonth hday (Or.inr rfl) hlow hhigh)⟩
  · rintro ⟨hlow, hhigh⟩
    have hlast := twoDigitYearMax_of_registered locale hlocale
    have hread : locale.readDate?
        (date.separated locale.dateOrder first second date.shortYear monthWidth dayWidth) =
          (if (first = '-' ∨ second = '-') ∧ locale.dateOrder ≠ .yearMonthDay then none
            else some date).map .midnight := by
      rw [← datePart?_shortYear hfirst hsecond hmonth hday (by omega) (by omega) (by omega)]
      exact readDate?_inNumericDate (hnumeric _ _ _)
    constructor
    · intro hplain
      rw [hread, if_neg, Option.map_some]
      rintro ⟨hdash, horder⟩
      rcases hplain with ⟨hfirstPlain, hsecondPlain⟩ | hyearFirst
      · exact hdash.elim hfirstPlain hsecondPlain
      · exact horder hyearFirst
    · intro hdash
      rw [hread, if_pos hdash, Option.map_none]

/-- The first day of February 1950, the first short year, in German with the day in two digits and
the month in one. -/
theorem readDate?_separated_firstShortYear :
    ∃ date : Date, date.year = 1950 ∧ date.month = 2 ∧ date.day = 1 ∧
      german ∈ registered ∧ '.' ∈ dateMarks ∧ '-' ∈ dateMarks ∧
      german.readDate? "1950.2-01".toList = some (.midnight date) ∧
      german.readDate? "01.2-1950".toList = some (.midnight date) ∧
      german.readDate? "01.2.50".toList = some (.midnight date) ∧
      german.readDate? "01.2-50".toList = none := by
  have hlocale : german ∈ registered := by decide
  have hpoint : '.' ∈ dateMarks := by decide
  have hdash : '-' ∈ dateMarks := by decide
  obtain ⟨date, hdate⟩ : ∃ date : Date, date = ⟨1950, 2, 1, by decide, by decide⟩ := ⟨_, rfl⟩
  have hlong : 0 ≤ date.year ∧ date.year ≤ 9999 := by simp [hdate]
  have hshort : 1950 ≤ date.year ∧ date.year ≤ 2049 := by simp [hdate]
  have hplain := readDate?_separated hlocale date hpoint hpoint (by decide : 1 ≤ 2)
    (by decide : 2 ≤ 2)
  have hdashed := readDate?_separated hlocale date hpoint hdash (by decide : 1 ≤ 2)
    (by decide : 2 ≤ 2)
  subst hdate
  exact ⟨_, rfl, rfl, rfl, hlocale, hpoint, hdash, (hdashed.1 hlong).1, (hdashed.1 hlong).2,
    (hplain.2 hshort).1 (by decide), (hdashed.2 hshort).2 (by decide)⟩

end Locale

end Spreadsheet
