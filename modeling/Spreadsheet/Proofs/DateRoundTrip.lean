/-
# Dates that are shown are read back

In every registered locale, an instant of the years 0 to 9999 that is shown by one of the
standard patterns of date and time, or with the name of its month, is read back as the
start of what the pattern shows: of the day, of the minute or of the second.

* `readDate?_formatCustom_dateTime` — a date in numbers and the time of a clock.
* `readDate?_formatCustom_monthName` — a date with the name of its month.
* `readDate?_formatDateTime` — all the patterns.
-/

import Spreadsheet.Proofs.DateFormats

namespace Spreadsheet

/-! ### What a pattern shows of an instant -/

/-- The start of the day, the minute or the second that the instant is in, given the length
of such a unit in nanoseconds. -/
def Instant.startOf (unit : Nat) (i : Instant) : Instant where
  date := i.date
  nanosecondOfDay := i.nanosecondOfDay - i.nanosecondOfDay % unit
  in_day := Nat.lt_of_le_of_lt (Nat.sub_le _ _) i.in_day

/-- The nanoseconds of a second and of a minute. -/
def nanosecondsPerSecond : Nat := 1000000000

@[inherit_doc nanosecondsPerSecond]
def nanosecondsPerMinute : Nat := 60000000000

namespace Instant

/-- The start of the day is midnight. -/
theorem startOf_day (i : Instant) : i.startOf nanosecondsPerDay = midnight i.date := by
  have hday := Nat.mod_eq_of_lt i.in_day
  simp [startOf, midnight, hday]

/-- An instant whose time of day is a number of units is their start. -/
theorem startOf_eq_self {unit : Nat} {i : Instant} (h : i.nanosecondOfDay % unit = 0) :
    i.startOf unit = i := by
  simp [startOf, h]

/-- The start of the minute or of the second, from the parts of the time of day. -/
theorem at?_startOf (i : Instant) (seconds : Bool) :
    at? i.date i.hour i.minute (if seconds then i.second else 0) 0 =
      some (i.startOf (if seconds then nanosecondsPerSecond else nanosecondsPerMinute)) := by
  obtain ⟨hhour, hminute, hsecond⟩ := i.parts_lt
  have htotal : ((i.hour * 60 + i.minute) * 60 + (if seconds then i.second else 0)) * 1000000000 =
      i.nanosecondOfDay -
        i.nanosecondOfDay % (if seconds then nanosecondsPerSecond else nanosecondsPerMinute) := by
    unfold hour minute second nanosecondsPerSecond nanosecondsPerMinute
    cases seconds with
    | true =>
      simp only [if_true]
      omega
    | false =>
      simp only [Bool.false_eq_true, if_false]
      omega
  have hrange : i.hour < 24 ∧ i.minute < 60 ∧ (if seconds then i.second else 0) < 60 ∧
      0 < 1000000000 := by
    refine ⟨hhour, hminute, ?_, by decide⟩
    split <;> omega
  simp only [at?, dif_pos hrange, Nat.add_zero, htotal, startOf]

end Instant

/-! ### Dates in numbers -/

section Numbers

variable {locale : Locale} (hlocale : locale ∈ Locale.registered) {i : Instant}
  (hlow : 0 ≤ i.date.year) (hhigh : i.date.year ≤ 9999) {order : DateOrder}
  (horder : order = .yearMonthDay ∨ order = locale.dateOrder) {item : DateItem} {mark : Char}
  (hitem : item.Shows locale mark) (hmark : mark ∈ dateMarks) {width : Nat} (hwidth : width ≤ 2)
  {pattern : Text}
include hlow hhigh horder hitem hmark hwidth

/-- A date in numbers is read back. -/
theorem readDate?_formatCustom_date (hpattern : dateItems pattern = order.items item width) :
    locale.readDate? (formatCustom locale pattern i) = some (.midnight i.date) := by
  rw [formatCustom_eq_flatMap hpattern (dateItems_plain order hitem),
    flatMap_dateItems order hlow hitem hwidth]
  exact Locale.readDate?_date (Date.inNumericDate_of_mem_inNumbers hmark)
    (Locale.datePart?_inNumbers horder hmark hwidth hlow hhigh)

include hlocale

/-- **A date in numbers and the time of a clock after it are read back**, as the start of
the minute or of the second. -/
theorem readDate?_formatCustom_dateTime {separator : Char}
    (hseparator : isBlank separator = true ∨ separator = 'T') {colon : DateItem}
    (hcolon : colon.Shows locale ':') {twelve seconds : Bool}
    (htwelve : twelve = true → locale.twelveHours = true)
    (hpattern : dateItems pattern =
      order.items item width ++ .literal [separator] :: clockItems colon twelve seconds) :
    locale.readDate? (formatCustom locale pattern i) =
      some (i.startOf (if seconds then nanosecondsPerSecond else nanosecondsPerMinute)) := by
  obtain ⟨clock, ending, half, h, htext, hclock, hending, hhour⟩ :=
    exists_clock_of_clockItems seconds hcolon fun hyes =>
      Locale.designatorOf_twelveHours hlocale (htwelve hyes) i.hour
  have hplain : (order.items item width ++
      .literal [separator] :: clockItems colon twelve seconds).all
        (fun item => !item.isShortFraction) = true := by
    simp [dateItems_plain order hitem, clockItems_plain seconds hcolon]
  have hsecond : (if seconds then i.second else 0) < 60 := by
    obtain ⟨-, -, hlt⟩ := i.parts_lt
    split <;> omega
  rw [formatCustom_eq_flatMap hpattern hplain, List.flatMap_append, List.flatMap_cons, htext,
    flatMap_dateItems order hlow hitem hwidth, itemText_literal, List.singleton_append,
    Locale.readDate?_inNumbers_clock hlocale horder hmark hwidth hlow hhigh hseparator hclock hending
      hsecond,
    hhour, Option.bind_some, Instant.at?_startOf]

end Numbers

/-! ### Dates with the name of a month -/

namespace Locale

/-- The name names the month in a date: without a final dot it is one field with a letter
and is found; it holds no colon and starts with no blank. -/
def NamesMonth (locale : Locale) (month : Fin 12) (name : Text) : Prop :=
  name.fields separatesDateParts = [name.dropTrailing (· == '.')] ∧
    (name.dropTrailing (· == '.')).any isLetter = true ∧
    locale.monthNamed? (name.dropTrailing (· == '.')) = some month ∧ ':' ∉ name ∧
    name.head?.any (fun c => !isBlank c) = true

instance (locale : Locale) (month : Fin 12) (name : Text) :
    Decidable (locale.NamesMonth month name) :=
  inferInstanceAs (Decidable (_ ∧ _))

/-- The names of the months in a registered locale, full and abbreviated, name them. -/
theorem namesMonth_of_mem {locale : Locale} (hlocale : locale ∈ registered) {month : Fin 12}
    {name : Text}
    (hname : name ∈ [locale.monthNames.get month, locale.abbreviatedMonthNames.get month]) :
    locale.NamesMonth month name :=
  (by decide +kernel : ∀ locale ∈ registered, ∀ month : Fin 12,
    ∀ name ∈ [locale.monthNames.get month, locale.abbreviatedMonthNames.get month],
      locale.NamesMonth month name) locale hlocale month name hname

end Locale

/-- A date with the name of its month is read back, with the day before the name or after
it. -/
theorem readDate?_monthName {locale : Locale} {date : Date} {month : Fin 12}
    {name day year : Text} {y : Nat} (hname : locale.NamesMonth month name)
    (hmonth : date.month = month + 1) (hday : day.Writes date.day) (hdayLength : day.length ≤ 2)
    (hyear : year.Writes y) (hyearDate : date.year = y) (hyearLength : year.length = 4) :
    locale.readDate? (day ++ ' ' :: (name ++ ' ' :: year)) = some (.midnight date) ∧
      locale.readDate? (name ++ ' ' :: (day ++ ',' :: ' ' :: year)) = some (.midnight date) := by
  obtain ⟨hfields, hletter, hnamed, hnoColon, hhead⟩ := hname
  have hdayColon : ':' ∉ day := hday.notMem rfl
  have hyearColon : ':' ∉ year := hyear.notMem rfl
  -- Both texts end with the year, so that nothing is lost at their ends.
  have hend : ∀ before : Text, Text.trimEnd (before ++ year) = before ++ year :=
    Text.dropTrailing_append hyear.ne_nil (Text.dropTrailing_eq_self hyear.visible)
  have hblank : separatesDateParts ' ' = true := by decide
  have hcomma : separatesDateParts ',' = true := by decide
  constructor
  · have hcut : day ++ ' ' :: (name ++ ' ' :: year) = (day ++ ' ' :: (name ++ [' '])) ++ year := by
      simp
    have hparts : Text.fields separatesDateParts (day ++ ' ' :: (name ++ ' ' :: year)) =
        [day, name.dropTrailing (· == '.'), year] := by
      rw [Text.fields_append_separator day hblank, Text.fields_append_separator name hblank,
        hday.fields_eq, hyear.fields_eq, hfields]
      rfl
    refine Locale.readDate?_of_datePart (Text.trim_of_head ?_ (by rw [hcut, hend])) ?_
      (Locale.datePart?_named (Or.inr hparts) hletter hnamed hmonth hday hdayLength hyear hyearDate
        hyearLength)
    · obtain ⟨first, rest, rfl, hfirst⟩ := hday.exists_cons
      simpa using (isDigit_kind hfirst).blank
    · simp [hnoColon, hdayColon, hyearColon]
  · have hcut : name ++ ' ' :: (day ++ ',' :: ' ' :: year) =
        (name ++ ' ' :: (day ++ [',', ' '])) ++ year := by simp
    have hparts : Text.fields separatesDateParts (name ++ ' ' :: (day ++ ',' :: ' ' :: year)) =
        [name.dropTrailing (· == '.'), day, year] := by
      rw [Text.fields_append_separator name hblank, Text.fields_append_separator day hcomma,
        Text.fields_cons_separator hblank, hday.fields_eq, hyear.fields_eq, hfields]
      rfl
    refine Locale.readDate?_of_datePart (Text.trim_of_head ?_ (by rw [hcut, hend])) ?_
      (Locale.datePart?_named (Or.inl hparts) hletter hnamed hmonth hday hdayLength hyear hyearDate
        hyearLength)
    · cases name with
      | nil => cases hhead
      | cons first rest => simpa using hhead
    · simp [hnoColon, hdayColon, hyearColon]

/-- **A date that is shown with the name of its month is read back.** -/
theorem readDate?_formatCustom_monthName {locale : Locale}
    (hlocale : locale ∈ Locale.registered) {i : Instant} (hlow : 0 ≤ i.date.year)
    (hhigh : i.date.year ≤ 9999) {width : Nat} (hwidth : width = 3 ∨ width = 4) {pattern : Text}
    (hpattern : dateItems pattern ∈
      [[.field .day 1, .literal [' '], .field .month width, .literal [' '], .field .year 4],
        [.field .month width, .literal [' '], .field .day 1, .literal [','], .literal [' '],
          .field .year 4]]) :
    locale.readDate? (formatCustom locale pattern i) = some (.midnight i.date) := by
  have hname : itemText locale i (.field .month width) ∈
      [locale.monthNames.get i.date.monthIndex,
        locale.abbreviatedMonthNames.get i.date.monthIndex] := by
    rcases hwidth with rfl | rfl
    · exact List.mem_cons_of_mem _ List.mem_cons_self
    · exact List.mem_cons_self
  have hmonth : i.date.month = i.date.monthIndex + 1 :=
    (Nat.sub_add_cancel i.date.day_lt.1).symm
  obtain ⟨hdayFirst, hmonthFirst⟩ := readDate?_monthName
    (Locale.namesMonth_of_mem hlocale hname) hmonth
    (Text.writes_number 1 i.date.day)
    (Text.length_number_le (by decide) (by decide) i.date.month_day_lt.2)
    (Text.writes_number 4 i.date.year.toNat) (Int.toNat_of_nonneg hlow).symm
    (Text.length_number (by decide) (by omega))
  have hday : itemText locale i (.field .day 1) = Text.number 1 i.date.day :=
    itemText_day locale i (by decide)
  have hyear := itemText_year locale hlow
  rcases List.mem_pair.mp hpattern with hitems | hitems
  · rw [formatCustom_eq_flatMap hitems (by rfl)]
    simpa [hday, hyear] using hdayFirst
  · rw [formatCustom_eq_flatMap hitems (by rfl)]
    simpa [hday, hyear] using hmonthFirst

/-! ### The patterns that are read back -/

/-- The patterns that are read back, with the unit of time that each shows: the standard
patterns of dates and times, and dates with the name of the month. -/
def readablePatterns : List (Text × Nat) :=
  [("d".toList, nanosecondsPerDay), ("g".toList, nanosecondsPerMinute),
    ("G".toList, nanosecondsPerSecond), ("s".toList, nanosecondsPerSecond),
    ("d MMMM yyyy".toList, nanosecondsPerDay), ("d MMM yyyy".toList, nanosecondsPerDay),
    ("MMMM d, yyyy".toList, nanosecondsPerDay)]

/-- **An instant of the years 0 to 9999 that is shown by a readable pattern is read back**
in every registered locale, as the start of what the pattern shows of it. -/
theorem readDate?_formatDateTime {locale : Locale} (hlocale : locale ∈ Locale.registered)
    {i : Instant} (hlow : 0 ≤ i.date.year) (hhigh : i.date.year ≤ 9999) {pattern : Text}
    {unit : Nat} (hpattern : (pattern, unit) ∈ readablePatterns) :
    locale.readDate? (formatDateTime locale pattern i) = some (i.startOf unit) := by
  obtain ⟨hmark, -, hwidth⟩ := Locale.dateMark_kind hlocale
  obtain ⟨item, hitem, hdate, hminutes, hseconds⟩ := Locale.dateItems_shortDate hlocale
  have horder : locale.dateOrder = .yearMonthDay ∨ locale.dateOrder = locale.dateOrder := Or.inr rfl
  have hblank : isBlank ' ' = true ∨ ' ' = 'T' := Or.inl (by decide)
  have hcolon := Locale.shows_timeSeparator hlocale
  have hsortable : dateItems "yyyy'-'MM'-'dd'T'HH':'mm':'ss".toList =
      DateOrder.yearMonthDay.items (.literal ['-']) 2 ++
        .literal ['T'] :: clockItems (.literal [':']) false true := by
    decide +kernel
  simp only [readablePatterns, List.mem_cons, Prod.mk.injEq, List.not_mem_nil, or_false] at hpattern
  rcases hpattern with ⟨rfl, rfl⟩ | ⟨rfl, rfl⟩ | ⟨rfl, rfl⟩ | ⟨rfl, rfl⟩ | ⟨rfl, rfl⟩ |
    ⟨rfl, rfl⟩ | ⟨rfl, rfl⟩
  · rw [Instant.startOf_day]
    exact readDate?_formatCustom_date hlow hhigh horder hitem hmark hwidth hdate
  · exact readDate?_formatCustom_dateTime hlocale hlow hhigh horder hitem hmark hwidth hblank hcolon
      id hminutes
  · exact readDate?_formatCustom_dateTime hlocale hlow hhigh horder hitem hmark hwidth hblank hcolon
      id hseconds
  · exact readDate?_formatCustom_dateTime hlocale hlow hhigh (Or.inl rfl)
      (DateItem.shows_literal locale '-') (by decide) (Nat.le_refl 2) (Or.inr rfl)
      (DateItem.shows_literal locale ':') (fun h : false = true => Bool.noConfusion h) hsortable
  · rw [Instant.startOf_day]
    exact readDate?_formatCustom_monthName hlocale hlow hhigh (Or.inr rfl : 4 = 3 ∨ 4 = 4)
      (by decide +kernel)
  · rw [Instant.startOf_day]
    exact readDate?_formatCustom_monthName hlocale hlow hhigh (Or.inl rfl : 3 = 3 ∨ 3 = 4)
      (by decide +kernel)
  · rw [Instant.startOf_day]
    exact readDate?_formatCustom_monthName hlocale hlow hhigh (Or.inr rfl : 4 = 3 ∨ 4 = 4)
      (by decide +kernel)

/-- Almost six minutes past midnight, in the year 45. -/
def afterMidnight : Instant :=
  ⟨⟨45, 2, 28, by decide, by decide⟩, 359999000000, by decide⟩

/-- American English shows it at twelve o'clock; it is read back without its seconds. -/
theorem readDate?_formatDateTime_afterMidnight :
    Locale.americanEnglish ∈ Locale.registered ∧ 0 ≤ afterMidnight.date.year ∧
      afterMidnight.date.year ≤ 9999 ∧ ("g".toList, nanosecondsPerMinute) ∈ readablePatterns ∧
      formatDateTime .americanEnglish "g".toList afterMidnight = "2/28/0045 12:05 AM".toList ∧
      Locale.americanEnglish.readDate? "2/28/0045 12:05 AM".toList =
        some ⟨afterMidnight.date, 300000000000, by decide⟩ := by
  have hlocale : Locale.americanEnglish ∈ Locale.registered := by decide
  have hlow : 0 ≤ afterMidnight.date.year := by decide
  have hhigh : afterMidnight.date.year ≤ 9999 := by decide
  have hpattern : ("g".toList, nanosecondsPerMinute) ∈ readablePatterns := by decide
  have htext : formatDateTime .americanEnglish "g".toList afterMidnight =
      "2/28/0045 12:05 AM".toList := by
    decide +kernel
  have hstart : afterMidnight.startOf nanosecondsPerMinute =
      ⟨afterMidnight.date, 300000000000, by decide⟩ := by
    decide +kernel
  have hread := readDate?_formatDateTime hlocale hlow hhigh hpattern
  rw [htext, hstart] at hread
  exact ⟨hlocale, hlow, hhigh, hpattern, htext, hread⟩

end Spreadsheet
