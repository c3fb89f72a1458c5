/-
# Criteria of an operator and a date

A literal that is no number but a date compares by its serial number, so that comparing
with it is comparing instants. The date of a cell's own text is never a number. The short
date of a locale is one where its mark is the separator of groups too: there the criterion
compares with the number that the digits write.

* `Criterion.compareWith_of_date` — how a value compares with a literal that is a date.
* `evaluate_token_text` — criteria with the text of an instant.
* `evaluate_token_shortDate` — criteria with a short date.
-/

import Spreadsheet.Proofs.DateRoundTrip
import Spreadsheet.Proofs.NumberCriteria
import Spreadsheet.Proofs.SerialOrder

namespace Spreadsheet

/-! ### Literals that are dates -/

/-- **How a value compares with a literal that is a date** and no number: by its own number
with the serial number of the date. -/
theorem Criterion.compareWith_of_date {locale : Locale} {operator : Operator}
    (hop : operator ≠ .minus) {value : Cell} {x : Binary64}
    (hvalue : value.numeric? locale = some x) {literal : Text} {date : Instant}
    (hnumber : locale.readNumber? literal = none) (hdate : locale.readDate? literal = some date) :
    compareWith locale operator value literal =
      .ok (decide (operator.HoldsOfNumbers x date.serial)) := by
  have hfilled : value.isEmpty = false := by
    cases value with
    | empty => cases hvalue
    | _ => rfl
  have hliteral : literal.isEmpty = false := by
    rw [List.isEmpty_eq_false_iff]
    rintro rfl
    cases hdate
  rw [compareWith, hfilled, hliteral]
  dsimp only
  rw [compareFilled, hnumber, signed_of_ne_minus hop, hvalue, hdate]
  exact Operator.compareNumbers_eq hop x date.serial

/-- No character of a date in numbers marks a comparison. -/
theorem isComparisonMark_of_inNumericDate {c : Char} (h : inNumericDate c = true) :
    isComparisonMark c = false := by
  rw [inNumericDate, Bool.or_eq_true, List.contains_iff_mem] at h
  rcases h with hdigit | hmark
  · exact forall_isDigit (p := fun c => isComparisonMark c = false) (by decide) hdigit
  · simp only [dateMarks, List.mem_cons, List.not_mem_nil, or_false] at hmark
    rcases hmark with rfl | rfl | rfl <;> rfl

/-- A date in numbers starts as a number does and holds no mark of a comparison. -/
theorem Date.inNumbers_kind (date : Date) (order : DateOrder) {mark : Char}
    (hmark : mark ∈ dateMarks) (width : Nat) :
    startsLikeNumber (date.inNumbers order mark width) = true ∧
      ∀ c ∈ date.inNumbers order mark width, isComparisonMark c = false := by
  obtain ⟨digits, n, rest, hdigits, hnumbers⟩ := date.exists_inNumbers order mark width
  obtain ⟨first, others, rfl, hfirst⟩ := hdigits.exists_cons
  exact ⟨by simp [startsLikeNumber, hnumbers, hfirst], fun c hc =>
    isComparisonMark_of_inNumericDate (inNumericDate_of_mem_inNumbers hmark c hc)⟩

section Ranges

variable {a b : Instant} (haOrigin : 0 ≤ a.ticks) (haYear : a.date.year ≤ 9999)
  (haWhole : a.nanosecondOfDay % 1000000 = 0) (hbOrigin : 0 ≤ b.ticks)
  (hbYear : b.date.year ≤ 9999)
include haOrigin haYear haWhole hbOrigin hbYear

/-- A comparison in front of a literal that is no number but a date compares instants. -/
theorem evaluate_token_date (matcher : Matcher) {locale : Locale} {operator : Operator}
    (hop : operator ≠ .minus) (hbWhole : b.nanosecondOfDay % 1000000 = 0) {literal : Text}
    (hstart : startsLikeNumber literal = true)
    (hmarks : ∀ c ∈ literal, isComparisonMark c = false)
    (hnumber : locale.readNumber? literal = none) (hdate : locale.readDate? literal = some b) :
    evaluate matcher locale (.dateTime a) (operator.token ++ literal) =
      .ok (decide (operator.Holds a.ticks b.ticks)) := by
  rw [evaluate_token_append matcher locale _ hop (startsLiteral_of_startsLikeNumber hstart) hmarks,
    Criterion.compareWith_of_date hop (rfl : (Cell.dateTime a).numeric? locale = _) hnumber hdate,
    decide_eq_decide.mpr (Instant.holds_serial_iff haOrigin haYear haWhole hbOrigin hbYear hbWhole
      operator)]

end Ranges

/-! ### The text of an instant -/

namespace Instant

/-- The date of an instant is shown in numbers, with the year first. -/
theorem dateText_eq {i : Instant} (hlow : 0 ≤ i.date.year) (hhigh : i.date.year ≤ 9999) :
    i.dateText = i.date.inNumbers .yearMonthDay '-' 2 := by
  have hyear : yearText i.date.year = Text.number 4 i.date.year.toNat := by
    have hnatAbs : i.date.year.natAbs = i.date.year.toNat := by omega
    rw [yearText, if_neg (by omega), if_neg (by omega), hnatAbs]
    rfl
  simp [dateText, hyear, Date.inNumbers, DateOrder.join]

/-- The time of day is shown as the time of a clock. -/
theorem writesClock_timeText (i : Instant) :
    Text.WritesClock i.timeText i.hour i.minute i.second := by
  have hclock := Text.WritesClock.seconds (Text.writes_number 2 i.hour)
    (Text.writes_number 2 i.minute) (Text.writes_number 2 i.second)
  simpa [timeText] using hclock

end Instant

section NaturalText

variable {i : Instant} (hlow : 0 ≤ i.date.year) (hhigh : i.date.year ≤ 9999)
include hlow hhigh

/-- The text of an instant is its date, with the time of day unless it is midnight. -/
theorem Instant.text_eq :
    i.text = i.date.inNumbers .yearMonthDay '-' 2 ++
      if i.isMidnight then [] else ' ' :: i.timeText := by
  rw [text, dateText_eq hlow hhigh]
  split <;> simp

/-- It starts as a number does and holds no mark of a comparison. -/
theorem Instant.text_kind :
    startsLikeNumber i.text = true ∧ ∀ c ∈ i.text, isComparisonMark c = false := by
  obtain ⟨hstart, hmarks⟩ := i.date.inNumbers_kind .yearMonthDay (by decide : '-' ∈ dateMarks) 2
  rw [text_eq hlow hhigh]
  constructor
  · cases hnumbers : i.date.inNumbers .yearMonthDay '-' 2 with
    | nil =>
      rw [hnumbers] at hstart
      cases hstart
    | cons first rest =>
      rw [hnumbers] at hstart
      exact hstart
  · intro c hc
    rcases List.mem_append.mp hc with hdate | htime
    · exact hmarks c hdate
    · split at htime
      · cases htime
      · rcases List.mem_cons.mp htime with rfl | hclock
        · rfl
        · rcases i.writesClock_timeText.isDigit_or_colon hclock with hdigit | rfl
          · exact isComparisonMark_of_inNumericDate (by rw [inNumericDate, hdigit, Bool.true_or])
          · rfl

/-- **The text of an instant is no number** in a registered locale. -/
theorem readNumber?_text {locale : Locale} (hlocale : locale ∈ Locale.registered) :
    locale.readNumber? i.text = none := by
  obtain ⟨digits, n, rest, hdigits, hnumbers⟩ := i.date.exists_inNumbers .yearMonthDay '-' 2
  rw [i.text_eq hlow hhigh, hnumbers, List.append_assoc, List.cons_append]
  exact Locale.readNumber?_eq_none hlocale hdigits _ (by decide) (Or.inr rfl)

/-- **The text of an instant is read back** in a registered locale, if the instant is exact
to the second. -/
theorem readDate?_text {locale : Locale} (hlocale : locale ∈ Locale.registered)
    (hwhole : i.nanosecondOfDay % nanosecondsPerSecond = 0) :
    locale.readDate? i.text = some i := by
  have hdash : '-' ∈ dateMarks := by decide
  rw [i.text_eq hlow hhigh]
  split
  · rename_i hmidnight
    have hself : Instant.midnight i.date = i := by
      have hzero : i.nanosecondOfDay = 0 := by simpa [Instant.isMidnight] using hmidnight
      simp [Instant.midnight, ← hzero]
    rw [List.append_nil, Locale.readDate?_date (Date.inNumericDate_of_mem_inNumbers hdash)
      (Locale.datePart?_inNumbers (Or.inl rfl) hdash (Nat.le_refl 2) hlow hhigh), hself]
  · have hread : locale.readDate? (i.date.inNumbers .yearMonthDay '-' 2 ++ ' ' ::
        (i.timeText ++ [])) = Instant.at? i.date i.hour i.minute i.second 0 :=
      Locale.readDate?_inNumbers_clock hlocale (Or.inl rfl) hdash (Nat.le_refl 2) hlow hhigh
        (Or.inl (by decide)) i.writesClock_timeText
        (List.mem_cons_self : ([], none) ∈ Locale.halfEndings) i.parts_lt.2.2
    rw [List.append_nil] at hread
    rw [hread]
    exact (i.at?_startOf true).trans (congrArg some (i.startOf_eq_self hwhole))

end NaturalText

/-- **A criterion with the text of an instant compares instants.** In a registered locale,
with any matcher, an instant satisfies a comparison in front of the text of another one
exactly when it stands so to it in time: from the origin to the end of the year 9999, if it
is exact to the millisecond and the other one to the second. -/
theorem evaluate_token_text (matcher : Matcher) {locale : Locale}
    (hlocale : locale ∈ Locale.registered) {operator : Operator} (hop : operator ≠ .minus)
    {a b : Instant} (haOrigin : 0 ≤ a.ticks) (haYear : a.date.year ≤ 9999)
    (haWhole : a.nanosecondOfDay % 1000000 = 0) (hbOrigin : 0 ≤ b.ticks)
    (hbYear : b.date.year ≤ 9999) (hbWhole : b.nanosecondOfDay % nanosecondsPerSecond = 0) :
    evaluate matcher locale (.dateTime a) (operator.token ++ (Cell.dateTime b).naturalText) =
      .ok (decide (operator.Holds a.ticks b.ticks)) := by
  have hbLow : 0 ≤ b.date.year := by
    have hlow := Date.year_of_number_nonneg (Instant.number_nonneg hbOrigin)
    omega
  have hbMillisecond : b.nanosecondOfDay % 1000000 = 0 := by
    unfold nanosecondsPerSecond at hbWhole
    omega
  obtain ⟨hstart, hmarks⟩ := Instant.text_kind hbLow hbYear
  exact evaluate_token_date haOrigin haYear haWhole hbOrigin hbYear matcher hop hbMillisecond hstart
    hmarks (readNumber?_text hbLow hbYear hlocale) (readDate?_text hbLow hbYear hlocale hbWhole)

/-- Noon of a day, and one millisecond past it. -/
def noon : Instant :=
  ⟨⟨2024, 3, 5, by decide, by decide⟩, 43200000000000, by decide⟩

@[inherit_doc noon]
def pastNoon : Instant :=
  ⟨⟨2024, 3, 5, by decide, by decide⟩, 43200001000000, by decide⟩

/-- In German, where points separate groups, a millisecond past noon is later than noon. -/
theorem evaluate_token_text_pastNoon :
    Locale.german ∈ Locale.registered ∧ Operator.greater ≠ .minus ∧ 0 ≤ pastNoon.ticks ∧
      pastNoon.date.year ≤ 9999 ∧ pastNoon.nanosecondOfDay % 1000000 = 0 ∧ 0 ≤ noon.ticks ∧
      noon.date.year ≤ 9999 ∧ noon.nanosecondOfDay % nanosecondsPerSecond = 0 ∧
      evaluate .wildcard .german (.dateTime pastNoon) ">2024-03-05 12:00:00".toList = .ok true := by
  have hlocale : Locale.german ∈ Locale.registered := by decide
  have hop : Operator.greater ≠ .minus := by decide
  have haOrigin : 0 ≤ pastNoon.ticks := by decide +kernel
  have haYear : pastNoon.date.year ≤ 9999 := by decide
  have haWhole : pastNoon.nanosecondOfDay % 1000000 = 0 := by decide
  have hbOrigin : 0 ≤ noon.ticks := by decide +kernel
  have hbYear : noon.date.year ≤ 9999 := by decide
  have hbWhole : noon.nanosecondOfDay % nanosecondsPerSecond = 0 := by decide
  have hdecided := evaluate_token_text .wildcard hlocale hop haOrigin haYear haWhole hbOrigin hbYear
    hbWhole
  have htext : Operator.greater.token ++ (Cell.dateTime noon).naturalText =
      ">2024-03-05 12:00:00".toList := by
    decide +kernel
  have hholds : decide (Operator.greater.Holds pastNoon.ticks noon.ticks) = true := by
    decide +kernel
  rw [htext, hholds] at hdecided
  exact ⟨hlocale, hop, haOrigin, haYear, haWhole, hbOrigin, hbYear, hbWhole, hdecided⟩

/-! ### Short dates -/

namespace Locale

/-- The short date of a registered locale. -/
theorem formatDateTime_shortDate {locale : Locale} (hlocale : locale ∈ registered) {i : Instant}
    (hlow : 0 ≤ i.date.year) :
    formatDateTime locale "d".toList i =
      i.date.inNumbers locale.dateOrder locale.dateMark locale.shortDateWidth := by
  obtain ⟨-, -, hwidth⟩ := dateMark_kind hlocale
  obtain ⟨item, hitem, hpattern, -⟩ := dateItems_shortDate hlocale
  change formatCustom locale locale.shortDatePattern i = _
  rw [formatCustom_eq_flatMap hpattern (dateItems_plain _ hitem),
    flatMap_dateItems _ hlow hitem hwidth]

/-- In a locale other than German no number holds the mark of the short date, or it is a
dash. -/
theorem readNumber?_shortDate {locale : Locale} (hlocale : locale ∈ registered)
    (hgerman : locale ≠ german) (date : Date) (width : Nat) :
    locale.readNumber? (date.inNumbers locale.dateOrder locale.dateMark width) = none := by
  obtain ⟨hblank, hmark⟩ := (by decide : ∀ locale ∈ registered, locale ≠ german →
    isBlank locale.dateMark = false ∧ (locale.writesNumbersWith locale.dateMark = false ∨
      locale.dateMark = '-')) locale hlocale hgerman
  obtain ⟨digits, n, rest, hdigits, hnumbers⟩ :=
    date.exists_inNumbers locale.dateOrder locale.dateMark width
  rw [hnumbers]
  exact readNumber?_eq_none hlocale hdigits rest hblank hmark

end Locale

/-- The number that the digits of a date write when the day comes first and the year
last. -/
def Date.dayFirstNumber (date : Date) : Nat :=
  date.day * 1000000 + date.month * 10000 + date.year.toNat

/-- In German the point of a short date separates groups, and its digits are a number. -/
theorem Locale.readNumber?_shortDate_german {date : Date} (hhigh : date.year ≤ 9999) :
    ∃ x, german.readNumber? (date.inNumbers .dayMonthYear '.' 2) = some x ∧
      x.isFinite = true ∧ x.toRat = date.dayFirstNumber := by
  obtain ⟨hmonthLt, hdayLt⟩ := date.month_day_lt
  have hday := Text.writes_number 2 date.day
  have hmonth := Text.writes_number 2 date.month
  have hyear := Text.writes_number 4 date.year.toNat
  have hmonthLength : (Text.number 2 date.month).length = 2 :=
    Text.length_number (by decide) hmonthLt
  have hyearLength : (Text.number 4 date.year.toNat).length = 4 :=
    Text.length_number (by decide) (by omega)
  have hfilter : (date.inNumbers .dayMonthYear '.' 2).filter Char.isDigit =
      Text.number 2 date.day ++ (Text.number 2 date.month ++ Text.number 4 date.year.toNat) := by
    simp [Date.inNumbers, DateOrder.join, List.filter_eq_self.mpr hday.isDigit,
      List.filter_eq_self.mpr hmonth.isDigit, List.filter_eq_self.mpr hyear.isDigit]
  have hwrites : Text.Writes ((date.inNumbers .dayMonthYear '.' 2).filter Char.isDigit)
      date.dayFirstNumber := by
    have hnumber := hday.append (hmonth.append hyear)
    rw [List.length_append, hmonthLength, hyearLength, ← Nat.add_assoc] at hnumber
    rw [hfilter]
    exact hnumber
  obtain ⟨digits, n, rest, hdigits, htext⟩ := date.exists_inNumbers .dayMonthYear '.' 2
  obtain ⟨first, others, rfl, hfirst⟩ := hdigits.exists_cons
  rw [List.cons_append] at htext
  have hmarks : ∀ c ∈ date.inNumbers .dayMonthYear '.' 2, c.isDigit = true ∨ c = '.' :=
    date.isDigit_or_mark
  have hvisible : ∀ c ∈ date.inNumbers .dayMonthYear '.' 2, isBlank c = false := fun c hc =>
    (inNumericDate_kind (Date.inNumericDate_of_mem_inNumbers (by decide) c hc)).1
  rw [htext, List.forall_mem_cons] at hmarks hvisible
  rw [htext] at hwrites ⊢
  refine readNumber?_grouped (by decide) hfirst hmarks.2 hvisible.2 hwrites ?_
  unfold Date.dayFirstNumber
  omega

/-- **A criterion with a short date compares dates**, in every registered locale but German:
there the mark of a date separates groups too, the short date is the number of its digits,
and the criterion compares the number of the date with that. -/
theorem evaluate_token_shortDate (matcher : Matcher) {locale : Locale}
    (hlocale : locale ∈ Locale.registered) {operator : Operator} (hop : operator ≠ .minus)
    {a b : Date} (haOrigin : 0 ≤ a.number) (haYear : a.year ≤ 9999) (hbOrigin : 0 ≤ b.number)
    (hbYear : b.year ≤ 9999) :
    (locale ≠ .german →
      evaluate matcher locale (.dateTime (.midnight a))
          (operator.token ++ formatDateTime locale "d".toList (.midnight b)) =
        .ok (decide (operator.Holds (Instant.midnight a).ticks (Instant.midnight b).ticks))) ∧
      (locale = .german →
        evaluate matcher locale (.dateTime (.midnight a))
            (operator.token ++ formatDateTime locale "d".toList (.midnight b)) =
          .ok (decide (operator.Holds a.number b.dayFirstNumber))) := by
  obtain ⟨hmark, -, hwidth⟩ := Locale.dateMark_kind hlocale
  have haLow := Date.year_of_number_nonneg haOrigin
  have hbLow : 0 ≤ b.year := by
    have hlow := Date.year_of_number_nonneg hbOrigin
    omega
  have htext := Locale.formatDateTime_shortDate hlocale (i := .midnight b) hbLow
  change _ = b.inNumbers locale.dateOrder locale.dateMark locale.shortDateWidth at htext
  obtain ⟨hstart, hmarks⟩ := b.inNumbers_kind locale.dateOrder hmark locale.shortDateWidth
  rw [htext]
  constructor
  · intro hgerman
    exact evaluate_token_date (Instant.ticks_midnight_nonneg haOrigin) haYear rfl
      (Instant.ticks_midnight_nonneg hbOrigin) hbYear matcher hop rfl hstart hmarks
      (Locale.readNumber?_shortDate hlocale hgerman b _)
      (Locale.readDate?_date (Date.inNumericDate_of_mem_inNumbers hmark)
        (Locale.datePart?_inNumbers (Or.inr rfl) hmark hwidth hbLow hbYear))
  · rintro rfl
    obtain ⟨x, hread, hfinite, hvalue⟩ := Locale.readNumber?_shortDate_german hbYear
    obtain ⟨haFinite, haValue⟩ := Instant.toRat_serial_midnight haOrigin haYear
    have hcast : StrictMonoOn (fun n : Int => (n : Rat)) Set.univ := fun m _ n _ hmn =>
      Int.cast_lt.mpr hmn
    have hholds : operator.HoldsOfNumbers (Instant.midnight a).serial x ↔
        operator.Holds a.number b.dayFirstNumber := by
      rw [Operator.holdsOfNumbers_iff haFinite hfinite, haValue, hvalue]
      exact Operator.holds_iff_of_strictMonoOn hcast (Set.mem_univ _) (Set.mem_univ _) operator
    have hdecided := Criterion.compareWith_of_number hop (Cell.noConfusion :
      Cell.dateTime (.midnight a) ≠ .empty) hread
    rw [evaluate_token_append matcher _ _ hop (startsLiteral_of_startsLikeNumber hstart) hmarks]
    rw [← decide_eq_decide.mpr hholds]
    exact hdecided

/-- A date is not before itself in English; in German its short date is the number
5032024, and its own number is less. -/
theorem evaluate_token_shortDate_noon :
    Locale.britishEnglish ∈ Locale.registered ∧ Locale.german ∈ Locale.registered ∧
      Locale.britishEnglish ≠ .german ∧ Operator.greaterOrEqual ≠ .minus ∧
      0 ≤ noon.date.number ∧ noon.date.year ≤ 9999 ∧
      evaluate .wildcard .britishEnglish (.dateTime (.midnight noon.date))
        ">=05/03/2024".toList = .ok true ∧
      evaluate .wildcard .german (.dateTime (.midnight noon.date))
        ">=05.03.2024".toList = .ok false := by
  have hbritish : Locale.britishEnglish ∈ Locale.registered := by decide
  have hgerman : Locale.german ∈ Locale.registered := by decide
  have hne : Locale.britishEnglish ≠ .german := by decide
  have hop : Operator.greaterOrEqual ≠ .minus := by decide
  have horigin : 0 ≤ noon.date.number := by decide
  have hyear : noon.date.year ≤ 9999 := by decide
  have hbritishDecided :=
    (evaluate_token_shortDate .wildcard hbritish hop horigin hyear horigin hyear).1 hne
  have hgermanDecided :=
    (evaluate_token_shortDate .wildcard hgerman hop horigin hyear horigin hyear).2 rfl
  have hbritishText : Operator.greaterOrEqual.token ++
      formatDateTime .britishEnglish "d".toList (.midnight noon.date) = ">=05/03/2024".toList := by
    decide +kernel
  have hgermanText : Operator.greaterOrEqual.token ++
      formatDateTime .german "d".toList (.midnight noon.date) = ">=05.03.2024".toList := by
    decide +kernel
  have hsame : decide (Operator.greaterOrEqual.Holds (Instant.midnight noon.date).ticks
      (Instant.midnight noon.date).ticks) = true := by
    decide +kernel
  have hless : decide (Operator.greaterOrEqual.Holds noon.date.number
      (noon.date.dayFirstNumber : Int)) = false := by
    decide +kernel
  rw [hbritishText, hsame] at hbritishDecided
  rw [hgermanText, hless] at hgermanDecided
  exact ⟨hbritish, hgerman, hne, hop, horigin, hyear, hbritishDecided, hgermanDecided⟩

/-- In German, a date is not equal to its own short date. -/
theorem not_equal_shortDate_german :
    Locale.german ∈ Locale.registered ∧ Operator.equal ≠ .minus ∧ 0 ≤ noon.date.number ∧
      noon.date.year ≤ 9999 ∧
      evaluate .wildcard .german (.dateTime (.midnight noon.date))
          (Operator.equal.token ++ formatDateTime .german "d".toList (.midnight noon.date)) ≠
        .ok (decide (Operator.equal.Holds (Instant.midnight noon.date).ticks
          (Instant.midnight noon.date).ticks)) := by
  refine ⟨by decide, by decide, by decide, by decide, ?_⟩
  have hdecided : evaluate .wildcard .german (.dateTime (.midnight noon.date))
      (Operator.equal.token ++ formatDateTime .german "d".toList (.midnight noon.date)) =
        .ok false := by
    decide +kernel
  rw [hdecided]
  decide +kernel

end Spreadsheet
