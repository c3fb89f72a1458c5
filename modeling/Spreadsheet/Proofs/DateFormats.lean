/-
# What date and time patterns show

Items other than a short fraction show their texts one after the other. So the texts of
the registered locales' short dates and clock times have one form each: three numbers in
the locale's order with its mark between them, and the numbers of a clock, of twelve hours
or of all, with colons between them.

* `formatCustom_eq_flatMap` — the items of a pattern show their texts.
* `flatMap_dateItems`, `exists_clock_of_clockItems` — dates in numbers and clock times.
* `Locale.dateItems_shortDate`, `Locale.dateItems_shortDateTime` — the patterns of the
  registered locales.
-/

import Spreadsheet.Proofs.ClockReading

namespace Spreadsheet

/-! ### Items and their texts -/

/-- The text of an item, wherever it stands. -/
def itemText (locale : Locale) (i : Instant) : DateItem → Text
  | .field kind width => fieldText locale i width kind
  | .dateSeparator => locale.dateSeparator
  | .timeSeparator => locale.timeSeparator
  | .literal text => text

/-- Whether what the item shows depends on what stands before it. -/
def DateItem.isShortFraction : DateItem → Bool
  | .field .shortFraction _ => true
  | _ => false

@[simp]
theorem DateItem.isShortFraction_field (kind : DateField) (width : Nat) :
    (field kind width).isShortFraction = (kind == .shortFraction) := by
  cases kind <;> rfl

@[simp]
theorem DateItem.isShortFraction_literal (text : Text) :
    (literal text).isShortFraction = false := rfl

section Items

variable {locale : Locale} {i : Instant}

/-- Every item but a short fraction appends its text. -/
theorem appendItem_eq {item : DateItem} (h : item.isShortFraction = false) (shown : Text) :
    appendItem locale i shown item = shown ++ itemText locale i item := by
  cases item with
  | field kind width =>
    cases kind with
    | shortFraction => cases h
    | _ => rfl
  | _ => rfl

/-- Items that are no short fractions append their texts, one after the other. -/
theorem foldl_appendItem {items : List DateItem}
    (h : items.all (fun item => !item.isShortFraction) = true) (shown : Text) :
    items.foldl (appendItem locale i) shown = shown ++ items.flatMap (itemText locale i) := by
  induction items generalizing shown with
  | nil => simp
  | cons item rest ih =>
    simp only [List.all_cons, Bool.and_eq_true, Bool.not_eq_true'] at h
    rw [List.foldl_cons, appendItem_eq h.1, ih h.2, List.flatMap_cons, List.append_assoc]

/-- **Items show their texts one after the other**, if none is a short fraction. -/
theorem formatItems_eq_flatMap {items : List DateItem}
    (h : items.all (fun item => !item.isShortFraction) = true) :
    formatItems locale i items = items.flatMap (itemText locale i) :=
  foldl_appendItem h []

/-- A pattern that is not a standard one shows the texts of its items. -/
theorem formatCustom_eq_flatMap {pattern : Text} {items : List DateItem}
    (hitems : dateItems pattern = items)
    (h : items.all (fun item => !item.isShortFraction) = true) :
    formatCustom locale pattern i = items.flatMap (itemText locale i) := by
  rw [formatCustom, hitems, formatItems_eq_flatMap h]

end Items

/-- The item shows one character, in every instant. -/
structure DateItem.Shows (item : DateItem) (locale : Locale) (mark : Char) : Prop where
  plain : item.isShortFraction = false
  text : ∀ i, itemText locale i item = [mark]

section Fields

variable (locale : Locale) (i : Instant)

/-- A character that stands for itself shows itself. -/
theorem DateItem.shows_literal (mark : Char) : (DateItem.literal [mark]).Shows locale mark :=
  ⟨rfl, fun _ => rfl⟩

@[simp]
theorem itemText_literal (text : Text) : itemText locale i (.literal text) = text := rfl

@[simp]
theorem itemText_clockHour :
    itemText locale i (.field .clockHour 1) = Text.number 1 (clockHour i.hour) := rfl

@[simp]
theorem itemText_hour : itemText locale i (.field .hour 2) = Text.number 2 i.hour := rfl

@[simp]
theorem itemText_minute : itemText locale i (.field .minute 2) = Text.number 2 i.minute := rfl

@[simp]
theorem itemText_second : itemText locale i (.field .second 2) = Text.number 2 i.second := rfl

@[simp]
theorem itemText_designator :
    itemText locale i (.field .designator 2) = designatorOf locale i.hour := rfl

/-- The number of a day. -/
theorem itemText_day {width : Nat} (h : width ≤ 2) :
    itemText locale i (.field .day width) = Text.number width i.date.day := if_pos h

/-- The number of a month. -/
theorem itemText_month {width : Nat} (h : width ≤ 2) :
    itemText locale i (.field .month width) = Text.number width i.date.month := if_pos h

/-- A year of four digits is shown without a sign. -/
theorem itemText_year {i : Instant} (h : 0 ≤ i.date.year) :
    itemText locale i (.field .year 4) = Text.number 4 i.date.year.toNat := by
  change signedNumber 4 i.date.year = _
  have hnatAbs : i.date.year.natAbs = i.date.year.toNat := by omega
  rw [signedNumber, if_neg (by omega), hnatAbs]

end Fields

/-! ### Dates in numbers -/

/-- The items of a date in numbers: the month and the day in so many letters, and the year
in four. -/
def DateOrder.items (order : DateOrder) (mark : DateItem) (width : Nat) : List DateItem :=
  match order with
  | .monthDayYear => [.field .month width, mark, .field .day width, mark, .field .year 4]
  | .dayMonthYear => [.field .day width, mark, .field .month width, mark, .field .year 4]
  | .yearMonthDay => [.field .year 4, mark, .field .month width, mark, .field .day width]

section Dates

variable {locale : Locale} {item : DateItem} {mark : Char} (order : DateOrder) {width : Nat}

/-- None of them is a short fraction. -/
theorem dateItems_plain (hmark : item.Shows locale mark) :
    (order.items item width).all (fun item => !item.isShortFraction) = true := by
  cases order <;> simp [DateOrder.items, hmark.plain]

/-- **They show the date in numbers.** -/
theorem flatMap_dateItems {i : Instant} (hyear : 0 ≤ i.date.year)
    (hmark : item.Shows locale mark) (hwidth : width ≤ 2) :
    (order.items item width).flatMap (itemText locale i) =
      i.date.inNumbers order mark width := by
  cases order <;>
    simp [DateOrder.items, Date.inNumbers, DateOrder.join, hmark.text, itemText_day, itemText_month,
      itemText_year, hwidth, hyear]

end Dates

/-! ### Times of a clock -/

/-- The items of a time of day: the hour, on a clock of twelve hours or of all, the minute
and, if it is shown, the second, with the name of the half of the day after twelve hours. -/
def clockItems (mark : DateItem) (twelve seconds : Bool) : List DateItem :=
  (if twelve then .field .clockHour 1 else .field .hour 2) :: mark :: .field .minute 2 ::
    ((if seconds then [mark, .field .second 2] else []) ++
      if twelve then [.literal [' '], .field .designator 2] else [])

section Clock

variable {locale : Locale} {item : DateItem} {twelve : Bool} (seconds : Bool)

/-- None of them is a short fraction. -/
theorem clockItems_plain (hmark : item.Shows locale ':') :
    (clockItems item twelve seconds).all (fun item => !item.isShortFraction) = true := by
  cases twelve <;> cases seconds <;> simp [clockItems, hmark.plain]

/-- The parts of a time of day have their ranges. -/
theorem Instant.parts_lt (i : Instant) : i.hour < 24 ∧ i.minute < 60 ∧ i.second < 60 := by
  have hday := i.in_day
  unfold nanosecondsPerDay at hday
  unfold Instant.hour Instant.minute Instant.second
  omega

/-- **They show the numbers of a clock**, from which the hour is read back. -/
theorem exists_clock_of_clockItems {i : Instant} (hmark : item.Shows locale ':')
    (htwelve : twelve = true →
      (' ' :: designatorOf locale i.hour, some (decide (12 ≤ i.hour))) ∈ Locale.halfEndings) :
    ∃ (clock ending : Text) (half : Option Bool) (h : Nat),
      (clockItems item twelve seconds).flatMap (itemText locale i) = clock ++ ending ∧
      clock.WritesClock h i.minute (if seconds then i.second else 0) ∧
      (ending, half) ∈ Locale.halfEndings ∧ Locale.hourOfDay? half h = some i.hour := by
  have hminute : (Text.number 2 i.minute).Writes i.minute := Text.writes_number _ _
  have hsecond : (Text.number 2 i.second).Writes i.second := Text.writes_number _ _
  have hclock : ∀ {hourText : Text} {h : Nat}, hourText.Writes h →
      (hourText ++ ':' :: (Text.number 2 i.minute ++
        if seconds then ':' :: Text.number 2 i.second else [])).WritesClock h i.minute
          (if seconds then i.second else 0) := by
    intro hourText h hhour
    cases seconds with
    | false => simpa using .minutes hhour hminute
    | true => exact .seconds hhour hminute hsecond
  cases twelve with
  | false =>
    refine ⟨_, [], none, i.hour, ?_, hclock (Text.writes_number 2 i.hour), by decide, rfl⟩
    cases seconds <;> simp [clockItems, hmark.text]
  | true =>
    obtain ⟨hhour, -, -⟩ := i.parts_lt
    refine ⟨_, _, _, _, ?_, hclock (Text.writes_number 1 (clockHour i.hour)), htwelve rfl,
      Locale.hourOfDay?_clockHour hhour⟩
    cases seconds <;> simp [clockItems, hmark.text]

end Clock

/-! ### The patterns of the registered locales -/

namespace Locale

/-- The mark between the numbers of the locale's short date. -/
def dateMark (locale : Locale) : Char :=
  locale.dateSeparator.headD '/'

/-- How many letters the short date gives to the month and the day. -/
def shortDateWidth (locale : Locale) : Nat :=
  locale.shortDatePattern.count 'd'

/-- Whether the locale's clock has twelve hours. -/
def twelveHours (locale : Locale) : Bool :=
  locale.shortTimePattern.contains 'h'

variable {locale : Locale} (hlocale : locale ∈ registered)
include hlocale

/-- The mark of a registered locale is one of the marks of dates, and the short date gives
one or two letters to the month and the day. -/
theorem dateMark_kind : locale.dateMark ∈ dateMarks ∧
    locale.dateSeparator = [locale.dateMark] ∧ locale.shortDateWidth ≤ 2 :=
  (by decide : ∀ locale ∈ registered, locale.dateMark ∈ dateMarks ∧
    locale.dateSeparator = [locale.dateMark] ∧ locale.shortDateWidth ≤ 2) locale hlocale

/-- The times of a registered locale have colons. -/
theorem shows_timeSeparator : DateItem.timeSeparator.Shows locale ':' :=
  ⟨rfl, fun _ => (by decide : ∀ locale ∈ registered, locale.timeSeparator = [':']) locale hlocale⟩

/-- A registered locale of twelve hours names the halves of the day in English. -/
theorem designatorOf_twelveHours (htwelve : locale.twelveHours = true) (hour : Nat) :
    (' ' :: designatorOf locale hour, some (decide (12 ≤ hour))) ∈ halfEndings := by
  obtain ⟨ham, hpm⟩ := (by decide : ∀ locale ∈ registered, locale.twelveHours = true →
    (' ' :: locale.amDesignator, some false) ∈ halfEndings ∧
      (' ' :: locale.pmDesignator, some true) ∈ halfEndings) locale hlocale htwelve
  rw [designatorOf]
  split
  · rwa [decide_eq_false (by omega)]
  · rwa [decide_eq_true (by omega)]

/-- The short date of a registered locale is a date in numbers in the locale's order. -/
theorem dateItems_shortDate : ∃ item : DateItem, item.Shows locale locale.dateMark ∧
    dateItems locale.shortDatePattern = locale.dateOrder.items item locale.shortDateWidth ∧
    dateItems (joined locale.shortDatePattern locale.shortTimePattern) =
      locale.dateOrder.items item locale.shortDateWidth ++
        .literal [' '] :: clockItems .timeSeparator locale.twelveHours false ∧
    dateItems (joined locale.shortDatePattern locale.longTimePattern) =
      locale.dateOrder.items item locale.shortDateWidth ++
        .literal [' '] :: clockItems .timeSeparator locale.twelveHours true := by
  obtain ⟨item, hitem, hpatterns⟩ := (by decide +kernel : ∀ locale ∈ registered,
    ∃ item ∈ [DateItem.dateSeparator, .literal locale.dateSeparator],
      dateItems locale.shortDatePattern = locale.dateOrder.items item locale.shortDateWidth ∧
      dateItems (joined locale.shortDatePattern locale.shortTimePattern) =
        locale.dateOrder.items item locale.shortDateWidth ++
          .literal [' '] :: clockItems .timeSeparator locale.twelveHours false ∧
      dateItems (joined locale.shortDatePattern locale.longTimePattern) =
        locale.dateOrder.items item locale.shortDateWidth ++
          .literal [' '] :: clockItems .timeSeparator locale.twelveHours true) locale hlocale
  obtain ⟨-, hseparator, -⟩ := dateMark_kind hlocale
  refine ⟨item, ?_, hpatterns⟩
  rcases List.mem_pair.mp hitem with rfl | rfl
  · exact ⟨rfl, fun _ => hseparator⟩
  · exact ⟨rfl, fun _ => hseparator⟩

end Locale

end Spreadsheet
