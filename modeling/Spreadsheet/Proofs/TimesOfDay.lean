/-
# Times of day under date formats

Under a template that shows no date, an instant is shown by its time of day alone. A duration is
shown as an instant after the start of year 1, and the number of its days as one after the origin
of the serial numbers, found by rounding: both are whole days and the same time of day. So the two
are shown alike, and under `HH:mm:ss` as the middle of the duration's own text.

Some templates are not read by their items but as a single field: two to four letters of the year
show the year in any case, and the capital ones stand for themselves as items.

* `formatCustom_congr` — a pattern without a date depends on the time of day only.
* `instantText_congr` — so does a date format with such a template.
* `Duration.exists_timeOfDay?`, `Duration.ofSerial?_eq_plus?` — the instants that stand for a
  duration.
* `render_timeOfDay` — the duration, the number and the instant are shown alike.
-/

import Spreadsheet.Proofs.DateFormats
import Spreadsheet.Proofs.SerialCells
import Spreadsheet.Proofs.SerialDecoding
import Spreadsheet.Proofs.SerialOrder

namespace Spreadsheet

/-! ### Items without a date -/

/-- Whether the item shows a part of the date. -/
def DateItem.showsDate : DateItem → Bool
  | .field .day _ | .field .month _ | .field .year _ => true
  | _ => false

section Congruence

variable {locale : Locale} {i j : Instant} (hsame : i.nanosecondOfDay = j.nanosecondOfDay)
include hsame

/-- A part of the time of day is the same in instants of one time of day. -/
theorem Instant.parts_congr : i.hour = j.hour ∧ i.minute = j.minute ∧ i.second = j.second ∧
    i.nanosecond = j.nanosecond := by
  unfold Instant.hour Instant.minute Instant.second Instant.nanosecond
  rw [hsame]
  exact ⟨rfl, rfl, rfl, rfl⟩

/-- A field of the time of day shows the same in instants of one time of day. -/
theorem fieldText_congr {kind : DateField} {width : Nat}
    (h : (DateItem.field kind width).showsDate = false) :
    fieldText locale i width kind = fieldText locale j width kind := by
  obtain ⟨hhour, hminute, hsecond, hnanosecond⟩ := Instant.parts_congr hsame
  cases kind with
  | day | month | year => cases h
  | _ => simp only [fieldText, hhour, hminute, hsecond, hnanosecond]

/-- So does every item that shows no date. -/
theorem appendItem_congr {item : DateItem} (h : item.showsDate = false) (shown : Text) :
    appendItem locale i shown item = appendItem locale j shown item := by
  cases item with
  | field kind width =>
    have hfield : fieldText locale i width kind = fieldText locale j width kind :=
      fieldText_congr hsame h
    cases kind with
    | shortFraction =>
      dsimp only [appendItem]
      rw [hfield]
    | _ => exact congrArg (shown ++ ·) hfield
  | _ => rfl

/-- **A pattern that shows no date depends on the time of day only.** -/
theorem formatCustom_congr {pattern : Text}
    (h : (dateItems pattern).all (fun item => !item.showsDate) = true) :
    formatCustom locale pattern i = formatCustom locale pattern j := by
  apply List.foldl_ext
  intro shown item hitem
  have hitemPlain := List.all_eq_true.mp h item hitem
  rw [Bool.not_eq_true'] at hitemPlain
  exact appendItem_congr hsame hitemPlain shown

end Congruence

/-! ### Templates of a time of day -/

/-- The template is that of a time of day: it is no standard pattern and not read as a year, and
none of its items shows a part of the date. -/
structure Text.IsClockTemplate (template : Text) : Prop where
  long : 2 ≤ template.length
  plain : (dateItems template).all (fun item => !item.showsDate) = true
  noYear : template ∉ ["YY".toList, "YYY".toList, "YYYY".toList]

section Templates

variable {template : Text}

/-- A pattern of more than one letter is not a standard one. -/
theorem formatDateTime_of_long (locale : Locale) (h : 2 ≤ template.length) (i : Instant) :
    formatDateTime locale template i = formatCustom locale template i := by
  match template, h with
  | _ :: _ :: _, _ => rfl

/-- Among letters of the year a small one starts an item of a date, since a capital one is an item
by itself. -/
theorem showsDate_of_mem (hletters : ∀ c ∈ template, c = 'y' ∨ c = 'Y') (hsmall : 'y' ∈ template) :
    (dateItems template).all (fun item => !item.showsDate) = false := by
  induction template with
  | nil => cases hsmall
  | cons c rest ih =>
    rw [List.forall_mem_cons] at hletters
    rw [dateItems]
    rcases hletters.1 with rfl | rfl
    · rfl
    · have hrest : 'y' ∈ rest := by simpa using hsmall
      exact ih hletters.2 hrest

/-- A template that is letters of the year but for their case, and shows no date, is capital
ones. -/
theorem eq_of_equalsIgnoringAsciiCase_year {width : Nat}
    (h : template.equalsIgnoringAsciiCase (List.replicate width 'y') = true)
    (hplain : (dateItems template).all (fun item => !item.showsDate) = true) :
    template = List.replicate width 'Y' := by
  rw [Text.equalsIgnoringAsciiCase, beq_iff_eq, List.map_replicate, List.eq_replicate_iff,
    List.length_map, List.forall_mem_map] at h
  have hletters : ∀ c ∈ template, c = 'y' ∨ c = 'Y' :=
    fun c hc => Text.eq_or_eq_of_toLower (h.2 c hc)
  have hcapital : 'y' ∉ template := by
    intro hsmall
    rw [showsDate_of_mem hletters hsmall] at hplain
    cases hplain
  rw [List.eq_replicate_iff]
  refine ⟨h.1, fun c hc => (hletters c hc).resolve_left ?_⟩
  rintro rfl
  exact hcapital hc

/-- A template of a time of day is not read as a single field. -/
theorem Text.IsClockTemplate.templateText_eq (h : template.IsClockTemplate) (locale : Locale)
    (i : Instant) : templateText locale template i = formatCustom locale template i := by
  have hsingle : ∀ c : Char, template ≠ [c] := by
    rintro c rfl
    exact absurd h.long (by decide : ¬2 ≤ 1)
  have hyear : ∀ width : Nat, List.replicate width 'Y' ∈
      [['Y'], "YY".toList, "YYY".toList, "YYYY".toList] →
      ¬template.equalsIgnoringAsciiCase (List.replicate width 'y') = true := by
    intro width hcapital hequal
    rw [← eq_of_equalsIgnoringAsciiCase_year hequal h.plain, List.mem_cons] at hcapital
    exact hcapital.elim (hsingle 'Y') h.noYear
  have hshort : ¬(template.equalsIgnoringAsciiCase ['y'] ∨
      template.equalsIgnoringAsciiCase ['y', 'y']) :=
    not_or.mpr ⟨hyear 1 (by decide), hyear 2 (by decide)⟩
  have hfull : ¬(template.equalsIgnoringAsciiCase ['y', 'y', 'y'] ∨
      template.equalsIgnoringAsciiCase ['y', 'y', 'y', 'y']) :=
    not_or.mpr ⟨hyear 3 (by decide), hyear 4 (by decide)⟩
  rw [templateText, if_neg (not_or.mpr ⟨hsingle 'd', hsingle 'D'⟩), if_neg (hsingle 'M'),
    if_neg (hsingle 'm'), if_neg hshort, if_neg hfull, formatDateTime_of_long _ h.long]

/-- **A date format with a template of a time of day depends on the time of day only.** -/
theorem instantText_congr {format : ResolvedFormat} (hphrase : format.phrase = none)
    (htemplate : template.IsClockTemplate) (locale : Locale) {i j : Instant}
    (hsame : i.nanosecondOfDay = j.nanosecondOfDay) :
    instantText format template locale i = instantText format template locale j := by
  rw [instantText, instantText, hphrase]
  dsimp only
  rw [htemplate.templateText_eq, htemplate.templateText_eq, formatCustom_congr hsame htemplate.plain]

end Templates

/-! ### The instants of a duration -/

namespace Instant

/-- A time after the start of a date, through the last day of the serial numbers, is an instant, and
its time of day is what is left of the days. -/
theorem exists_plus?_midnight {date : Date} {count : Int} (hlow : 0 ≤ count)
    (hhigh : date.number * nanosecondsPerDay + count < serialHigh * nanosecondsPerDay) :
    ∃ i : Instant, (midnight date).plus? count = some i ∧ i.date.year ≤ 9999 ∧
      (i.nanosecondOfDay : Int) = count % nanosecondsPerDay := by
  have hstart := ticks_midnight date
  obtain ⟨i, hi⟩ : ∃ i : Instant, i.ticks = (midnight date).ticks + count := by
    refine exists_ticks_between (show date.number * nanosecondsPerDay ≤ _ by omega)
      (show _ < (dayAfterSerials.number + 1) * nanosecondsPerDay from ?_)
    rw [hstart, number_dayAfterSerials]
    unfold nanosecondsPerDay at *
    omega
  refine ⟨i, ?_, ?_, ?_⟩
  · rw [plus?, ← hi, ofTicks?_ticks]
  · apply Date.year_le_of_number
    rw [hstart] at hi
    unfold ticks nanosecondsPerDay at *
    omega
  · rw [← ticks_emod, hi, hstart, Int.mul_add_emod_self_right]

end Instant

namespace Duration

variable {d : Duration}

/-- The hours, the minutes and the seconds of a duration within a day, with the separator between
them. -/
def clockText (d : Duration) (separator : Text) : Text :=
  let inDay := d.milliseconds.natAbs % 86400000
  Text.number 2 (inDay / 3600000) ++ separator ++ Text.number 2 (inDay / 60000 % 60) ++ separator ++
    Text.number 2 (inDay / 1000 % 60)

/-- The whole days of a duration, and a point after them. -/
def daysText (d : Duration) : Text :=
  let days := d.milliseconds.natAbs / 86400000
  if days = 0 then [] else Text.number 1 days ++ ['.']

/-- The milliseconds of a duration within a second, and a point before them. -/
def fractionText (d : Duration) : Text :=
  let milliseconds := d.milliseconds.natAbs % 86400000 % 1000
  if milliseconds = 0 then [] else '.' :: Text.number 3 milliseconds

section Positive

variable (hlow : 0 ≤ d.nanoseconds)
include hlow

/-- The milliseconds of a duration that is not negative. -/
theorem milliseconds_of_nonneg : d.milliseconds = d.nanoseconds / 1000000 := by
  rw [milliseconds, Int.tdiv_eq_ediv_of_nonneg hlow]

/-- Its text has the hours, the minutes and the seconds in the middle. -/
theorem text_eq_clockText : d.text = d.daysText ++ d.clockText [':'] ++ d.fractionText := by
  have hsign : ¬d.milliseconds < 0 := by
    rw [milliseconds_of_nonneg hlow]
    omega
  rw [text, daysText, clockText, fractionText, if_neg hsign]
  simp only [List.append_assoc, List.nil_append]

/-- The pattern of hours, minutes and seconds shows those of the duration, in an instant that is so
long after the start of a day. -/
theorem formatCustom_clock (locale : Locale) {i : Instant}
    (htime : (i.nanosecondOfDay : Int) = d.nanoseconds % nanosecondsPerDay) :
    formatCustom locale "HH:mm:ss".toList i = d.clockText locale.timeSeparator := by
  have hitems : dateItems "HH:mm:ss".toList =
      [.field .hour 2, .timeSeparator, .field .minute 2, .timeSeparator, .field .second 2] := by
    decide +kernel
  have hparts : i.hour = d.milliseconds.natAbs % 86400000 / 3600000 ∧
      i.minute = d.milliseconds.natAbs % 86400000 / 60000 % 60 ∧
      i.second = d.milliseconds.natAbs % 86400000 / 1000 % 60 := by
    rw [milliseconds_of_nonneg hlow]
    unfold Instant.hour Instant.minute Instant.second
    unfold nanosecondsPerDay at htime
    omega
  rw [formatCustom_eq_flatMap hitems (by decide)]
  simp [itemText, fieldText, clockText, hparts]

variable (hhigh : d.nanoseconds < serialHigh * nanosecondsPerDay)
include hhigh

/-- **Its time of day is what is left of the days**, counted from the first day of year 1. -/
theorem exists_timeOfDay? : ∃ i : Instant, d.timeOfDay? = some i ∧
    (i.nanosecondOfDay : Int) = d.nanoseconds % nanosecondsPerDay := by
  have hfirst : firstDayOfYearOne.number ≤ 0 := by decide
  have hend : firstDayOfYearOne.number * nanosecondsPerDay + d.nanoseconds <
      serialHigh * nanosecondsPerDay := by
    unfold nanosecondsPerDay at *
    omega
  obtain ⟨i, hi, hyear, htime⟩ := Instant.exists_plus?_midnight hlow hend
  refine ⟨i, ?_, htime⟩
  rw [timeOfDay?, isNegative, decide_eq_false (by omega), hi]
  simp [hyear]

/-- **Its serial number is that of the instant so long after the origin**, if it is exact to the
millisecond. -/
theorem ofSerial?_eq_plus? (hwhole : d.nanoseconds % 1000000 = 0) :
    Instant.ofSerial? d.serial = (Instant.midnight originDate).plus? d.nanoseconds := by
  have hmilliseconds := milliseconds_of_nonneg hlow
  have hunfold : unfoldMilliseconds d.milliseconds * 1000000 = d.nanoseconds := by
    rw [unfoldMilliseconds, if_neg (by omega)]
    omega
  have horigin : (Instant.midnight originDate).ticks = 0 := by decide
  rw [serial, Instant.ofSerial?_daysOfMilliseconds, hunfold, Instant.plus?, horigin, Int.zero_add]
  · unfold serialLow millisecondsPerDay
    omega
  · unfold serialHigh millisecondsPerDay nanosecondsPerDay at *
    omega

end Positive

end Duration

/-! ### Cells -/

section DateFormats

variable {format : ResolvedFormat} (hkind : format.isDateTime = true) (override : Option Locale)
  {i : Instant}
include hkind

/-- A date format shows an instant by its template. -/
theorem render_dateTime : render format override (.dateTime i) =
    instantText format format.template (override.getD format.locale) i :=
  if_pos hkind

/-- It shows a number as the instant that it is the serial number of. -/
theorem render_number {x : Binary64} (hserial : Instant.ofSerial? x = some i) :
    render format override (.number x) = render format override (.dateTime i) := by
  rw [render_dateTime hkind, render, renderWith, serialText]
  dsimp only [ResolvedFormat.templates]
  rw [if_pos hkind, hserial]
  rfl

/-- It shows a duration as a time of day. -/
theorem render_duration {d : Duration} (htime : d.timeOfDay? = some i) :
    render format override (.duration d) = render format override (.dateTime i) := by
  rw [render_dateTime hkind, render, renderWith]
  dsimp only [ResolvedFormat.templates]
  rw [if_pos hkind, htime]
  rfl

end DateFormats

/-- **A duration, its serial number and the instant so long after the origin are shown alike**,
under a date format whose template shows no date, in every locale: for a duration below the bound
of the serial numbers that is not negative and exact to the millisecond. Under `HH:mm:ss` they are
shown as the hours, the minutes and the seconds of the duration with the locale's separator, which
in a registered locale are the part of its own text between the days and the milliseconds. -/
theorem render_timeOfDay {format : ResolvedFormat} (hkind : format.isDateTime = true)
    (hphrase : format.phrase = none) (htemplate : format.template.IsClockTemplate)
    (override : Option Locale) {d : Duration} (hlow : 0 ≤ d.nanoseconds)
    (hhigh : d.nanoseconds < serialHigh * nanosecondsPerDay)
    (hwhole : d.nanoseconds % 1000000 = 0) :
    ∃ i : Instant, (Instant.midnight originDate).plus? d.nanoseconds = some i ∧
      render format override (.duration d) = render format override (.dateTime i) ∧
      render format override (.number d.serial) = render format override (.dateTime i) ∧
      (format.template = "HH:mm:ss".toList →
        render format override (.duration d) =
            d.clockText (override.getD format.locale).timeSeparator ∧
          (override.getD format.locale ∈ Locale.registered →
            d.text = d.daysText ++ render format override (.duration d) ++ d.fractionText)) := by
  have hend : originDate.number * nanosecondsPerDay + d.nanoseconds <
      serialHigh * nanosecondsPerDay := by
    have hzero : originDate.number = 0 := by decide
    rw [hzero]
    omega
  obtain ⟨i, hi, -, htime⟩ := Instant.exists_plus?_midnight hlow hend
  obtain ⟨j, hj, htimeOfDay⟩ := Duration.exists_timeOfDay? hlow hhigh
  have hsame : j.nanosecondOfDay = i.nanosecondOfDay := by omega
  have hserial : Instant.ofSerial? d.serial = some i := by
    rw [Duration.ofSerial?_eq_plus? hlow hhigh hwhole, hi]
  have hduration : render format override (.duration d) = render format override (.dateTime i) := by
    rw [render_duration hkind override hj, render_dateTime hkind, render_dateTime hkind,
      instantText_congr hphrase htemplate _ hsame]
  refine ⟨i, hi, hduration, render_number hkind override hserial, fun hclock => ?_⟩
  have hshown : render format override (.duration d) =
      d.clockText (override.getD format.locale).timeSeparator := by
    rw [hduration, render_dateTime hkind, instantText, hphrase]
    dsimp only
    rw [htemplate.templateText_eq, hclock]
    exact Duration.formatCustom_clock hlow _ htime
  refine ⟨hshown, fun hregistered => ?_⟩
  have hseparator : (override.getD format.locale).timeSeparator = [':'] :=
    (Locale.shows_timeSeparator hregistered).text i
  rw [hshown, hseparator]
  exact Duration.text_eq_clockText hlow

/-- A day, two hours, three minutes, four seconds and five milliseconds. -/
def Duration.dayAndMorning : Duration :=
  ⟨93784005000000, by decide⟩

/-- The number of its days is shown as the time of that morning, which its text holds. -/
theorem render_timeOfDay_dayAndMorning :
    Text.IsClockTemplate "HH:mm:ss".toList ∧ 0 ≤ Duration.dayAndMorning.nanoseconds ∧
      Duration.dayAndMorning.nanoseconds < serialHigh * nanosecondsPerDay ∧
      Duration.dayAndMorning.nanoseconds % 1000000 = 0 ∧
      render (.ofTemplate .dateTime "HH:mm:ss".toList) (some .swedish)
        (.number Duration.dayAndMorning.serial) = "02:03:04".toList ∧
      Duration.dayAndMorning.text = "1.".toList ++ "02:03:04".toList ++ ".005".toList := by
  have htemplate : Text.IsClockTemplate "HH:mm:ss".toList :=
    ⟨by decide, by decide +kernel, by decide⟩
  have hlow : 0 ≤ Duration.dayAndMorning.nanoseconds := by decide
  have hhigh : Duration.dayAndMorning.nanoseconds < serialHigh * nanosecondsPerDay := by decide
  have hwhole : Duration.dayAndMorning.nanoseconds % 1000000 = 0 := by decide
  obtain ⟨i, -, hduration, hnumber, hclock⟩ :=
    render_timeOfDay (rfl : (ResolvedFormat.ofTemplate .dateTime "HH:mm:ss".toList).isDateTime = true)
      rfl htemplate (some .swedish) hlow hhigh hwhole
  obtain ⟨hshown, htext⟩ := hclock rfl
  have hmorning : Duration.dayAndMorning.clockText Locale.swedish.timeSeparator =
      "02:03:04".toList := by decide
  refine ⟨htemplate, hlow, hhigh, hwhole, ?_, ?_⟩
  · rw [hnumber, ← hduration, hshown]
    exact hmorning
  · rw [htext (by decide), hshown]
    decide

/-- Two capital letters of the year are literal text as items, but as a template they show the year,
and so tell the first day of year 1 from the origin. -/
theorem not_render_timeOfDay :
    2 ≤ "YY".toList.length ∧
      (dateItems "YY".toList).all (fun item => !item.showsDate) = true ∧
      (Instant.midnight originDate).plus? 0 = some (.midnight originDate) ∧
      render (.ofTemplate .dateTime "YY".toList) none (.duration ⟨0, by decide⟩) =
        "01".toList ∧
      render (.ofTemplate .dateTime "YY".toList) none (.dateTime (.midnight originDate)) =
        "99".toList ∧
      render (.ofTemplate .dateTime "YY".toList) none
        (.number (Duration.serial ⟨0, by decide⟩)) = "99".toList := by
  refine ⟨by decide, by decide +kernel, by decide +kernel, ?_, ?_, ?_⟩ <;> decide +kernel

end Spreadsheet
