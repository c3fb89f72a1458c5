/-
# Instants

A date and a time of day, exact to the nanosecond, with no time zone and no leap
seconds. Counted in nanoseconds from the origin of serial numbers, instants are
whole numbers, and moving one by a duration is addition.

* `at?_parts` — an instant is made of the parts of its time of day.
* `exists_at?` — every time of day is that of an instant.
-/

import Spreadsheet.Calendar.Date
import Spreadsheet.Calendar.Duration

namespace Spreadsheet

/-- The nanoseconds of a day. -/
def nanosecondsPerDay : Nat := 86400000000000

/-- A time on a date. -/
structure Instant where
  date : Date
  nanosecondOfDay : Nat
  in_day : nanosecondOfDay < nanosecondsPerDay
deriving DecidableEq

namespace Instant

/-- The start of a date. -/
def midnight (date : Date) : Instant :=
  ⟨date, 0, by decide⟩

/-- The instant at a time of day, if there is such a time. -/
def at? (date : Date) (hour minute second nanosecond : Nat) : Option Instant :=
  if h : hour < 24 ∧ minute < 60 ∧ second < 60 ∧ nanosecond < 1000000000 then
    some ⟨date, ((hour * 60 + minute) * 60 + second) * 1000000000 + nanosecond, by
      unfold nanosecondsPerDay
      omega⟩
  else none

/-! ### Parts of the time of day -/

/-- The hour, from 0 to 23. -/
def hour (i : Instant) : Nat := i.nanosecondOfDay / 3600000000000

/-- The minute of the hour. -/
def minute (i : Instant) : Nat := i.nanosecondOfDay / 60000000000 % 60

/-- The second of the minute. -/
def second (i : Instant) : Nat := i.nanosecondOfDay / 1000000000 % 60

/-- The nanosecond of the second. -/
def nanosecond (i : Instant) : Nat := i.nanosecondOfDay % 1000000000

/-- Whether the instant is the start of its date. -/
def isMidnight (i : Instant) : Bool :=
  i.nanosecondOfDay == 0

/-- An instant is made of the parts of its time of day. -/
theorem at?_parts (i : Instant) :
    at? i.date i.hour i.minute i.second i.nanosecond = some i := by
  have hday := i.in_day
  unfold nanosecondsPerDay at hday
  have hparts : i.hour < 24 ∧ i.minute < 60 ∧ i.second < 60 ∧ i.nanosecond < 1000000000 := by
    unfold hour minute second nanosecond
    omega
  have htotal : ((i.hour * 60 + i.minute) * 60 + i.second) * 1000000000 + i.nanosecond =
      i.nanosecondOfDay := by
    unfold hour minute second nanosecond
    omega
  simp only [at?, dif_pos hparts, htotal]

/-- Every time of day is one of a date, and its parts are those it was made of. -/
theorem exists_at? (date : Date) {hour minute second nanosecond : Nat} (hhour : hour < 24)
    (hminute : minute < 60) (hsecond : second < 60) (hnanosecond : nanosecond < 1000000000) :
    ∃ i, at? date hour minute second nanosecond = some i ∧ i.date = date ∧ i.hour = hour ∧
      i.minute = minute ∧ i.second = second ∧ i.nanosecond = nanosecond := by
  refine ⟨_, dif_pos ⟨hhour, hminute, hsecond, hnanosecond⟩, rfl, ?_, ?_, ?_, ?_⟩
  · change (((hour * 60 + minute) * 60 + second) * 1000000000 + nanosecond) / 3600000000000 = hour
    omega
  · change (((hour * 60 + minute) * 60 + second) * 1000000000 + nanosecond) / 60000000000 % 60 =
      minute
    omega
  · change (((hour * 60 + minute) * 60 + second) * 1000000000 + nanosecond) / 1000000000 % 60 =
      second
    omega
  · change (((hour * 60 + minute) * 60 + second) * 1000000000 + nanosecond) % 1000000000 =
      nanosecond
    omega

/-! ### Counting nanoseconds -/

/-- The nanoseconds from the start of 1899-12-30 to the instant. -/
def ticks (i : Instant) : Int :=
  i.date.number * nanosecondsPerDay + i.nanosecondOfDay

/-- The instant at the given count of nanoseconds, if the calendar reaches it. -/
def ofTicks? (ticks : Int) : Option Instant :=
  (Date.ofNumber? (ticks / nanosecondsPerDay)).map fun date =>
    ⟨date, (ticks % nanosecondsPerDay).toNat, by unfold nanosecondsPerDay; omega⟩

/-- The instant `ticks` nanoseconds later. -/
def plus? (i : Instant) (ticks : Int) : Option Instant :=
  ofTicks? (i.ticks + ticks)

/-- The order of time. -/
def order (a b : Instant) : Ordering :=
  compare a.ticks b.ticks

/-! ### Text -/

/-- A year in at least four digits; before year 0 and after year 9999 it carries
its sign. -/
def yearText (year : Int) : Text :=
  (if year < 0 then ['-'] else if 9999 < year then ['+'] else []) ++ Text.number 4 year.natAbs

/-- The date as `YYYY-MM-DD`. -/
def dateText (i : Instant) : Text :=
  yearText i.date.year ++ ['-'] ++ Text.number 2 i.date.month ++ ['-'] ++
    Text.number 2 i.date.day

/-- The time of day as `HH:MM:SS`. -/
def timeText (i : Instant) : Text :=
  Text.number 2 i.hour ++ [':'] ++ Text.number 2 i.minute ++ [':'] ++ Text.number 2 i.second

/-- The date, followed by the time of day unless it is midnight. -/
def text (i : Instant) : Text :=
  if i.isMidnight then i.dateText else i.dateText ++ [' '] ++ i.timeText

end Instant

end Spreadsheet
