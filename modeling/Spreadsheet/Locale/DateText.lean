/-
# Dates in a locale

Reading a date, with or without a time of day, as people of a locale write it:
in numbers, in the locale's order or with a year of four digits first, or with
the name of the month. A text that holds a colon has a time of day, which starts
after the last blank or `T` before the first colon.

* `readDate?_no_colon` — a text without a colon is read as the start of a date.
-/

import Spreadsheet.Calendar.Instant
import Spreadsheet.Locale.Month
import Spreadsheet.Numeric.Numeral
import Spreadsheet.Text.Letter

namespace Spreadsheet

/-! ### Parts of a date -/

/-- Whether the character stands between the parts of a date. -/
def separatesDateParts (c : Char) : Bool :=
  c == '/' || c == '-' || c == '.' || c == ',' || isBlank c

namespace Locale

/-- The year written by digits: one or two digits are a short year. -/
def yearOfDigits (locale : Locale) (digits : Text) (value : Nat) : Int :=
  if digits.length ≤ 2 then locale.fullYear value else value

/-- The order of a date in numbers: a first part of four characters is a year. -/
def numericOrder (locale : Locale) (first : Text) : DateOrder :=
  if first.length = 4 then .yearMonthDay else locale.dateOrder

/-- The date of three parts in digits. A date with dashes ends with a year of
four digits, unless it starts with the year. -/
def numericDate? (locale : Locale) (dashed : Bool) (a b c : Text) : Option Date :=
  let number (digits : Text) : Nat := Nat.ofDigitChars 10 digits 0
  match locale.numericOrder a with
  | .yearMonthDay => Date.of? (locale.yearOfDigits a (number a)) (number b) (number c)
  | .monthDayYear =>
    if dashed && c.length != 4 then none
    else Date.of? (locale.yearOfDigits c (number c)) (number a) (number b)
  | .dayMonthYear =>
    if dashed && c.length != 4 then none
    else Date.of? (locale.yearOfDigits c (number c)) (number b) (number a)

/-- The date of a named month and the two other parts in their order: a year of
four characters and a day, or a day and a year. -/
def namedDate? (locale : Locale) (name a b : Text) : Option Date := do
  let month ← locale.monthNamed? name
  let first ← Numeral.count? a
  let second ← Numeral.count? b
  if a.length = 4 then Date.of? first (month + 1) second
  else Date.of? (locale.yearOfDigits b second) (month + 1) first

/-- The date that the text writes. It has three parts; the first one with a
letter is the name of the month, and a date in numbers holds no comma and no
blank. -/
def datePart? (locale : Locale) (text : Text) : Option Date :=
  match text.fields separatesDateParts with
  | [a, b, c] =>
    if a.all Char.isDigit && b.all Char.isDigit && c.all Char.isDigit then
      if text.any (fun c => c == ',' || isBlank c) then none
      else locale.numericDate? (text.contains '-') a b c
    else if a.any isLetter then locale.namedDate? a b c
    else if b.any isLetter then locale.namedDate? b a c
    else if c.any isLetter then locale.namedDate? c a b
    else none
  | _ => none

/-! ### Times of day -/

/-- The designators of the two halves of the day, the locale's before the English
ones; true marks the second half. -/
def designators (locale : Locale) : List (Text × Bool) :=
  [(locale.amDesignator, false), (locale.pmDesignator, true),
    ("AM".toList, false), ("PM".toList, true)]

/-- The clock time before a designator at the end of the text, and the half of
the day it names. -/
def splitDesignator (locale : Locale) (clock : Text) : Text × Option Bool :=
  let found := locale.designators.find? fun (designator, _) =>
    !designator.isEmpty && clock.foldCase.endsWith designator.foldCase
  match found with
  | some (designator, afternoon) =>
    (Text.trimEnd (clock.take (clock.length - designator.length)), some afternoon)
  | none => (clock, none)

/-- The hour of the day of an hour on the clock. -/
def hourOfDay? (half : Option Bool) (hour : Nat) : Option Nat :=
  match half with
  | none => some hour
  | some afternoon =>
    if hour = 0 ∨ 12 < hour then none
    else some (hour % 12 + if afternoon then 12 else 0)

/-- The whole seconds and the milliseconds of a written number of seconds below
sixty; the milliseconds are rounded, but never up to the next second. -/
def secondsPart? (text : Text) : Option (Nat × Nat) := do
  let seconds := (← Numeral.ofPlain? text).toBinary64
  if seconds.isFinite && decide (0 ≤ seconds.toRat) && decide (seconds.toRat < 60) then
    let whole := truncate seconds.toRat
    let thousandths := Binary64.ofRat ((seconds.toRat - whole) * 1000)
    some (whole.toNat, min (roundHalfUp thousandths.toRat) 999)
  else none

/-- The instant at the time of day that the text writes on the given date. -/
def timePart? (locale : Locale) (date : Date) (text : Text) : Option Instant := do
  let (clock, half) := locale.splitDesignator text.trim
  let (hourText, minuteText, seconds) ← match clock.split (· == ':') with
    | [h, m] => some (h, m, some (0, 0))
    | [h, m, s] => some (h, m, secondsPart? s.trim)
    | _ => none
  let hour ← hourOfDay? half (← Numeral.count? hourText.trim)
  let minute ← Numeral.count? minuteText.trim
  let (second, millisecond) ← seconds
  Instant.at? date hour minute second (millisecond * 1000000)

/-! ### Dates and times -/

/-- The text of the date and that of the time of day, if the text holds a colon. -/
def splitDateAndTime (text : Text) : Text × Option Text :=
  match text.breakAt (· == ':') with
  | (_, []) => (text, none)
  | (beforeColon, fromColon) =>
    match beforeColon.breakAtLast? (fun c => isBlank c || c == 'T') with
    | none => ([], some text)
    | some (date, hour) =>
      ((date.dropTrailing (· == ',')).trimEnd, some (Text.trim (hour ++ fromColon)))

/-- The instant that the text writes; a date alone is its start. -/
def readDate? (locale : Locale) (text : Text) : Option Instant :=
  let (dateText, timeText?) := splitDateAndTime text.trim
  match locale.datePart? dateText with
  | none => none
  | some date =>
    match timeText? with
    | none => some (.midnight date)
    | some timeText => locale.timePart? date timeText

/-- A text without a colon is read as the start of a date. -/
theorem readDate?_no_colon {locale : Locale} {text : Text} (h : ':' ∉ text.trim) :
    locale.readDate? text = (locale.datePart? text.trim).map .midnight := by
  have hsplit : splitDateAndTime text.trim = (text.trim, none) := by
    have hall : ∀ c ∈ text.trim, (!(c == ':')) = true := by
      intro c hc
      have hne : c ≠ ':' := fun heq => h (heq ▸ hc)
      simp [hne]
    rw [splitDateAndTime, Text.breakAt, (Text.leadingRun_eq_self hall).2]
  rw [readDate?, hsplit]
  dsimp only
  cases locale.datePart? text.trim with
  | none => rfl
  | some date => rfl

end Locale

end Spreadsheet
