/-
# Instants in interchange text

The text `YYYY-MM-DDTHH:MM:SS` with a fraction of three, six or nine digits when
one is needed, and its reader. The reader is more generous: a year with a sign may
have any number of digits, the other parts may have one digit, and blanks may
stand before a part, before a mark between two parts and at the end. Only the
fraction of the second takes none: it follows its second at once.

A 60th second is read as a leap second, which no instant is.

* `afterMark?_mark` — the blanks before a mark may be absent.
-/

import Spreadsheet.Calendar.Instant
import Spreadsheet.Text.Blank

namespace Spreadsheet

-- A power of a natural number is core's, whatever other instances are in scope.
attribute [local instance (high)] instPowNat

namespace Instant

/-- The fraction of the second in three, six or nine digits; nothing for a whole
second. -/
def fractionText (nanosecond : Nat) : Text :=
  if nanosecond = 0 then []
  else if nanosecond % 1000000 = 0 then '.' :: Text.number 3 (nanosecond / 1000000)
  else if nanosecond % 1000 = 0 then '.' :: Text.number 6 (nanosecond / 1000)
  else '.' :: Text.number 9 nanosecond

/-- The instant in interchange text. -/
def isoText (i : Instant) : Text :=
  i.dateText ++ ['T'] ++ i.timeText ++ fractionText i.nanosecond

end Instant

/-- What an interchange text says: an instant, or a point in the leap second that
follows the second of an instant. -/
inductive ClockReading where
  | instant (value : Instant)
  | leapSecond (previous : Instant)

namespace Iso

/-- The number written by one to `most` digits after blanks. -/
def number? (most : Nat) (text : Text) : Option (Nat × Text) :=
  let start := text.trimStart
  let digits := (start.take most).takeWhile Char.isDigit
  if digits.isEmpty then none
  else some (Nat.ofDigitChars 10 digits 0, start.drop digits.length)

/-- What follows a mark that stands after blanks. -/
def afterMark? (mark : Char) (text : Text) : Option Text :=
  Text.afterLeading? [mark] text.trimStart

/-- Without blanks a mark is read at once. -/
theorem afterMark?_mark {mark : Char} (visible : isBlank mark = false) (rest : Text) :
    afterMark? mark (mark :: rest) = some rest := by
  have htrim : Text.trimStart (mark :: rest) = mark :: rest := by
    simp [Text.trimStart, visible]
  rw [afterMark?, htrim, Text.afterLeading?_eq_some_iff, List.singleton_append]

/-- The year: up to four digits, or a sign and any number of them. -/
def year? (text : Text) : Option (Int × Text) :=
  match text.trimStart with
  | '-' :: rest => (digitsAfterSign? rest).map fun (value, left) => (-(value : Int), left)
  | '+' :: rest => (digitsAfterSign? rest).map fun (value, left) => ((value : Int), left)
  | start => (number? 4 start).map fun (value, left) => ((value : Int), left)
where
  /-- All digits at the start of the text, at least one. -/
  digitsAfterSign? (text : Text) : Option (Nat × Text) :=
    let digits := text.takeWhile Char.isDigit
    if digits.isEmpty then none
    else some (Nat.ofDigitChars 10 digits 0, text.drop digits.length)

/-- The nanoseconds written after a point, the digits beyond the ninth being
dropped; zero without a point. -/
def nanosecond? : Text → Option (Nat × Text)
  | '.' :: rest =>
    let digits := (rest.take 9).takeWhile Char.isDigit
    if digits.isEmpty then none
    else some (Nat.ofDigitChars 10 digits 0 * 10 ^ (9 - digits.length),
      rest.dropWhile Char.isDigit)
  | text => some (0, text)

/-- The reading of the parts of a date and time. -/
def reading? (year : Int) (month day hour minute second nanosecond : Nat) :
    Option ClockReading := do
  let date ← Date.of? year month day
  if second = 60 then (Instant.at? date hour minute 59 nanosecond).map .leapSecond
  else (Instant.at? date hour minute second nanosecond).map .instant

end Iso

open Iso

/-- The instant or leap second that an interchange text says. -/
def ClockReading.ofIso? (text : Text) : Option ClockReading := do
  let (year, rest) ← year? text
  let (month, rest) ← number? 2 (← afterMark? '-' rest)
  let (day, rest) ← number? 2 (← afterMark? '-' rest)
  let (hour, rest) ← number? 2 (← afterMark? 'T' rest)
  let (minute, rest) ← number? 2 (← afterMark? ':' rest)
  let (second, rest) ← number? 2 (← afterMark? ':' rest)
  let (nanosecond, rest) ← nanosecond? rest
  if (Text.trimStart rest).isEmpty then reading? year month day hour minute second nanosecond
  else none

end Spreadsheet
