/-
# Date and time patterns

A pattern such as `yyyy-MM-dd HH:mm` is read into items: fields, which are runs of
one letter, the separators of date and time, and text. Every other character
stands for itself, but `%` for nothing.

A pattern of one letter is a standard pattern of the locale, if there is one for
the letter; the empty pattern is `G`.

* `appendItem_literal` — text and separators are shown as they are.
-/

import Spreadsheet.Calendar.Instant
import Spreadsheet.Locale.Registry

namespace Spreadsheet

-- A power of a natural number is core's, whatever other instances are in scope.
attribute [local instance (high)] instPowNat

/-! ### Items -/

/-- A part of an instant that a run of letters shows. -/
inductive DateField where
  | day
  | month
  | year
  | clockHour
  | hour
  | minute
  | second
  | fraction
  | shortFraction
  | designator
  | era
  | offset
  | zone
deriving DecidableEq

/-- The field that a letter stands for. -/
def DateField.ofChar? : Char → Option DateField
  | 'd' => some .day
  | 'M' => some .month
  | 'y' => some .year
  | 'h' => some .clockHour
  | 'H' => some .hour
  | 'm' => some .minute
  | 's' => some .second
  | 'f' => some .fraction
  | 'F' => some .shortFraction
  | 't' => some .designator
  | 'g' => some .era
  | 'z' => some .offset
  | 'K' => some .zone
  | _ => none

/-- A part of a date and time pattern. -/
inductive DateItem where
  | field (field : DateField) (width : Nat)
  | dateSeparator
  | timeSeparator
  | literal (text : Text)
deriving DecidableEq

namespace DateItem

/-- The item of a character that is neither a field nor a quote nor a backslash. -/
def ofChar (c : Char) : DateItem :=
  if c = ':' then .timeSeparator
  else if c = '/' then .dateSeparator
  else if c = '%' then .literal []
  else .literal [c]

/-- The first item of a pattern that begins with `c`, and the rest. -/
def first (c : Char) (rest : Text) : DateItem × Text :=
  match DateField.ofChar? c with
  | some kind => (.field kind (rest.takeWhile (· == c)).length.succ, rest.dropWhile (· == c))
  | none =>
    if c = '"' ∨ c = '\'' then
      (.literal (rest.takeWhile (· != c)), (rest.dropWhile (· != c)).drop 1)
    else if c = '\\' then (.literal (rest.take 1), rest.drop 1)
    else (ofChar c, rest)

theorem length_dropWhile_le (drops : Char → Bool) (text : Text) :
    (text.dropWhile drops).length ≤ text.length :=
  (List.dropWhile_sublist drops).length_le

theorem length_first (c : Char) (rest : Text) : (first c rest).2.length ≤ rest.length := by
  unfold first
  split
  · exact length_dropWhile_le _ rest
  · split
    · have := length_dropWhile_le (· != c) rest
      rw [List.length_drop]
      omega
    · split
      · rw [List.length_drop]
        exact Nat.sub_le _ _
      · exact Nat.le_refl _

end DateItem

/-- The items of a pattern. -/
def dateItems : Text → List DateItem
  | [] => []
  | c :: rest => (DateItem.first c rest).1 :: dateItems (DateItem.first c rest).2
termination_by text => text.length
decreasing_by exact Nat.lt_succ_of_le (DateItem.length_first c rest)

/-! ### Fields -/

/-- The month of a date, January being 0. -/
def Date.monthIndex (date : Date) : Fin 12 :=
  ⟨date.month - 1, by
    have h := date.day_range
    unfold Calendar.daysInMonth at h
    split at h
    · omega
    · cases hget : (Calendar.monthLengths (Calendar.isLeapYear date.year))[date.month - 1]? with
      | none =>
        rw [hget, Option.getD_none] at h
        omega
      | some length =>
        have hlt := (List.getElem?_eq_some_iff.1 hget).1
        simpa [Calendar.monthLengths] using hlt⟩

/-- A number with its sign and leading zeros; the sign counts in the width. -/
def signedNumber (width : Nat) (n : Int) : Text :=
  if n < 0 then '-' :: Text.number (width - 1) n.natAbs else Text.number width n.natAbs

/-- The year under a run of so many letters: of one or two letters, the last two
digits. -/
def yearText (width : Nat) (year : Int) : Text :=
  if width ≤ 2 then Text.number width (year % 100).toNat else signedNumber width year

/-- The first digits of the fraction of a second, at most nine. -/
def fractionDigits (width nanosecond : Nat) : Text :=
  let places := min width 9
  Text.number places (nanosecond / 10 ^ (9 - places))

/-- The hour on a clock of twelve hours. -/
def clockHour (hour : Nat) : Nat :=
  if hour % 12 = 0 then 12 else hour % 12

/-- The designator of the half of the day. -/
def designatorOf (locale : Locale) (hour : Nat) : Text :=
  if hour < 12 then locale.amDesignator else locale.pmDesignator

/-- The text of a field under a run of so many letters. -/
def fieldText (locale : Locale) (i : Instant) (width : Nat) : DateField → Text
  | .day =>
    if width ≤ 2 then Text.number width i.date.day
    else if width = 3 then locale.abbreviatedDayNames[i.date.weekday]
    else locale.dayNames[i.date.weekday]
  | .month =>
    if width ≤ 2 then Text.number width i.date.month
    else if width = 3 then locale.abbreviatedMonthNames[i.date.monthIndex]
    else locale.monthNames[i.date.monthIndex]
  | .year => yearText width i.date.year
  | .clockHour => Text.number (min width 2) (clockHour i.hour)
  | .hour => Text.number (min width 2) i.hour
  | .minute => Text.number (min width 2) i.minute
  | .second => Text.number (min width 2) i.second
  | .fraction => fractionDigits width i.nanosecond
  | .shortFraction => Text.dropTrailing (· == '0') (fractionDigits width i.nanosecond)
  | .designator =>
    if width = 1 then (designatorOf locale i.hour).take 1 else designatorOf locale i.hour
  | .era => "A.D.".toList
  | .offset =>
    if width = 1 then "+0".toList else if width = 2 then "+00".toList else "+00:00".toList
  | .zone => []

/-! ### Showing an instant -/

/-- The text without a point at its end. -/
def dropPoint (text : Text) : Text :=
  if text.getLast? = some '.' then text.dropLast else text

/-- Appends the text of an item. A short fraction that shows nothing takes away a
point before it. -/
def appendItem (locale : Locale) (i : Instant) (shown : Text) : DateItem → Text
  | .field .shortFraction width =>
    let digits := fieldText locale i width .shortFraction
    if digits.isEmpty then dropPoint shown else shown ++ digits
  | .field kind width => shown ++ fieldText locale i width kind
  | .dateSeparator => shown ++ locale.dateSeparator
  | .timeSeparator => shown ++ locale.timeSeparator
  | .literal text => shown ++ text

/-- An instant under the items of a pattern. -/
def formatItems (locale : Locale) (i : Instant) (items : List DateItem) : Text :=
  items.foldl (appendItem locale i) []

/-- An instant under a pattern that is not a standard one. -/
def formatCustom (locale : Locale) (pattern : Text) (i : Instant) : Text :=
  formatItems locale i (dateItems pattern)

theorem appendItem_literal (locale : Locale) (i : Instant) (shown text : Text) :
    appendItem locale i shown (.literal text) = shown ++ text := rfl

/-! ### Standard patterns -/

/-- Two patterns with a space between them. -/
def joined (a b : Text) : Text :=
  a ++ ' ' :: b

/-- The pattern and the locale that a letter stands for. The letter `R` writes
English names wherever it is used. -/
def standardPattern? (locale : Locale) : Char → Option (Text × Locale)
  | 'd' => some (locale.shortDatePattern, locale)
  | 'D' => some (locale.longDatePattern, locale)
  | 't' => some (locale.shortTimePattern, locale)
  | 'T' => some (locale.longTimePattern, locale)
  | 'f' => some (joined locale.longDatePattern locale.shortTimePattern, locale)
  | 'F' | 'U' => some (joined locale.longDatePattern locale.longTimePattern, locale)
  | 'g' => some (joined locale.shortDatePattern locale.shortTimePattern, locale)
  | 'G' => some (joined locale.shortDatePattern locale.longTimePattern, locale)
  | 'M' | 'm' => some (locale.monthDayPattern, locale)
  | 'Y' | 'y' => some (locale.yearMonthPattern, locale)
  | 's' => some ("yyyy'-'MM'-'dd'T'HH':'mm':'ss".toList, locale)
  | 'u' => some ("yyyy'-'MM'-'dd HH':'mm':'ss'Z'".toList, locale)
  | 'O' | 'o' => some ("yyyy'-'MM'-'dd'T'HH':'mm':'ss'.'fffffff".toList, locale)
  | 'R' | 'r' => some ("ddd, dd MMM yyyy HH':'mm':'ss 'GMT'".toList, .invariant)
  | _ => none

/-- An instant under a date and time pattern. -/
def formatDateTime (locale : Locale) (pattern : Text) (i : Instant) : Text :=
  match if pattern.isEmpty then ['G'] else pattern with
  | [letter] =>
    match standardPattern? locale letter with
    | some (standard, standardLocale) => formatCustom standardLocale standard i
    | none => formatCustom locale [letter] i
  | custom => formatCustom locale custom i

end Spreadsheet
