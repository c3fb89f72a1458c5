/-
# Showing cells

The text of a cell under a format. Showing never fails: what a format cannot show
is shown as nothing or by its natural text.

* `render_empty` — an empty cell shows nothing.
* `renderWith_dateTime_number` — under a number format a date is shown as its
  serial number.
-/

import Spreadsheet.Cell.Basic
import Spreadsheet.Format.DatePattern
import Spreadsheet.Format.Fraction
import Spreadsheet.Format.Number
import Spreadsheet.Format.Resolved
import Spreadsheet.Format.Substitution

namespace Spreadsheet

/-! ### Numbers -/

/-- A number under a number format. -/
def numberText (format : ResolvedFormat) (template : Text) (locale : Locale) (x : Binary64) :
    Text :=
  if !x.isFinite then numberError
  else
    match format.fraction.filter (fun pattern => !pattern.isEmpty) with
    | some pattern => formatFraction pattern x
    | none => formatSections locale template x

/-! ### Dates -/

/-- The standard pattern of a phrase. -/
def DatePhrase.pattern : DatePhrase → Text
  | .longDate => ['D']
  | .longTime => ['T']
  | .shortDate => ['d']

/-- An instant under a template, short templates being read as single fields: `d`
and `D` show the day, `M` the month, `m` the minute, and `y` to `yyyy` the year in
two or in three digits. -/
def templateText (locale : Locale) (template : Text) (i : Instant) : Text :=
  if template = ['d'] ∨ template = ['D'] then Nat.toDigits 10 i.date.day
  else if template = ['M'] then Nat.toDigits 10 i.date.month
  else if template = ['m'] then Nat.toDigits 10 i.minute
  else if template.equalsIgnoringAsciiCase ['y'] ∨ template.equalsIgnoringAsciiCase ['y', 'y'] then
    formatDateTime locale ['y', 'y'] i
  else if template.equalsIgnoringAsciiCase ['y', 'y', 'y'] ∨
      template.equalsIgnoringAsciiCase ['y', 'y', 'y', 'y'] then
    formatDateTime locale ['y', 'y', 'y'] i
  else formatDateTime locale template i

/-- An instant under a date format. -/
def instantText (format : ResolvedFormat) (template : Text) (locale : Locale) (i : Instant) :
    Text :=
  match format.phrase with
  | some phrase => formatDateTime locale phrase.pattern i
  | none => templateText locale template i

/-- The first day of year 1. -/
def firstDayOfYearOne : Date :=
  ⟨1, 1, 1, by decide, by decide⟩

/-- A duration as a time of day, the first day being the first of year 1; `none` if
it is negative or goes beyond year 9999. -/
def Duration.timeOfDay? (d : Duration) : Option Instant :=
  if d.isNegative then none
  else ((Instant.midnight firstDayOfYearOne).plus? d.nanoseconds).filter
    (fun i => decide (i.date.year ≤ 9999))

/-- A number under a format: as the date it is the serial number of, or as a number.
A number that is no serial is shown as nothing under a date format. -/
def serialText (format : ResolvedFormat) (template : Text) (locale : Locale) (x : Binary64) :
    Text :=
  if format.isDateTime then
    match Instant.ofSerial? x with
    | some i => instantText format template locale i
    | none => []
  else numberText format template locale x

/-! ### Cells -/

/-- A text under a text template; the empty template leaves it as it is. -/
def textUnder (textTemplate text : Text) : Text :=
  if textTemplate.isEmpty then text else substitute text textTemplate

/-- A cell under a format, with the given templates in place of the format's. -/
def renderWith (format : ResolvedFormat) (templates : Text × Text) (override : Option Locale)
    (value : Cell) : Text :=
  let locale := override.getD format.locale
  let template := templates.1
  match value with
  | .empty => []
  | .number x => serialText format template locale x
  | .integer n => serialText format template locale (.ofInt n.toInt)
  | .dateTime i =>
    if format.isDateTime then instantText format template locale i
    else numberText format template locale i.serial
  | .duration d =>
    if format.isDateTime then
      match d.timeOfDay? with
      | some i => instantText format template locale i
      | none => d.text
    else numberText format template locale d.serial
  | .text _ | .boolean _ => textUnder templates.2 value.naturalText

/-- A cell under a format; another locale may take the place of the format's. -/
def render (format : ResolvedFormat) (override : Option Locale) (value : Cell) : Text :=
  renderWith format (format.templates false) override value

/-- An empty cell shows nothing. -/
theorem render_empty (format : ResolvedFormat) (override : Option Locale) :
    render format override .empty = [] := rfl

/-- Under a number format a date is shown as its serial number. -/
theorem renderWith_dateTime_number {format : ResolvedFormat} (h : format.isDateTime = false)
    (templates : Text × Text) (override : Option Locale) (i : Instant) :
    renderWith format templates override (.dateTime i) =
      renderWith format templates override (.number i.serial) := by
  simp only [renderWith, serialText, h, Bool.false_eq_true, if_false]

end Spreadsheet
