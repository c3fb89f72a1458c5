/-
# Display formats

What is needed to show a cell: whether it is shown as a number or as a date, the
templates for numbers and for text, and the locale. Column widths may be measured
with templates of their own.

* `templates_of_no_width` — without them, the display templates are used.
-/

import Spreadsheet.Format.General
import Spreadsheet.Locale.Registry

namespace Spreadsheet

/-- What a format shows a number as. -/
inductive FormatKind where
  | number
  | dateTime
deriving DecidableEq

/-- A phrase of the locale that takes the place of a date template. -/
inductive DatePhrase where
  | longDate
  | longTime
  | shortDate
deriving DecidableEq

/-- A format that is ready to be applied. A fraction pattern takes the place of the
number template. -/
structure ResolvedFormat where
  kind : FormatKind
  template : Text
  textTemplate : Text
  fraction : Option Text
  phrase : Option DatePhrase
  locale : Locale
  widthTemplate : Option Text
  widthTextTemplate : Option Text
deriving DecidableEq

namespace ResolvedFormat

/-- A format of the given kind with a template and nothing else. -/
def ofTemplate (kind : FormatKind) (template : Text) : ResolvedFormat where
  kind
  template
  textTemplate := []
  fraction := none
  phrase := none
  locale := .invariant
  widthTemplate := none
  widthTextTemplate := none

/-- The format of cells that were given none. -/
def general : ResolvedFormat :=
  ofTemplate .number generalName

/-- Whether numbers are shown as dates. -/
def isDateTime (format : ResolvedFormat) : Bool :=
  format.kind == .dateTime

/-- The templates for values and for text, to show a cell or to measure it. -/
def templates (format : ResolvedFormat) (forWidth : Bool) : Text × Text :=
  if forWidth then
    (format.widthTemplate.getD format.template, format.widthTextTemplate.getD format.textTemplate)
  else (format.template, format.textTemplate)

/-- Without templates for the width, the display templates are used. -/
theorem templates_of_no_width {format : ResolvedFormat} (h : format.widthTemplate = none)
    (hText : format.widthTextTemplate = none) (forWidth : Bool) :
    format.templates forWidth = (format.template, format.textTemplate) := by
  cases forWidth with
  | false => rfl
  | true => rw [templates, if_pos rfl, h, hText]; rfl

end ResolvedFormat

end Spreadsheet
