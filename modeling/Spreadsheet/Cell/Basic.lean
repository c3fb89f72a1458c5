/-
# Cell values

What a cell holds, its natural text, and the number it stands for: a number, an
integer, an instant or a duration by its serial number.

* `numeric?_text` — a text counts as a number exactly when the locale reads it
  as one.
* `empty_ne_text` — an empty cell differs from a cell with an empty text.
-/

import Spreadsheet.Calendar.Serial
import Spreadsheet.Locale.Number
import Spreadsheet.Numeric.Notation

namespace Spreadsheet

/-- The value of a cell. -/
inductive Cell where
  | number (value : Binary64)
  | integer (value : Int64)
  | dateTime (value : Instant)
  | duration (value : Duration)
  | text (value : Text)
  | boolean (value : Bool)
  | empty
deriving DecidableEq

namespace Cell

/-- The name of the kind of value, for messages. -/
def kindName : Cell → Text
  | .number _ => "number".toList
  | .integer _ => "integer".toList
  | .dateTime _ => "datetime".toList
  | .duration _ => "duration".toList
  | .text _ => "text".toList
  | .boolean _ => "boolean".toList
  | .empty => "empty".toList

/-- Whether the cell is empty; a cell with an empty text is not. -/
def isEmpty : Cell → Bool
  | .empty => true
  | _ => false

/-- The text of a truth value. -/
def booleanText (value : Bool) : Text :=
  if value then "TRUE".toList else "FALSE".toList

/-- The text that shows the value with no format. -/
def naturalText : Cell → Text
  | .number value => value.plainText
  | .integer value => intText value.toInt
  | .dateTime value => value.text
  | .duration value => value.text
  | .text value => value
  | .boolean value => booleanText value
  | .empty => []

/-- The number that a value stands for, if it is of a kind that has one. -/
def serial? : Cell → Option Binary64
  | .number value => some value
  | .integer value => some (.ofInt value.toInt)
  | .dateTime value => some value.serial
  | .duration value => some value.serial
  | .text _ | .boolean _ | .empty => none

/-- The value as a number in comparisons: a text counts when the locale reads it
as a number, a duration does not. -/
def numeric? (locale : Locale) : Cell → Option Binary64
  | .number value => some value
  | .integer value => some (.ofInt value.toInt)
  | .dateTime value => some value.serial
  | .text value => locale.readNumber? value
  | .duration _ | .boolean _ | .empty => none

theorem numeric?_text (locale : Locale) (value : Text) :
    (text value).numeric? locale = locale.readNumber? value := rfl

/-- An empty cell is not a cell with an empty text, though both show nothing. -/
theorem empty_ne_text : empty ≠ text [] ∧ empty.naturalText = (text []).naturalText :=
  ⟨Cell.noConfusion, rfl⟩

end Cell

end Spreadsheet
