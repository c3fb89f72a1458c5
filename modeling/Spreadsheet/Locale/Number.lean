/-
# Numbers in a locale

Reading a number as people of a locale write it: blanks around it, a sign, group
separators among the digits before the decimal separator, and an exponent.

* `readNumber?_isFinite` — a number that is read is finite.
-/

import Spreadsheet.Locale.Basic
import Spreadsheet.Numeric.Numeral
import Spreadsheet.Text.Blank

namespace Spreadsheet

namespace Locale

/-- The sign at the start of a number, as whether it is negative, and the text
after it: plus, minus, or the locale's own negative sign. -/
def readSign (locale : Locale) : Text → Bool × Text
  | '+' :: rest => (false, rest)
  | '-' :: rest => (true, rest)
  | text =>
    match Text.afterLeading? locale.negativeSign text with
    | some rest => (true, rest)
    | none => (false, text)

/-- The numeral that the text writes, if it writes one. -/
def numeral? (locale : Locale) (text : Text) : Option Numeral :=
  let (negative, unsigned) := locale.readSign text.trim
  Numeral.ofUnsigned? locale.decimalSeparator (· == locale.groupSeparator) negative unsigned

/-- The number that the text writes, if it writes one and it is finite. -/
def readNumber? (locale : Locale) (text : Text) : Option Binary64 :=
  ((locale.numeral? text).map Numeral.toBinary64).filter Binary64.isFinite

theorem readNumber?_isFinite {locale : Locale} {text : Text} {x : Binary64}
    (h : locale.readNumber? text = some x) : x.isFinite = true := by
  rw [readNumber?, Option.filter_eq_some_iff] at h
  exact h.2

end Locale

end Spreadsheet
