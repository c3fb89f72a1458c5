/-
# The general number format

A number in at most fifteen significant digits, without superfluous zeros: in
plain notation from `10 ^ -4` up to `10 ^ 15`, and with an exponent elsewhere.

* `formatGeneral_not_finite` — what is not finite is shown as an error.
-/

import Spreadsheet.Locale.Basic
import Spreadsheet.Numeric.Notation

namespace Spreadsheet

/-- The text of a number that is not finite. -/
def numberError : Text := "#NUM!".toList

/-- The name of the general format, as a pattern. -/
def generalName : Text := "General".toList

/-- A decimal in plain notation with the locale's separator. -/
def Decimal.plainTextIn (locale : Locale) (d : Decimal) : Text :=
  d.wholeText ++ (if d.fractionLength = 0 then [] else locale.decimalSeparator :: d.fractionText)

/-- A decimal as one digit, the others after the locale's separator, and an
exponent with a sign and at least two digits. -/
def Decimal.exponentTextIn (locale : Locale) (d : Decimal) : Text :=
  let exponent := d.scale - 1
  Digits.text (d.digits.take 1) ++
    (if d.digits.length ≤ 1 then []
      else locale.decimalSeparator :: Digits.text (d.digits.drop 1)) ++
    (if exponent < 0 then ['E', '-'] else ['E', '+']) ++ Text.number 2 exponent.natAbs

/-- Whether the general format shows a decimal in plain notation. -/
def Decimal.isPlain (d : Decimal) : Bool :=
  decide (-4 < d.scale) && decide (d.scale ≤ Decimal.shownDigits)

/-- A number in the general format. -/
def formatGeneral (locale : Locale) (x : Binary64) : Text :=
  if x.isFinite then
    let d := Decimal.ofBinary64 x
    if d.isZero then ['0']
    else (if x.isNegative then locale.negativeSign else []) ++
      (if d.isPlain then d.plainTextIn locale else d.exponentTextIn locale)
  else numberError

/-- What is not finite is shown as an error. -/
theorem formatGeneral_not_finite {locale : Locale} {x : Binary64} (h : x.isFinite = false) :
    formatGeneral locale x = numberError := by
  rw [formatGeneral, h, if_neg Bool.false_ne_true]

end Spreadsheet
