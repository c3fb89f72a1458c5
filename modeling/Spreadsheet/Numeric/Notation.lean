/-
# Numbers in plain notation

The text of a decimal with a point and no exponent, and the text of a floating
point number in its shortest digits. Of two shortest decimals that are equally
near, this text takes the greater one.
-/

import Spreadsheet.Numeric.Shortest

namespace Spreadsheet

namespace Decimal

/-- The digits before the point; a single zero when there are none. -/
def wholeText (d : Decimal) : Text :=
  let digits := d.integerDigits
  if digits.isEmpty then ['0'] else Digits.text digits

/-- The digits after the point, without final zeros. -/
def fractionText (d : Decimal) : Text :=
  Digits.text (d.fractionDigits d.fractionLength)

/-- The decimal with a point only where digits follow it. -/
def plainText (d : Decimal) : Text :=
  d.wholeText ++ (if d.fractionLength = 0 then [] else '.' :: d.fractionText)

end Decimal

/-- A minus sign for a number that carries one. -/
def signText (negative : Bool) : Text :=
  if negative then ['-'] else []

/-- A floating point number in plain notation, in the fewest digits that read
back. -/
def Binary64.plainText : Binary64 → Text
  | .nan => "NaN".toList
  | .infinite negative => signText negative ++ "inf".toList
  | x@(.finite negative _ _) => signText negative ++ (Decimal.shortest .greater x).plainText

/-- A whole number with its sign. -/
def intText (n : Int) : Text :=
  signText (decide (n < 0)) ++ Nat.toDigits 10 n.natAbs

end Spreadsheet
