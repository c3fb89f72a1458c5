/-
# Numbers in JSON

Floating point numbers are written in their shortest digits, with a point and at
least one digit after it from `10 ^ -5` up to `10 ^ 16`, and with an exponent
elsewhere; of two shortest decimals that are equally near the even one is
written. What is not finite is written as `null`.

A number is read in two steps that each round: its digits are gathered in a
64-bit significand, and that is multiplied or divided by a power of ten.
-/

import Spreadsheet.Numeric.Notation

namespace Spreadsheet

namespace Json

/-! ### Writing -/

/-- A decimal with a point and a digit after it. -/
def pointText (d : Decimal) : Text :=
  d.wholeText ++ ['.'] ++ (if d.fractionLength = 0 then ['0'] else d.fractionText)

/-- A decimal as one digit, the others after a point, and a signed exponent. -/
def exponentText (d : Decimal) : Text :=
  let exponent := d.scale - 1
  Digits.text (d.digits.take 1) ++
    (if d.digits.length ≤ 1 then [] else '.' :: Digits.text (d.digits.drop 1)) ++
    (if exponent < 0 then ['e', '-'] else ['e', '+']) ++ Nat.toDigits 10 exponent.natAbs

/-- A floating point number in JSON. -/
def numberText : Binary64 → Text
  | x@(.finite negative _ _) =>
    let d := Decimal.shortest .even x
    signText negative ++
      if -4 ≤ d.scale ∧ d.scale ≤ 16 then pointText d else exponentText d
  | _ => "null".toList

/-! ### Reading -/

/-- A number as it is written in JSON. `whole` and `fraction` are digits. -/
structure WrittenNumber where
  negative : Bool
  whole : Text
  fraction : Option Text
  exponent : Option Int

/-- The digits at the start of the text, at least one, and the rest. -/
def digits? (text : Text) : Option (Text × Text) :=
  let digits := text.takeWhile Char.isDigit
  if digits.isEmpty then none else some (digits, text.dropWhile Char.isDigit)

/-- The digits before the point: a single zero, or digits that do not start with
one. -/
def whole? (text : Text) : Option (Text × Text) := do
  let (digits, rest) ← digits? text
  if digits.head? = some '0' ∧ digits.length ≠ 1 then none else some (digits, rest)

/-- The digits after a point, if there is one. -/
def fraction? : Text → Option (Option Text × Text)
  | '.' :: rest => (digits? rest).map fun (digits, left) => (some digits, left)
  | text => some (none, text)

/-- The exponent, if there is one. -/
def exponent? : Text → Option (Option Int × Text)
  | [] => some (none, [])
  | mark :: rest =>
    if mark = 'e' ∨ mark = 'E' then
      match rest with
      | '+' :: text => (digits? text).map fun (digits, left) =>
          (some (Nat.ofDigitChars 10 digits 0 : Int), left)
      | '-' :: text => (digits? text).map fun (digits, left) =>
          (some (-(Nat.ofDigitChars 10 digits 0 : Int)), left)
      | text => (digits? text).map fun (digits, left) =>
          (some (Nat.ofDigitChars 10 digits 0 : Int), left)
    else some (none, mark :: rest)

/-- Reads a number and the text after it. -/
def number? (text : Text) : Option (WrittenNumber × Text) := do
  let (negative, text) := match text with
    | '-' :: rest => (true, rest)
    | text => (false, text)
  let (whole, rest) ← whole? text
  let (fraction, rest) ← fraction? rest
  let (exponent, rest) ← exponent? rest
  return ({ negative, whole, fraction, exponent }, rest)

/-- The greatest significand. -/
def maxSignificand : Nat := 0xFFFFFFFFFFFFFFFF

/-- Takes digits into the significand as long as it does not grow too large, and
returns it with the digits that are left. -/
def gather (significand : Nat) : Text → Nat × Text
  | [] => (significand, [])
  | digit :: rest =>
    let next := significand * 10 + (digit.toNat - '0'.toNat)
    if next ≤ maxSignificand then gather next rest else (significand, digit :: rest)

/-- A power of ten as a floating point number. -/
def powerOfTen (exponent : Nat) : Binary64 :=
  .ofRat (10 ^ (exponent : Int))

/-- A magnitude times a power of ten, rounded at each step; `none` when it is too
large. Below the least power of ten, the magnitude is divided in several steps. -/
def scaled? (magnitude : Binary64) (exponent : Int) : Option Binary64 :=
  if 308 < exponent then
    if magnitude.isZero then some magnitude else none
  else if 0 ≤ exponent then
    let product := Binary64.ofRat (magnitude.toRat * (powerOfTen exponent.toNat).toRat)
    if product.isFinite then some product else none
  else if -308 ≤ exponent then
    some (.ofRat (magnitude.toRat / (powerOfTen exponent.natAbs).toRat))
  else if magnitude.isZero then some magnitude
  else scaled? (.ofRat (magnitude.toRat / (powerOfTen 308).toRat)) (exponent + 308)
termination_by exponent.natAbs
decreasing_by omega

namespace WrittenNumber

/-- The whole number that is written, if it has neither a fraction nor an exponent
and fits a significand. The number `-0` is not a whole number. -/
def toInt? (number : WrittenNumber) : Option Int :=
  match number.fraction, number.exponent, gather 0 number.whole with
  | none, none, (significand, []) =>
    if number.negative then
      if significand = 0 then none else some (-(significand : Int))
    else some significand
  | _, _, _ => none

/-- The significand and the power of ten it is multiplied by. Digits before the
point that do not fit the significand count as a power of ten, those after it are
dropped. -/
def parts (number : WrittenNumber) : Nat × Int :=
  let (wholePart, wholeLeft) := gather 0 number.whole
  let fraction := number.fraction.getD []
  let (significand, fractionLeft) := gather wholePart fraction
  (significand,
    number.exponent.getD 0 + wholeLeft.length - (fraction.length - fractionLeft.length : Nat))

/-- The floating point number that is read; `none` when it is too large. -/
def toBinary64? (number : WrittenNumber) : Option Binary64 :=
  let (significand, exponent) := number.parts
  (scaled? (.ofInt significand) exponent).map fun magnitude =>
    if number.negative then magnitude.neg else magnitude

end WrittenNumber

end Json

end Spreadsheet
