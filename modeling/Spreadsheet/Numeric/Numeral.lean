/-
# Decimal numerals

What a written number says: its sign, the digits before and after the point, and
the power of ten it is multiplied by. It denotes a rational number exactly and
is read as the nearest floating point number.

* `ofUnsigned?_digits` — a run of digits is read as itself.
-/

import Spreadsheet.Numeric.Binary64
import Spreadsheet.Numeric.Digits

namespace Spreadsheet

-- A power of a natural number is core's, whatever other instances are in scope.
attribute [local instance (high)] instPowNat

/-- A written decimal number. `whole` and `fraction` are decimal digits. -/
structure Numeral where
  negative : Bool
  whole : Text
  fraction : Text
  exponent : Int

namespace Numeral

/-- All digits of the numeral as one whole number. -/
def coefficient (numeral : Numeral) : Nat :=
  Nat.ofDigitChars 10 (numeral.whole ++ numeral.fraction) 0

/-- The power of ten that the coefficient is multiplied by. -/
def place (numeral : Numeral) : Int :=
  numeral.exponent - numeral.fraction.length

/-- The number that the numeral denotes. -/
def toRat (numeral : Numeral) : Rat :=
  (if numeral.negative then -1 else 1) * (numeral.coefficient : Rat) * 10 ^ numeral.place

/-- The floating point number nearest to `coefficient * 10 ^ place`. -/
def nearestScaled (negative : Bool) (coefficient : Nat) : (place : Int) → Binary64
  | .ofNat up => .ofQuotient negative (coefficient * 10 ^ up) 1
  | .negSucc down => .ofQuotient negative coefficient (10 ^ (down + 1))

/-- The floating point number that the numeral is read as. Numbers from
`10 ^ 309` up are infinite and numbers below `10 ^ -324` are zero. -/
def toBinary64 (numeral : Numeral) : Binary64 :=
  let size := digitCount numeral.coefficient + numeral.place
  if numeral.coefficient = 0 then .zero numeral.negative
  else if 310 ≤ size then .infinite numeral.negative
  else if size ≤ -324 then .zero numeral.negative
  else nearestScaled numeral.negative numeral.coefficient numeral.place

/-! ### Reading -/

/-- The power of ten that follows the mark of the exponent: an optional sign and
at least one digit, and nothing after them. -/
def exponent? (text : Text) : Option Int :=
  let unsigned? (digits : Text) : Option Int :=
    if digits ≠ [] ∧ digits.all Char.isDigit then some (Nat.ofDigitChars 10 digits 0) else none
  match text with
  | '+' :: digits => unsigned? digits
  | '-' :: digits => (unsigned? digits).map (- ·)
  | digits => unsigned? digits

/-- What stands after the digits of a numeral: nothing, or a mark and an
exponent. -/
def tail? : Text → Option Int
  | [] => some 0
  | mark :: rest => if mark = 'e' ∨ mark = 'E' then exponent? rest else none

/-- The digits before the point: a digit, and then digits and group marks. -/
def wholePart (groups : Char → Bool) (text : Text) : Text × Text :=
  if text.head?.any Char.isDigit then
    (text.takeWhile (fun c => c.isDigit || groups c),
      text.dropWhile (fun c => c.isDigit || groups c))
  else ([], text)

/-- The digits after the point, if the text goes on with one. -/
def fractionPart (point : Char) : Text → Text × Text
  | [] => ([], [])
  | c :: rest =>
    if c = point then (rest.takeWhile Char.isDigit, rest.dropWhile Char.isDigit)
    else ([], c :: rest)

/-- Reads a numeral without its sign: digits with group marks after the first,
a point and digits, either of them optional but not both without a digit, and an
optional exponent. -/
def ofUnsigned? (point : Char) (groups : Char → Bool) (negative : Bool) (text : Text) :
    Option Numeral :=
  let (whole, afterWhole) := wholePart groups text
  let (fraction, rest) := fractionPart point afterWhole
  if whole.isEmpty && fraction.isEmpty then none
  else (tail? rest).map fun exponent =>
    { negative, whole := whole.filter Char.isDigit, fraction, exponent }

/-- Reads a numeral with a point, an optional sign and no group marks. -/
def ofPlain? : Text → Option Numeral
  | '+' :: text => ofUnsigned? '.' (fun _ => false) false text
  | '-' :: text => ofUnsigned? '.' (fun _ => false) true text
  | text => ofUnsigned? '.' (fun _ => false) false text

/-- Reads a whole number: an optional plus sign and digits. -/
def count? (text : Text) : Option Nat :=
  let digits := match text with
    | '+' :: digits => digits
    | digits => digits
  if digits ≠ [] ∧ digits.all Char.isDigit then some (Nat.ofDigitChars 10 digits 0) else none

/-- A run of digits is read as itself. -/
theorem ofUnsigned?_digits {point : Char} {groups : Char → Bool} {negative : Bool} {digits : Text}
    (hne : digits ≠ []) (hdigits : ∀ c ∈ digits, c.isDigit = true) :
    ofUnsigned? point groups negative digits = some ⟨negative, digits, [], 0⟩ := by
  obtain ⟨first, rest, rfl⟩ := List.exists_cons_of_ne_nil hne
  have hfirst : first.isDigit = true := hdigits first List.mem_cons_self
  have hall : ∀ c ∈ first :: rest, (c.isDigit || groups c) = true :=
    fun c hc => by rw [hdigits c hc, Bool.true_or]
  have hwhole : wholePart groups (first :: rest) = (first :: rest, []) := by
    rw [wholePart, if_pos (by simpa using hfirst), (Text.leadingRun_eq_self hall).1,
      (Text.leadingRun_eq_self hall).2]
  have hfilter : (first :: rest).filter Char.isDigit = first :: rest :=
    List.filter_eq_self.2 hdigits
  simp only [ofUnsigned?, hwhole, fractionPart, tail?, hfilter, List.isEmpty_cons,
    Bool.false_and, Bool.false_eq_true, if_false, Option.map_some]

end Numeral

end Spreadsheet
