/-
# Fractions

A number as a whole part and a fraction, under a pattern such as `# ??/??` or
`?/8`. With a fixed denominator the numerator is rounded; otherwise the fraction
is found by walking down the tree of mediants between 0 and 1, until it is near
enough or its denominator would be too large.

* `walk_decreases` — every step of the walk leaves less room for denominators, which
  is why it ends.
-/

import Spreadsheet.Format.General
import Spreadsheet.Locale.Registry
import Spreadsheet.Text.Blank

namespace Spreadsheet

-- A power of a natural number is core's, whatever other instances are in scope.
attribute [local instance (high)] instPowNat

/-! ### The nearest fraction -/

/-- A fraction with a positive denominator. -/
structure Fraction where
  num : Nat
  den : Nat
  den_pos : 0 < den

namespace Fraction

/-- The lower end of the walk. -/
def zero : Fraction := ⟨0, 1, by decide⟩

/-- The upper end of the walk. -/
def one : Fraction := ⟨1, 1, by decide⟩

/-- The fraction between two neighbours in the tree. -/
def mediant (low high : Fraction) : Fraction :=
  ⟨low.num + high.num, low.den + high.den, Nat.add_pos_left low.den_pos _⟩

/-- Where a walk down the tree ends: at a fraction, or between two neighbours whose
mediant has too large a denominator. -/
inductive Walk where
  | found (f : Fraction)
  | between (low high : Fraction)

theorem walk_decreases {limit : Nat} {low high : Fraction}
    (h : ¬ limit < (mediant low high).den) :
    limit + 1 - ((mediant low high).den + high.den) < limit + 1 - (low.den + high.den) ∧
      limit + 1 - (low.den + (mediant low high).den) < limit + 1 - (low.den + high.den) := by
  have hlow := low.den_pos
  have hhigh := high.den_pos
  have hden : (mediant low high).den = low.den + high.den := rfl
  omega

/-- Walks down from two neighbours, where `side` tells on which side of the goal a
fraction lies, as long as denominators are at most `limit`. -/
def walk (limit : Nat) (side : Fraction → Ordering) (low high : Fraction) : Walk :=
  if _h : limit < (mediant low high).den then .between low high
  else
    match side (mediant low high) with
    | .eq => .found (mediant low high)
    | .lt => walk limit side (mediant low high) high
    | .gt => walk limit side low (mediant low high)
termination_by limit + 1 - (low.den + high.den)
decreasing_by
  · exact (walk_decreases _h).1
  · exact (walk_decreases _h).2

/-- The fraction as a floating point number, read as a rational number. -/
def quotient (f : Fraction) : Rat :=
  (Binary64.ofQuotient false f.num f.den).toRat

/-- The distance from a number, in floating point arithmetic. -/
def distance (f : Fraction) (x : Rat) : Rat :=
  (Binary64.ofRat (f.quotient - x)).abs.toRat

/-- A distance below this one is taken for none. -/
def tolerance : Rat :=
  (Binary64.ofQuotient false 1 1000000000000).toRat

/-- The side of a number on which the fraction lies, equal when it is near
enough. -/
def side (x : Rat) (f : Fraction) : Ordering :=
  if f.distance x < tolerance then .eq else if f.quotient < x then .lt else .gt

/-- The nearer of two fractions, the lower one if both are equally near. -/
def nearer (low high : Fraction) (x : Rat) : Fraction :=
  if low.distance x ≤ high.distance x then low else high

/-- The fraction nearest to a number from 0 up to 1, with a denominator of at most
`limit`. -/
def nearest (limit : Nat) (x : Rat) : Fraction :=
  if x ≤ 0 then zero
  else
    match walk (max limit 1) (side x) zero one with
    | .found f => f
    | .between low high => nearer low high x

end Fraction

/-! ### Patterns -/

/-- The greatest denominator that a pattern can fix. -/
def maxFixedDenominator : Nat := 2 ^ (53 : Nat)

/-- What a fraction pattern asks for. -/
structure FractionPattern where
  hasWhole : Bool
  numeratorWidth : Nat
  denominatorWidth : Nat
  fixed : Option Nat

namespace FractionPattern

/-- Whether the character is a place for a digit. -/
def isPlace (c : Char) : Bool :=
  c == '?' || c == '#' || c == '0'

/-- The text before the first slash, and the text after it; without a slash the
latter is a single place. -/
def splitSlash (pattern : Text) : Text × Text :=
  match Text.breakAt (· == '/') pattern with
  | (before, []) => (before, ['?'])
  | (before, _ :: after) => (before, after)

/-- The denominator that digits fix, unless it is zero. -/
def fixedOf (digits : Text) : Option Nat :=
  let value := min (Nat.ofDigitChars 10 digits 0) maxFixedDenominator
  if value = 0 then none else some value

/-- The pattern that a text writes. -/
def ofText (pattern : Text) : FractionPattern :=
  let (before, after) := splitSlash pattern
  let head := Text.trimEnd before
  let denominator := Text.trim after
  let digits := denominator.takeWhile Char.isDigit
  let fixed := fixedOf digits
  { hasWhole := (head.dropTrailing isPlace).any (fun c => c == '#' || c == '0')
    numeratorWidth := max (head.reverse.takeWhile isPlace).length 1
    denominatorWidth :=
      if fixed.isSome then digits.length else max (denominator.takeWhile isPlace).length 1
    fixed }

/-- The greatest denominator that is shown. -/
def maxDenominator (pattern : FractionPattern) : Nat :=
  pattern.fixed.getD (10 ^ min pattern.denominatorWidth 4 - 1)

/-- The fraction that shows the part of a number below one. -/
def fractionOf (pattern : FractionPattern) (x : Rat) : Nat × Nat :=
  match pattern.fixed with
  | some den => (roundHalfUp (Binary64.ofRat (x * den)).toRat, den)
  | none =>
    let f := Fraction.nearest pattern.maxDenominator x
    (f.num, f.den)

end FractionPattern

/-! ### Numbers as fractions -/

/-- Numbers from here on have no fraction. -/
def wholeLimit : Rat := 9007199254740992

/-- A whole part and a fraction below one. -/
structure MixedNumber where
  whole : Nat
  num : Nat
  den : Nat

/-- A number as a whole part and a fraction; `none` when the pattern has no place
for the whole part and the numerator would take more than 64 bits. -/
def FractionPattern.mixed? (pattern : FractionPattern) (magnitude : Rat) : Option MixedNumber :=
  let floor := truncate magnitude
  let (num, den) := pattern.fractionOf (magnitude - floor)
  let mixed : MixedNumber :=
    if num = den then ⟨floor.toNat + 1, 0, den⟩ else ⟨floor.toNat, num, den⟩
  if pattern.hasWhole then some mixed
  else
    let improper := mixed.whole * den + mixed.num
    if improper < 2 ^ (64 : Nat) then some ⟨0, improper, den⟩ else none

/-- A mixed number under a pattern; zero has no sign. -/
def FractionPattern.text (pattern : FractionPattern) (negative : Bool) (mixed : MixedNumber) :
    Text :=
  let sign := signText (negative && (mixed.whole != 0 || mixed.num != 0))
  let whole := Nat.toDigits 10 mixed.whole
  let fraction := Text.padLeft ' ' pattern.numeratorWidth (Nat.toDigits 10 mixed.num) ++
    '/' :: Text.padRight ' ' pattern.denominatorWidth (Nat.toDigits 10 mixed.den)
  if mixed.num = 0 then sign ++ whole
  else if mixed.whole = 0 then sign ++ fraction
  else sign ++ whole ++ ' ' :: fraction

/-- A number as a fraction. Numbers without a fraction, and numerators that would be
too large, are shown in the general format. -/
def formatFraction (pattern : Text) (x : Binary64) : Text :=
  if !x.isFinite then numberError
  else if wholeLimit ≤ x.abs.toRat then formatGeneral .invariant x
  else
    let parsed := FractionPattern.ofText pattern
    match parsed.mixed? x.abs.toRat with
    | none => formatGeneral .invariant x
    | some mixed => parsed.text x.isNegative mixed

end Spreadsheet
