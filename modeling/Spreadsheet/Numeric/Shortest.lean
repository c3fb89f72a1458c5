/-
# Shortest decimals

The decimal with the fewest digits among those that are nearer to a given
floating point number than to any other. Grids of one digit, two digits and so
on are tried in turn; on each only the two neighbours of the number matter, and
of two that qualify the nearer one is taken.

* `contains_candidate?` — a decimal that is found is read back as the number.
-/

import Spreadsheet.Numeric.Decimal

namespace Spreadsheet

-- A power of a natural number is core's, whatever other instances are in scope.
attribute [local instance (high)] instPowNat

/-- The rational numbers that round to one positive floating point number: those
between two bounds, which are themselves included when the last bit of the
number is zero. -/
structure RoundingInterval where
  low : Rat
  high : Rat
  closed : Bool

namespace RoundingInterval

/-- Whether a rational number rounds to the interval's number. -/
def contains (interval : RoundingInterval) (q : Rat) : Bool :=
  if interval.closed then decide (interval.low ≤ q) && decide (q ≤ interval.high)
  else decide (interval.low < q) && decide (q < interval.high)

/-- The interval of a positive magnitude. The next magnitude above is one step
away, and so is the one below, except that it is half a step away from a power
of two. -/
def ofUnits (units : Nat) : RoundingInterval :=
  let step := 2 ^ (units.log2 - 52)
  let significand := units / step
  let stepBelow := if significand = 2 ^ (52 : Nat) ∧ 1 < step then step else 2 * step
  { low := mkRat (4 * units - stepBelow : Int) (4 * unitsInOne)
    high := mkRat (4 * units + 2 * step : Int) (4 * unitsInOne)
    closed := significand % 2 == 0 }

end RoundingInterval

/-- Which of two decimals at the same distance is taken. -/
inductive TieRule where
  | greater
  | even

namespace TieRule

/-- The choice between two neighbours on a decimal grid that are equally near. -/
def choose (rule : TieRule) (below : Nat) : Nat :=
  match rule with
  | .greater => below + 1
  | .even => below + below % 2

end TieRule

namespace Shortest

/-- On the grid of multiples of `10 ^ place`, the neighbour of `q` that lies in
the interval, the nearer one if both do, as a count of grid steps. -/
def candidate? (rule : TieRule) (interval : RoundingInterval) (q : Rat) (place : Int) :
    Option Nat :=
  let step : Rat := 10 ^ place
  let below := (q / step).floor.toNat
  let lower := below * step
  let upper := lower + step
  match interval.contains lower, interval.contains upper with
  | true, true =>
    if q - lower < upper - q then some below
    else if upper - q < q - lower then some (below + 1)
    else some (rule.choose below)
  | true, false => some below
  | false, true => some (below + 1)
  | false, false => none

/-- A count of steps that is found, unless it was chosen between two, stands for a
decimal in the interval; of two, both do. -/
theorem contains_candidate? {rule : TieRule} {interval : RoundingInterval} {q : Rat} {place : Int}
    {count : Nat} (h : candidate? rule interval q place = some count) :
    count = (q / 10 ^ place).floor.toNat ∧
        interval.contains ((q / 10 ^ place).floor.toNat * 10 ^ place) = true ∨
      count = (q / 10 ^ place).floor.toNat + 1 ∧
        interval.contains ((q / 10 ^ place).floor.toNat * 10 ^ place + 10 ^ place) = true := by
  simp only [candidate?] at h
  split at h
  · rename_i hlower hupper
    split at h
    · exact Or.inl ⟨(Option.some.inj h).symm, hlower⟩
    · split at h
      · exact Or.inr ⟨(Option.some.inj h).symm, hupper⟩
      · have hcount := (Option.some.inj h).symm
        cases rule with
        | greater => exact Or.inr ⟨hcount, hupper⟩
        | even =>
          rcases Nat.mod_two_eq_zero_or_one (q / 10 ^ place).floor.toNat with heven | hodd
          · rw [TieRule.choose, heven] at hcount
            exact Or.inl ⟨hcount, hlower⟩
          · rw [TieRule.choose, hodd] at hcount
            exact Or.inr ⟨hcount, hupper⟩
  · rename_i hlower _
    exact Or.inl ⟨(Option.some.inj h).symm, hlower⟩
  · rename_i _ hupper
    exact Or.inr ⟨(Option.some.inj h).symm, hupper⟩
  · exact absurd h (Option.some_ne_none _).symm

/-- The decimal of `count` steps of `10 ^ place`. -/
def ofSteps (count : Nat) (place : Int) : Decimal :=
  let digits := Digits.ofNat count
  Decimal.normalise digits (place + digits.length)

/-- The places of the last digit to try, for a number whose first digit is at
`scale`: one digit first. Seventeen digits tell any two numbers apart. -/
def places (scale : Int) : List Int :=
  (List.range 17).map (fun i : Nat => scale - 1 - i)

end Shortest

/-- The shortest decimal that is read back as the magnitude of `x`; zero for a
number that is not finite. -/
def Decimal.shortest (rule : TieRule) (x : Binary64) : Decimal :=
  if x.signedUnits = 0 then .zero
  else
    let q := x.abs.toRat
    let interval := RoundingInterval.ofUnits x.signedUnits.natAbs
    let found := (Shortest.places (Decimal.scaleOf q)).findSome? fun place =>
      (Shortest.candidate? rule interval q place).map (Shortest.ofSteps · place)
    found.getD (Decimal.significant 17 q)

end Spreadsheet
