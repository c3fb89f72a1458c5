/-
# Durations

An elapsed time, exact to the nanosecond, at most `2 ^ 63 - 1` milliseconds in
either direction. What is shown and what counts in comparisons are its whole
milliseconds.

* `ofMilliseconds?_eq_none_iff` — which counts of milliseconds are too large.
-/

import Spreadsheet.Text.Basic

namespace Spreadsheet

/-- The greatest number of milliseconds of a duration. -/
def maxMilliseconds : Nat := 0x7FFFFFFFFFFFFFFF

/-- An elapsed time in nanoseconds. -/
structure Duration where
  nanoseconds : Int
  bounded : nanoseconds.natAbs ≤ maxMilliseconds * 1000000
deriving DecidableEq

namespace Duration

/-- The duration of so many nanoseconds, if it is not too long. -/
def ofNanoseconds? (count : Int) : Option Duration :=
  if h : count.natAbs ≤ maxMilliseconds * 1000000 then some ⟨count, h⟩ else none

/-- The duration of so many milliseconds, if it is not too long. -/
def ofMilliseconds? (count : Int) : Option Duration :=
  ofNanoseconds? (count * 1000000)

/-- The whole milliseconds of a duration, what is left being dropped. -/
def milliseconds (d : Duration) : Int :=
  d.nanoseconds.tdiv 1000000

theorem ofMilliseconds?_eq_none_iff {count : Int} :
    ofMilliseconds? count = none ↔ maxMilliseconds < count.natAbs := by
  have habs : (count * 1000000).natAbs = count.natAbs * 1000000 := Int.natAbs_mul count 1000000
  unfold ofMilliseconds? ofNanoseconds?
  split
  · rename_i h
    rw [habs] at h
    exact ⟨fun hnone => (Option.some_ne_none _ hnone).elim, fun hlt => by omega⟩
  · rename_i h
    rw [habs] at h
    exact ⟨fun _ => by omega, fun _ => rfl⟩

/-- Whether the duration is less than zero. -/
def isNegative (d : Duration) : Bool :=
  decide (d.nanoseconds < 0)

/-- The text `[-][days.]hh:mm:ss[.mmm]`, from whole milliseconds. -/
def text (d : Duration) : Text :=
  let total := d.milliseconds.natAbs
  let days := total / 86400000
  let inDay := total % 86400000
  (if d.milliseconds < 0 then ['-'] else []) ++
  (if days = 0 then [] else Text.number 1 days ++ ['.']) ++
  Text.number 2 (inDay / 3600000) ++ [':'] ++
  Text.number 2 (inDay / 60000 % 60) ++ [':'] ++
  Text.number 2 (inDay / 1000 % 60) ++
  (if inDay % 1000 = 0 then [] else '.' :: Text.number 3 (inDay % 1000))

end Duration

end Spreadsheet
