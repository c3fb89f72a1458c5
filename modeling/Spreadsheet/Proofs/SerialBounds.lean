/-
# Serial numbers next to the bounds

The bounds of the serial numbers are those of the number, but its instant is found after rounding
to milliseconds: so numbers that are next to a bound are rounded to it, and have the instant at the
bound, whose year is not one of the years from 100 to 9999.

* `serialMilliseconds_le_low_iff`, `high_le_serialMilliseconds_iff` — which numbers those are.
* `Instant.ofSerial?_years` — the instants of all other numbers are of these years.
-/

import Spreadsheet.Proofs.SerialCells
import Spreadsheet.Proofs.SerialDecoding
import Spreadsheet.Proofs.SerialIdentity
import Spreadsheet.Proofs.WrittenNumber

namespace Spreadsheet

-- A power of a natural number is core's, whatever other instances are in scope.
attribute [local instance (high)] instPowNat

/-! ### Numbers next to the bounds -/

/-- From which product on a whole number is reached: the middle between the half below it and the
floating point number before that, if the middle is rounded to the half. -/
theorem le_serialMilliseconds_iff_of_middle {serial : Rat} (hserial : 0 ≤ serial)
    (hmax : serial * millisecondsPerDay ≤ 2 ^ 48) {n : Nat} (hn : 2 ≤ n) (hbound : n ≤ 2 ^ 52)
    {middle : Rat} (hmiddle : (Binary64.ofRat middle).toRat = n - 1 / 2) {y : Binary64}
    (hy : y.isFinite = true) (hbelow : y.toRat < n - 1 / 2)
    (hhalf : middle = (y.toRat + (n - 1 / 2)) / 2) :
    (n : Int) ≤ serialMilliseconds serial ↔ middle ≤ serial * millisecondsPerDay := by
  have hpositive : (2 : Rat) ≤ n := by exact_mod_cast hn
  have hfinite : (Binary64.ofRat middle).isFinite = true := by
    apply Binary64.isFinite_of_toRat_ne_zero
    rw [hmiddle]
    linarith
  rw [← hmiddle] at hbelow hhalf
  rw [le_serialMilliseconds_iff hserial hmax hn hbound, ← hmiddle]
  exact Binary64.le_toRat_ofRat_iff (serialProduct_spec hserial hmax).2.2 hfinite hy hbelow hhalf

/-- Next to the lower bound the numbers are 1/128 of a millisecond apart, and next to the upper one
1/32: the middle below half a millisecond is rounded to it, the half being the even one. -/
theorem rounded_middles :
    (Binary64.ofRat (56802384000000 - 129 / 256)).toRat = 56802384000000 - 1 / 2 ∧
      (Binary64.ofRat (255611462400000 - 33 / 64)).toRat = 255611462400000 - 1 / 2 := by
  decide +kernel

section Bounds

variable {s : Rat} (hlow : (serialLow : Rat) < s) (hhigh : s < serialHigh)
include hlow hhigh

/-- Which numbers are rounded to the lower bound. -/
theorem serialMilliseconds_le_low_iff :
    serialMilliseconds s ≤ serialLow * millisecondsPerDay ↔
      s * millisecondsPerDay ≤ serialLow * millisecondsPerDay + 129 / 256 := by
  have hmax := abs_mul_millisecondsPerDay_le hlow hhigh
  rcases le_or_gt 0 s with hnonneg | hneg
  · rw [abs_of_nonneg hnonneg] at hmax
    have hzero := (distance_serialMilliseconds hnonneg hmax).1
    refine iff_of_false ?_ ?_
    · unfold serialLow millisecondsPerDay
      omega
    · norm_num [serialLow, cast_millisecondsPerDay]
      linarith
  · rw [abs_of_neg hneg] at hmax
    obtain ⟨hbelow, hvalue⟩ := Binary64.toRat_ofRat_dyadic (n := 56802384000000 * 128 - 65)
      (by decide) (by decide : 7 ≤ 1074)
    norm_num at hbelow hvalue
    have hreached := le_serialMilliseconds_iff_of_middle (by linarith : 0 ≤ -s) hmax
      (n := 56802384000000) (by decide) (by decide) rounded_middles.1 hbelow
      (by rw [hvalue]; norm_num) (by rw [hvalue]; norm_num)
    have hcount : serialMilliseconds s ≤ serialLow * millisecondsPerDay ↔
        ((56802384000000 : Nat) : Int) ≤ serialMilliseconds (-s) := by
      rw [serialMilliseconds_of_neg hneg]
      unfold serialLow millisecondsPerDay
      omega
    rw [hcount, hreached]
    norm_num [serialLow, cast_millisecondsPerDay]
    constructor <;> intro hle <;> linarith

/-- Which numbers are rounded to the upper bound. -/
theorem high_le_serialMilliseconds_iff :
    serialHigh * millisecondsPerDay ≤ serialMilliseconds s ↔
      serialHigh * millisecondsPerDay - 33 / 64 ≤ s * millisecondsPerDay := by
  have hmax := abs_mul_millisecondsPerDay_le hlow hhigh
  rcases le_or_gt 0 s with hnonneg | hneg
  · rw [abs_of_nonneg hnonneg] at hmax
    obtain ⟨hbelow, hvalue⟩ := Binary64.toRat_ofRat_dyadic (n := 255611462400000 * 32 - 17)
      (by decide) (by decide : 5 ≤ 1074)
    norm_num at hbelow hvalue
    have hreached := le_serialMilliseconds_iff_of_middle hnonneg hmax (n := 255611462400000)
      (by decide) (by decide) rounded_middles.2 hbelow (by rw [hvalue]; norm_num)
      (by rw [hvalue]; norm_num)
    have hcount : serialHigh * millisecondsPerDay ≤ serialMilliseconds s ↔
        ((255611462400000 : Nat) : Int) ≤ serialMilliseconds s := by
      unfold serialHigh millisecondsPerDay
      omega
    rw [hcount, hreached]
    norm_num [serialHigh, cast_millisecondsPerDay]
  · rw [abs_of_neg hneg] at hmax
    have hzero := (distance_serialMilliseconds (by linarith : 0 ≤ -s) hmax).1
    refine iff_of_false ?_ ?_
    · rw [serialMilliseconds_of_neg hneg]
      unfold serialHigh millisecondsPerDay
      omega
    · norm_num [serialHigh, cast_millisecondsPerDay]
      linarith

end Bounds

namespace Instant

section Years

variable {s : Binary64} (hlow : (serialLow : Rat) < s.toRat) (hhigh : s.toRat < serialHigh)
  {i : Instant} (hticks : i.ticks = unfoldMilliseconds (serialMilliseconds s.toRat) * 1000000)
include hlow hhigh hticks

/-- A number that is rounded to the lower bound has the instant at that bound. -/
theorem eq_dayBeforeSerials
    (hbound : serialMilliseconds s.toRat ≤ serialLow * millisecondsPerDay) :
    i = midnight dayBeforeSerials := by
  have hneg : s.toRat < 0 := by
    by_contra hnonneg
    have hzero := (serialMilliseconds_range_of_nonneg hlow hhigh (not_lt.mp hnonneg)).1
    unfold serialLow millisecondsPerDay at hbound
    omega
  obtain ⟨hzero, hfirst⟩ := serialMilliseconds_range_of_neg hlow hhigh hneg
  rw [serialMilliseconds_of_neg hneg] at hbound hticks
  apply ticks_injective
  rw [hticks, ticks_midnight, number_dayBeforeSerials, unfoldMilliseconds_neg hzero]
  unfold serialLow millisecondsPerDay nanosecondsPerDay at *
  omega

/-- A number that is rounded to the upper bound has the instant at that bound. -/
theorem eq_dayAfterSerials
    (hbound : serialHigh * millisecondsPerDay ≤ serialMilliseconds s.toRat) :
    i = midnight dayAfterSerials := by
  have hnonneg : 0 ≤ s.toRat := by
    by_contra hneg
    have hneg : s.toRat < 0 := not_le.mp hneg
    have hzero := (serialMilliseconds_range_of_neg hlow hhigh hneg).1
    rw [serialMilliseconds_of_neg hneg] at hbound
    unfold serialHigh millisecondsPerDay at hbound
    omega
  obtain ⟨hzero, hlast⟩ := serialMilliseconds_range_of_nonneg hlow hhigh hnonneg
  apply ticks_injective
  rw [hticks, ticks_midnight, number_dayAfterSerials, unfoldMilliseconds, if_neg (by omega)]
  unfold serialHigh millisecondsPerDay nanosecondsPerDay at *
  omega

/-- Every other number has an instant of the years from 100 to 9999. -/
theorem year_range_of_serial
    (hfirst : serialLow * millisecondsPerDay < serialMilliseconds s.toRat)
    (hlast : serialMilliseconds s.toRat < serialHigh * millisecondsPerDay) :
    100 ≤ i.date.year ∧ i.date.year ≤ 9999 := by
  have hday := i.in_day
  have hrange : (serialLow + 1) * millisecondsPerDay ≤
        unfoldMilliseconds (serialMilliseconds s.toRat) ∧
      unfoldMilliseconds (serialMilliseconds s.toRat) < serialHigh * millisecondsPerDay := by
    rcases le_or_gt 0 s.toRat with hnonneg | hneg
    · have hzero := (serialMilliseconds_range_of_nonneg hlow hhigh hnonneg).1
      rw [unfoldMilliseconds, if_neg (by omega)]
      unfold serialLow millisecondsPerDay at *
      omega
    · have hzero := (serialMilliseconds_range_of_neg hlow hhigh hneg).1
      rw [serialMilliseconds_of_neg hneg] at hfirst ⊢
      rw [unfoldMilliseconds_neg hzero]
      unfold serialLow serialHigh millisecondsPerDay at *
      omega
  apply Date.year_range_of_number
  · unfold ticks serialLow millisecondsPerDay nanosecondsPerDay at *
    omega
  · unfold ticks serialHigh millisecondsPerDay nanosecondsPerDay at *
    omega

end Years

/-- The days at the bounds and beyond them are not decoded from their serial numbers. -/
theorem ofSerial?_serial_midnight_eq_none {date : Date}
    (h : date.number ≤ serialLow ∨ serialHigh ≤ date.number) :
    ofSerial? (midnight date).serial = none := by
  have hnumber := date.natAbs_number_lt
  apply ofSerial?_eq_none
  rw [serial_midnight (by unfold millisecondsPerDay; omega), (Binary64.toRat_ofInt (by omega)).2]
  exact_mod_cast h

/-- The years from 100 to 9999 are shown in four digits. -/
theorem length_yearText {year : Int} (hlow : 100 ≤ year) (hhigh : year ≤ 9999) :
    (yearText year).length = 4 := by
  rw [yearText, if_neg (by omega), if_neg (by omega), List.nil_append]
  exact Text.length_number (by decide) (by omega)

/-- **Which numbers have an instant of the years from 100 to 9999.** Every finite number between the
bounds has an instant that is exact to the millisecond. With the milliseconds of the number taken
exactly, the instant is of these years, whose numbers have four digits, and has a serial number
that gives it back, unless the number is at most 129/256 of a millisecond above the lower bound or
33/64 of a millisecond or less below the upper one. Then the instant is the start of the day at
that bound, and its serial number is the bound and gives no instant. -/
theorem ofSerial?_years {s : Binary64} (hfinite : s.isFinite = true)
    (hlow : (serialLow : Rat) < s.toRat) (hhigh : s.toRat < serialHigh) :
    ∃ i : Instant, ofSerial? s = some i ∧ i.nanosecondOfDay % 1000000 = 0 ∧
      (s.toRat * millisecondsPerDay ≤ serialLow * millisecondsPerDay + 129 / 256 →
        i = midnight dayBeforeSerials ∧ ofSerial? i.serial = none) ∧
      (serialHigh * millisecondsPerDay - 33 / 64 ≤ s.toRat * millisecondsPerDay →
        i = midnight dayAfterSerials ∧ ofSerial? i.serial = none) ∧
      (serialLow * millisecondsPerDay + 129 / 256 < s.toRat * millisecondsPerDay →
        s.toRat * millisecondsPerDay < serialHigh * millisecondsPerDay - 33 / 64 →
          (100 ≤ i.date.year ∧ i.date.year ≤ 9999) ∧ (yearText i.date.year).length = 4 ∧
            ofSerial? i.serial = some i) := by
  obtain ⟨i, hsome, hticks⟩ := ofSerial?_eq_some hfinite hlow hhigh
  have hwhole : i.nanosecondOfDay % 1000000 = 0 := by
    have hday := i.in_day
    unfold ticks nanosecondsPerDay at *
    omega
  refine ⟨i, hsome, hwhole, fun hfirst => ?_, fun hlast => ?_, fun hfirst hlast => ?_⟩
  · rw [← serialMilliseconds_le_low_iff hlow hhigh] at hfirst
    rw [eq_dayBeforeSerials hlow hhigh hticks hfirst]
    exact ⟨rfl, ofSerial?_serial_midnight_eq_none (Or.inl (le_of_eq number_dayBeforeSerials))⟩
  · rw [← high_le_serialMilliseconds_iff hlow hhigh] at hlast
    rw [eq_dayAfterSerials hlow hhigh hticks hlast]
    exact ⟨rfl, ofSerial?_serial_midnight_eq_none (Or.inr (ge_of_eq number_dayAfterSerials))⟩
  · rw [← not_le, ← serialMilliseconds_le_low_iff hlow hhigh, not_le] at hfirst
    rw [← not_le, ← high_le_serialMilliseconds_iff hlow hhigh, not_le] at hlast
    obtain ⟨hyear, hyear'⟩ := year_range_of_serial hlow hhigh hticks hfirst hlast
    exact ⟨⟨hyear, hyear'⟩, length_yearText hyear hyear', decode_serial hyear hyear' hwhole⟩

/-- The number that is so many floating point numbers below the upper bound. -/
def belowHigh (places : Nat) : Binary64 :=
  .ofRat (2958466 - places / 2147483648)

theorem belowHigh_spec (places : Nat) (hpos : 0 < places) (hmax : places ≤ 2147483648) :
    (belowHigh places).isFinite = true ∧
      (belowHigh places).toRat = 2958466 - places / 2147483648 ∧
      (serialLow : Rat) < (belowHigh places).toRat ∧ (belowHigh places).toRat < serialHigh := by
  have hlow : (0 : Rat) < places := by exact_mod_cast hpos
  have hhigh : (places : Rat) ≤ 2147483648 := by exact_mod_cast hmax
  obtain ⟨hfinite, hvalue⟩ := Binary64.toRat_ofRat_dyadic
    (n := 2958466 * 2147483648 - places) (by omega) (by decide : 31 ≤ 1074)
  have hdyadic : ((2958466 * 2147483648 - places : Int) : Rat) / 2 ^ 31 =
      2958466 - places / 2147483648 := by
    push_cast
    ring
  rw [hdyadic] at hfinite hvalue
  refine ⟨hfinite, hvalue, ?_, ?_⟩
  · rw [belowHigh, hvalue]
    norm_num [serialLow]
    linarith
  · rw [belowHigh, hvalue]
    norm_num [serialHigh]
    linarith

/-- Not every number between the bounds has an instant of the years from 100 to 9999: the greatest
number below the upper bound is rounded to it. -/
theorem not_ofSerial?_years :
    ¬∀ s : Binary64, s.isFinite = true → (serialLow : Rat) < s.toRat → s.toRat < serialHigh →
      ∃ i : Instant, ofSerial? s = some i ∧ 100 ≤ i.date.year ∧ i.date.year ≤ 9999 := by
  intro hlaw
  obtain ⟨hfinite, hvalue, hlow, hhigh⟩ := belowHigh_spec 1 (by decide) (by decide)
  obtain ⟨i, hsome, -, hyear⟩ := hlaw (belowHigh 1) hfinite hlow hhigh
  obtain ⟨j, hdecoded, hticks⟩ := ofSerial?_eq_some hfinite hlow hhigh
  have hrounded : serialHigh * millisecondsPerDay ≤ serialMilliseconds (belowHigh 1).toRat := by
    rw [high_le_serialMilliseconds_iff hlow hhigh, hvalue]
    norm_num [serialHigh, cast_millisecondsPerDay]
  rw [hdecoded, Option.some.injEq] at hsome
  rw [← hsome, eq_dayAfterSerials hlow hhigh hticks hrounded] at hyear
  exact absurd hyear (by decide)

/-- The greatest number that is not rounded to the upper bound is of the last millisecond. -/
theorem ofSerial?_years_lastMillisecond :
    (belowHigh 13).isFinite = true ∧ (serialLow : Rat) < (belowHigh 13).toRat ∧
      (belowHigh 13).toRat < serialHigh ∧
      ∃ i : Instant, ofSerial? (belowHigh 13) = some i ∧
        (100 ≤ i.date.year ∧ i.date.year ≤ 9999) ∧ ofSerial? i.serial = some i := by
  obtain ⟨hfinite, hvalue, hlow, hhigh⟩ := belowHigh_spec 13 (by decide) (by decide)
  obtain ⟨i, hsome, -, -, -, hyears⟩ := ofSerial?_years hfinite hlow hhigh
  rw [hvalue] at hyears
  obtain ⟨hyear, -, hback⟩ := hyears (by norm_num [serialLow, cast_millisecondsPerDay])
    (by norm_num [serialHigh, cast_millisecondsPerDay])
  exact ⟨hfinite, hlow, hhigh, i, hsome, hyear, hback⟩

end Instant

end Spreadsheet
