/-
# Serial numbers

An instant as a number of days since 1899-12-30. The day is the whole part with
its sign, and the time of day is added to it forward, also before the origin:
-1.5 is noon of 1899-12-29. Serials are exact to the millisecond.

* `unfoldMilliseconds_foldMilliseconds` — counting the time of day forward loses
  nothing.
-/

import Spreadsheet.Calendar.Instant
import Spreadsheet.Numeric.Binary64

namespace Spreadsheet

/-- The milliseconds of a day. -/
def millisecondsPerDay : Int := 86400000

/-- So many milliseconds as a number of days. -/
def daysOfMilliseconds (count : Int) : Binary64 :=
  .ofRat ((Binary64.ofInt count).toRat / millisecondsPerDay)

/-- Milliseconds from the origin as signed serial milliseconds: before the origin
the time of day counts away from the start of its day, toward the past. -/
def foldMilliseconds (count : Int) : Int :=
  let past := count.tmod millisecondsPerDay
  if count < 0 ∧ past ≠ 0 then count - (millisecondsPerDay + past) * 2 else count

/-- Signed serial milliseconds as milliseconds from the origin. -/
def unfoldMilliseconds (count : Int) : Int :=
  if count < 0 then count - count.tmod millisecondsPerDay * 2 else count

theorem tmod_of_neg {count : Int} (h : count < 0) :
    count.tmod millisecondsPerDay = -(-count % millisecondsPerDay) := by
  have hneg := Int.neg_tmod (-count) millisecondsPerDay
  rw [Int.neg_neg] at hneg
  rw [hneg, Int.tmod_eq_emod_of_nonneg (by omega)]

/-- A serial is taken back to the whole milliseconds it came from. -/
theorem unfoldMilliseconds_foldMilliseconds (count : Int) :
    unfoldMilliseconds (foldMilliseconds count) = count := by
  by_cases hneg : count < 0
  · have hpast := tmod_of_neg hneg
    by_cases hzero : count.tmod millisecondsPerDay = 0
    · rw [foldMilliseconds, if_neg (fun h => h.2 hzero), unfoldMilliseconds, if_pos hneg, hzero]
      omega
    · have hfold : foldMilliseconds count =
          count - (millisecondsPerDay + count.tmod millisecondsPerDay) * 2 :=
        if_pos ⟨hneg, hzero⟩
      have hfoldNeg : foldMilliseconds count < 0 := by
        rw [hfold, hpast]
        unfold millisecondsPerDay
        omega
      rw [unfoldMilliseconds, if_pos hfoldNeg, tmod_of_neg hfoldNeg, hfold, hpast]
      rw [hpast] at hzero
      unfold millisecondsPerDay at *
      omega
  · have hfold : foldMilliseconds count = count := if_neg (fun h => hneg h.1)
    rw [hfold, unfoldMilliseconds, if_neg hneg]

/-- The serial number of an instant. -/
def Instant.serial (i : Instant) : Binary64 :=
  daysOfMilliseconds (foldMilliseconds (i.ticks.tdiv 1000000))

/-- The serial number of a duration: its whole milliseconds in days. -/
def Duration.serial (d : Duration) : Binary64 :=
  daysOfMilliseconds d.milliseconds

/-- Serials lie above this bound. -/
def serialLow : Int := -657435

/-- Serials lie below this bound. -/
def serialHigh : Int := 2958466

/-- The signed serial milliseconds of a serial number, rounded half away from
zero in floating point arithmetic. -/
def serialMilliseconds (serial : Rat) : Int :=
  let half : Rat := if 0 ≤ serial then mkRat 1 2 else mkRat (-1) 2
  truncate (Binary64.ofRat ((Binary64.ofRat (serial * millisecondsPerDay)).toRat + half)).toRat

/-- The instant of a serial number, if it lies between the bounds. -/
def Instant.ofSerial? (serial : Binary64) : Option Instant :=
  if serial.isFinite && decide ((serialLow : Rat) < serial.toRat) &&
      decide (serial.toRat < (serialHigh : Rat)) then
    Instant.ofTicks? (unfoldMilliseconds (serialMilliseconds serial.toRat) * 1000000)
  else none

end Spreadsheet
