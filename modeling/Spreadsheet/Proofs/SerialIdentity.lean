/-
# A serial number belongs to one instant

In the years of the serial numbers, two instants that are exact to the millisecond and have
the same serial number are one. An instant of another year has a serial number too, but
outside the bounds, even where days are so many that a millisecond is lost in the rounding.

* `Date.natAbs_number_lt` — how far the calendar reaches.
* `daysOfMilliseconds_ne` — too many milliseconds have other days than those in the range.
* `Instant.order?_serial_eq_iff` — equal serial numbers are those of one instant.
-/

import Spreadsheet.Proofs.SerialCells
import Spreadsheet.Proofs.SerialOrder

namespace Spreadsheet

-- A power of a natural number is core's, whatever other instances are in scope.
attribute [local instance (high)] instPowNat

open Calendar

/-- The dates of the calendar are less than a hundred million days from the origin. -/
theorem Date.natAbs_number_lt (date : Date) : date.number.natAbs < 100000000 := by
  obtain ⟨hlow, hhigh⟩ := date.year_range
  unfold firstYear at hlow
  unfold lastYear at hhigh
  have hfirst := daysBeforeYear_mono hlow
  have hlast := daysBeforeYear_mono (show date.year + 1 ≤ 262143 by omega)
  have hnext := daysBeforeYear_succ date.year
  have hday := date.dayOfYear_lt
  have hnumber : date.number = daysBeforeYear date.year - originDays + date.dayOfYear := by
    unfold Date.number Date.dayOfYear
    omega
  have hfirstDays : daysBeforeYear (-262143) = -95746130 := by decide
  have hlastDays : daysBeforeYear 262143 = 95745399 := by decide
  unfold originDays at hnumber
  omega

/-- Milliseconds beyond `2 ^ 48` have other days than those between the bounds of the serial
numbers. -/
theorem daysOfMilliseconds_ne {count other : Int}
    (hlow : serialLow * millisecondsPerDay < count)
    (hhigh : count < serialHigh * millisecondsPerDay) (hbeyond : 2 ^ 48 ≤ other.natAbs)
    (hother : other.natAbs ≤ 2 ^ 53) :
    (daysOfMilliseconds other).isFinite = true ∧
      (daysOfMilliseconds other).toRat ≠ (daysOfMilliseconds count).toRat := by
  have hmagnitude : (2 : Rat) ^ 48 ≤ |(other : Rat)| ∧ |(other : Rat)| ≤ 2 ^ 53 := by
    rw [← Int.cast_abs, Int.abs_eq_natAbs, Int.cast_natCast]
    exact ⟨by exact_mod_cast hbeyond, by exact_mod_cast hother⟩
  have hquotient : |(other : Rat) / millisecondsPerDay| = |(other : Rat)| / 86400000 := by
    rw [abs_div, cast_millisecondsPerDay, abs_of_pos (by norm_num : (0 : Rat) < 86400000)]
  have hdays : |(other : Rat) / millisecondsPerDay| ≤ 2 ^ 27 := by
    rw [hquotient, div_le_iff₀ (by norm_num)]
    linarith [hmagnitude.2]
  obtain ⟨-, hexact⟩ := Binary64.toRat_ofInt hother
  obtain ⟨hfinite, hnear⟩ := Binary64.distance_ofRat (by decide : 27 ≤ 1023) hdays
  rw [daysOfMilliseconds, hexact]
  refine ⟨hfinite, fun heq => ?_⟩
  -- the other days are beyond the bounds that these days keep
  obtain ⟨-, hbelow, habove⟩ := daysOfMilliseconds_range hlow hhigh
  rw [← heq] at hbelow habove
  have hdistance := abs_sub_abs_le_abs_sub ((other : Rat) / millisecondsPerDay)
    (Binary64.ofRat (other / millisecondsPerDay)).toRat
  rw [abs_sub_comm, hquotient] at hdistance
  have hbound : |(Binary64.ofRat (other / millisecondsPerDay)).toRat| ≤ 2958466 := by
    rw [abs_le]
    norm_num [serialLow, serialHigh] at hbelow habove
    exact ⟨by linarith, by linarith⟩
  have hlarge : (2 : Rat) ^ 48 / 86400000 ≤ |(other : Rat)| / 86400000 :=
    div_le_div_of_nonneg_right hmagnitude.1 (by norm_num)
  norm_num at hnear hlarge
  linarith

namespace Instant

/-- The signed serial milliseconds of an instant of the calendar are few enough to be exact. -/
theorem natAbs_foldMilliseconds_le {i : Instant} (hwhole : i.nanosecondOfDay % 1000000 = 0) :
    (foldMilliseconds i.milliseconds).natAbs ≤ 2 ^ 53 := by
  have hnumber := i.date.natAbs_number_lt
  have htime := i.millisecond_lt
  rw [i.foldMilliseconds_eq hwhole]
  unfold millisecondsPerDay at *
  split <;> omega

/-- Instants with the same serial milliseconds are one. -/
theorem eq_of_foldMilliseconds_eq {i j : Instant} (hi : i.nanosecondOfDay % 1000000 = 0)
    (hj : j.nanosecondOfDay % 1000000 = 0)
    (h : foldMilliseconds i.milliseconds = foldMilliseconds j.milliseconds) : i = j := by
  have hmilliseconds : i.milliseconds = j.milliseconds := by
    rw [← unfoldMilliseconds_foldMilliseconds i.milliseconds, h,
      unfoldMilliseconds_foldMilliseconds]
  apply ticks_injective
  rw [(i.ticks_eq_milliseconds hi).1, hmilliseconds, (j.ticks_eq_milliseconds hj).1]

/-- **A serial number belongs to one instant.** Of the instants that are exact to the
millisecond, in whatever year of the calendar, only an instant itself has a serial number equal
to its own, if it is from the years of the serial numbers. -/
theorem order?_serial_eq_iff {i j : Instant} (hlow : 100 ≤ i.date.year)
    (hhigh : i.date.year ≤ 9999) (hi : i.nanosecondOfDay % 1000000 = 0)
    (hj : j.nanosecondOfDay % 1000000 = 0) :
    Binary64.order? i.serial j.serial = some .eq ↔ i = j := by
  obtain ⟨hbelow, habove⟩ := foldMilliseconds_range hlow hhigh hi
  obtain ⟨hiCount, -, -⟩ := daysOfMilliseconds_range hbelow habove
  have hiFinite := (distance_daysOfMilliseconds hiCount).1
  have hiSerial : i.serial = daysOfMilliseconds (foldMilliseconds i.milliseconds) := rfl
  have hjSerial : j.serial = daysOfMilliseconds (foldMilliseconds j.milliseconds) := rfl
  rw [hiSerial, hjSerial]
  by_cases hjCount : (foldMilliseconds j.milliseconds).natAbs < 2 ^ 48
  · rw [Binary64.order?_eq_iff hiFinite (distance_daysOfMilliseconds hjCount).1,
      strictMonoOn_daysOfMilliseconds.eq_iff_eq hiCount hjCount]
    exact ⟨eq_of_foldMilliseconds_eq hi hj, fun h => by rw [h]⟩
  · obtain ⟨hjFinite, hne⟩ := daysOfMilliseconds_ne hbelow habove (not_lt.mp hjCount)
      (natAbs_foldMilliseconds_le hj)
    rw [Binary64.order?_eq_iff hiFinite hjFinite]
    refine iff_of_false (fun h => hne h.symm) ?_
    rintro rfl
    exact hjCount hiCount

end Instant

end Spreadsheet
