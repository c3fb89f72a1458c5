/-
# Serial numbers keep the order of time

From the origin of the serial numbers on, a later instant has a greater serial number:
one millisecond is more than twice what the quotient is rounded by. So comparing serial
numbers is comparing instants.

* `strictMonoOn_daysOfMilliseconds` — more milliseconds are more days.
* `Instant.holds_serial_iff` — instants compare as their serial numbers.
* `Instant.serial_midnight` — the serial number of a date is its number.
-/

import Spreadsheet.Proofs.NumberComparison
import Spreadsheet.Proofs.SerialRoundTrip

namespace Spreadsheet

-- A power of a natural number is core's, whatever other instances are in scope.
attribute [local instance (high)] instPowNat

open Calendar

/-- **More milliseconds are more days.** -/
theorem strictMonoOn_daysOfMilliseconds :
    StrictMonoOn (fun count : Int => (daysOfMilliseconds count).toRat)
      {count | count.natAbs < 2 ^ 48} := by
  intro a ha b hb hab
  have haNear := abs_le.mp (distance_daysOfMilliseconds ha).2
  have hbNear := abs_le.mp (distance_daysOfMilliseconds hb).2
  rw [cast_millisecondsPerDay] at haNear hbNear
  have hstep : (a : Rat) + 1 ≤ b := by exact_mod_cast hab
  change (daysOfMilliseconds a).toRat < (daysOfMilliseconds b).toRat
  linarith

/-- The milliseconds of whole days are these days. -/
theorem daysOfMilliseconds_days {days : Int} (h : (days * millisecondsPerDay).natAbs ≤ 2 ^ 53) :
    daysOfMilliseconds (days * millisecondsPerDay) = Binary64.ofInt days := by
  have hpos : (millisecondsPerDay : Rat) ≠ 0 := by
    rw [cast_millisecondsPerDay]
    norm_num
  rw [daysOfMilliseconds, (Binary64.toRat_ofInt h).2, Int.cast_mul, mul_div_cancel_right₀ _ hpos,
    Binary64.ofInt]

/-- From the origin on, years are late enough to have serial numbers. -/
theorem Date.year_of_number_nonneg {date : Date} (h : 0 ≤ date.number) : 1899 ≤ date.year := by
  by_contra hyear
  have hlt := Date.number_lt_of_year_lt (show date.year < originDate.year by
    change date.year < 1899
    omega)
  have horigin : originDate.number = 0 := by decide
  omega

namespace Instant

/-- From the origin on, the date is not before it. -/
theorem number_nonneg {i : Instant} (h : 0 ≤ i.ticks) : 0 ≤ i.date.number := by
  have hday := i.in_day
  unfold ticks nanosecondsPerDay at *
  omega

/-- The serial number of an instant from the origin on is its milliseconds in days. -/
theorem serial_of_nonneg {i : Instant} (horigin : 0 ≤ i.ticks) (hyear : i.date.year ≤ 9999)
    (hwhole : i.nanosecondOfDay % 1000000 = 0) :
    i.serial = daysOfMilliseconds i.milliseconds ∧ i.milliseconds.natAbs < 2 ^ 48 := by
  have hlow := Date.year_of_number_nonneg (number_nonneg horigin)
  have hnonneg : ¬i.milliseconds < 0 := by
    have hticks := (i.ticks_eq_milliseconds hwhole).1
    omega
  have hfold : foldMilliseconds i.milliseconds = i.milliseconds :=
    if_neg fun h => hnonneg h.1
  obtain ⟨hbelow, habove⟩ := foldMilliseconds_range (by omega) hyear hwhole
  obtain ⟨hcount, -, -⟩ := daysOfMilliseconds_range hbelow habove
  rw [hfold] at hcount
  refine ⟨?_, hcount⟩
  change daysOfMilliseconds (foldMilliseconds i.milliseconds) = _
  rw [hfold]

/-- More milliseconds are more nanoseconds. -/
theorem strictMono_ticks : StrictMono fun count : Int => count * 1000000 := by
  intro m n hmn
  change m * 1000000 < n * 1000000
  omega

/-- **Instants compare as their serial numbers**, from the origin to the end of the year
9999 and exactly to the millisecond. -/
theorem holds_serial_iff {a b : Instant} (haOrigin : 0 ≤ a.ticks) (haYear : a.date.year ≤ 9999)
    (haWhole : a.nanosecondOfDay % 1000000 = 0) (hbOrigin : 0 ≤ b.ticks)
    (hbYear : b.date.year ≤ 9999) (hbWhole : b.nanosecondOfDay % 1000000 = 0)
    (operator : Operator) :
    operator.HoldsOfNumbers a.serial b.serial ↔ operator.Holds a.ticks b.ticks := by
  obtain ⟨haSerial, haCount⟩ := serial_of_nonneg haOrigin haYear haWhole
  obtain ⟨hbSerial, hbCount⟩ := serial_of_nonneg hbOrigin hbYear hbWhole
  rw [haSerial, hbSerial, Operator.holdsOfNumbers_iff (distance_daysOfMilliseconds haCount).1
    (distance_daysOfMilliseconds hbCount).1, (a.ticks_eq_milliseconds haWhole).1,
    (b.ticks_eq_milliseconds hbWhole).1]
  exact (Operator.holds_iff_of_strictMonoOn strictMonoOn_daysOfMilliseconds haCount hbCount
    operator).trans (Operator.holds_iff_of_strictMonoOn (strictMono_ticks.strictMonoOn Set.univ)
      (Set.mem_univ _) (Set.mem_univ _) operator).symm

/-- The start of a date in nanoseconds. -/
theorem ticks_midnight (date : Date) :
    (midnight date).ticks = date.number * nanosecondsPerDay :=
  Int.add_zero _

/-- The start of a date is from the origin on if the date is. -/
theorem ticks_midnight_nonneg {date : Date} (h : 0 ≤ date.number) : 0 ≤ (midnight date).ticks := by
  rw [ticks_midnight]
  unfold nanosecondsPerDay
  omega

/-- The serial number of the start of a date is the date's number, if that is exact. -/
theorem serial_midnight {date : Date} (h : (date.number * millisecondsPerDay).natAbs ≤ 2 ^ 53) :
    (midnight date).serial = .ofInt date.number := by
  have hfold : foldMilliseconds (midnight date).milliseconds = date.number * millisecondsPerDay := by
    rw [(midnight date).foldMilliseconds_eq rfl]
    simp [midnight]
  rw [← daysOfMilliseconds_days h, ← hfold]
  rfl

/-- The serial number of a date from the origin on is its number. -/
theorem toRat_serial_midnight {date : Date} (horigin : 0 ≤ date.number)
    (hyear : date.year ≤ 9999) :
    (midnight date).serial.isFinite = true ∧ (midnight date).serial.toRat = date.number := by
  have hlow := Date.year_of_number_nonneg horigin
  have hlast := (Date.number_range (by omega) hyear).2
  unfold serialHigh at hlast
  rw [serial_midnight (by unfold millisecondsPerDay; omega)]
  exact Binary64.toRat_ofInt (by omega)

end Instant

end Spreadsheet
