/-
# Serial numbers give instants back

An instant that is exact to the millisecond is encoded as a floating point number of
days and decoded again. Two roundings, of the quotient and of the product, stay far
below half a millisecond in the range of the serial numbers.

* `serialMilliseconds_daysOfMilliseconds` — the count of milliseconds comes back.
* `ofSerial?_serial` — the instant comes back.
-/

import Spreadsheet.Calendar.Numbering
import Spreadsheet.Calendar.Serial
import Spreadsheet.Proofs.Binary64Rounding

namespace Spreadsheet

-- A power of a natural number is core's, whatever other instances are in scope.
attribute [local instance (high)] instPowNat

open Calendar

/-! ### The whole part toward zero -/

theorem truncate_neg (q : Rat) : truncate (-q) = -truncate q := by
  rw [truncate, truncate, Rat.neg_num, Rat.neg_den, Int.neg_tdiv]

/-- Away from zero, the whole part is the number below. -/
theorem truncate_eq_of_nonneg {q : Rat} {n : Int} (hn : 0 ≤ n) (hlow : (n : Rat) ≤ q)
    (hhigh : q < n + 1) : truncate q = n := by
  have hq : 0 ≤ q := le_trans (by exact_mod_cast hn) hlow
  have hle : n ≤ q.floor := Rat.le_floor_iff.mpr hlow
  have hlt : (q.floor : Rat) < ((n + 1 : Int) : Rat) := by
    push_cast
    exact lt_of_le_of_lt (Rat.floor_le q) hhigh
  have hfloor : q.floor = n := by
    have := Int.cast_lt.mp hlt
    omega
  rw [truncate, Int.tdiv_eq_ediv_of_nonneg (Rat.num_nonneg.mpr hq), ← Rat.floor_def, hfloor]

theorem truncate_eq_of_nonpos {q : Rat} {n : Int} (hn : n ≤ 0) (hlow : (n : Rat) - 1 < q)
    (hhigh : q ≤ n) : truncate q = n := by
  have hneg : truncate (-q) = -n := by
    refine truncate_eq_of_nonneg (by omega) ?_ ?_
    · push_cast
      linarith
    · push_cast
      linarith
  rw [truncate_neg] at hneg
  omega

/-! ### Milliseconds -/

/-- Before the origin the time of day is folded to the other side of its midnight. -/
theorem foldMilliseconds_day (day : Int) {time : Int} (hzero : 0 ≤ time)
    (htime : time < millisecondsPerDay) :
    foldMilliseconds (day * millisecondsPerDay + time) =
      day * millisecondsPerDay + if day < 0 then -time else time := by
  unfold millisecondsPerDay at htime
  by_cases hday : day < 0
  · have hneg : day * millisecondsPerDay + time < 0 := by
      unfold millisecondsPerDay
      omega
    have hpast := tmod_of_neg hneg
    rw [foldMilliseconds, hpast, if_pos hday]
    unfold millisecondsPerDay
    split <;> omega
  · have hnonneg : ¬day * millisecondsPerDay + time < 0 := by
      unfold millisecondsPerDay
      omega
    rw [foldMilliseconds, if_neg (fun h => hnonneg h.1), if_neg hday]

theorem cast_millisecondsPerDay : (millisecondsPerDay : Rat) = 86400000 := by
  norm_num [millisecondsPerDay]

theorem abs_le_of_natAbs_lt {count : Int} (h : count.natAbs < 2 ^ 48) :
    |(count : Rat)| ≤ 2 ^ 48 - 1 := by
  have hle : (count.natAbs : Rat) + 1 ≤ 2 ^ 48 := by exact_mod_cast h
  rw [← Int.cast_abs, Int.abs_eq_natAbs, Int.cast_natCast]
  linarith

/-- The days of a number of milliseconds are rounded by much less than a millisecond. -/
theorem distance_daysOfMilliseconds {count : Int} (h : count.natAbs < 2 ^ 48) :
    (daysOfMilliseconds count).isFinite = true ∧
      |(daysOfMilliseconds count).toRat - count / millisecondsPerDay| ≤ 1 / 2 ^ 31 := by
  have hdays : |(count : Rat) / millisecondsPerDay| ≤ 2 ^ 22 := by
    have hcount := abs_le_of_natAbs_lt h
    rw [abs_div, cast_millisecondsPerDay, abs_of_pos (by norm_num : (0 : Rat) < 86400000),
      div_le_iff₀ (by norm_num)]
    linarith
  have herror : (2 : Rat) ^ 22 / 2 ^ 53 = 1 / 2 ^ 31 := by norm_num
  obtain ⟨-, hexact⟩ := Binary64.toRat_ofInt (n := count) (by omega)
  rw [daysOfMilliseconds, hexact, ← herror]
  exact Binary64.distance_ofRat (by decide) hdays

/-- Days that are near enough to a number of milliseconds are so in milliseconds too. -/
theorem distance_scaled {s : Rat} {count : Int}
    (hnear : |s - count / millisecondsPerDay| ≤ 1 / 2 ^ 31) :
    |s * millisecondsPerDay - count| ≤ 1 / 20 := by
  have hproduct : s * millisecondsPerDay - count =
      (s - count / millisecondsPerDay) * millisecondsPerDay := by
    rw [sub_mul, div_mul_cancel₀ _ (by rw [cast_millisecondsPerDay]; norm_num)]
  rw [cast_millisecondsPerDay] at hnear
  rw [hproduct, abs_mul, cast_millisecondsPerDay, abs_of_pos (by norm_num : (0 : Rat) < 86400000)]
  linarith

/-- The product and the sum of the decoding are rounded by less than the half that is
left to them. -/
theorem distance_rounded_sum {s half : Rat} {count : Int} (hcount : count.natAbs < 2 ^ 48)
    (hnear : |s - count / millisecondsPerDay| ≤ 1 / 2 ^ 31) (hhalf : |half| ≤ 1 / 2) :
    |(Binary64.ofRat ((Binary64.ofRat (s * millisecondsPerDay)).toRat + half)).toRat -
      (count + half)| < 1 / 2 := by
  have hbound := abs_le.mp (abs_le_of_natAbs_lt hcount)
  have hscaled := abs_le.mp (distance_scaled hnear)
  have hhalf := abs_le.mp hhalf
  obtain ⟨-, hproduct⟩ := Binary64.distance_ofRat (by decide : 48 ≤ 1023)
    (abs_le.mpr ⟨by linarith, by linarith⟩ : |s * millisecondsPerDay| ≤ 2 ^ 48)
  generalize (Binary64.ofRat (s * millisecondsPerDay)).toRat = product at hproduct
  have hproduct := abs_le.mp hproduct
  obtain ⟨-, hsum⟩ := Binary64.distance_ofRat (by decide : 49 ≤ 1023)
    (abs_le.mpr ⟨by linarith, by linarith⟩ : |product + half| ≤ 2 ^ 49)
  have hsum := abs_le.mp hsum
  exact abs_lt.mpr ⟨by linarith, by linarith⟩

/-- Milliseconds come back from a number of days that is near enough to them. -/
theorem serialMilliseconds_of_near {s : Rat} {count : Int} (hcount : count.natAbs < 2 ^ 48)
    (hnear : |s - count / millisecondsPerDay| ≤ 1 / 2 ^ 31) (hsign : 0 ≤ s ↔ 0 ≤ count) :
    serialMilliseconds s = count := by
  rw [serialMilliseconds]
  by_cases hs : 0 ≤ s
  · have hhalf : mkRat 1 2 = 1 / 2 := by norm_num [Rat.mkRat_eq_div]
    have hsum := abs_lt.mp (distance_rounded_sum hcount hnear
      (by rw [abs_of_pos (by norm_num)] : |(1 / 2 : Rat)| ≤ 1 / 2))
    rw [if_pos hs, hhalf]
    exact truncate_eq_of_nonneg (hsign.mp hs) (by linarith) (by linarith)
  · have hhalf : mkRat (-1) 2 = -(1 / 2) := by norm_num [Rat.mkRat_eq_div]
    have hsum := abs_lt.mp (distance_rounded_sum hcount hnear
      (by rw [abs_neg, abs_of_pos (by norm_num)] : |(-(1 / 2) : Rat)| ≤ 1 / 2))
    have hneg : count < 0 := by
      rw [hsign] at hs
      omega
    rw [if_neg hs, hhalf]
    exact truncate_eq_of_nonpos (le_of_lt hneg) (by linarith) (by linarith)

/-- The sign of a number of milliseconds is that of its days. -/
theorem daysOfMilliseconds_nonneg_iff {count : Int} (h : count.natAbs < 2 ^ 48) :
    0 ≤ (daysOfMilliseconds count).toRat ↔ 0 ≤ count := by
  obtain ⟨-, hnear⟩ := distance_daysOfMilliseconds h
  have hnear := abs_le.mp hnear
  rw [cast_millisecondsPerDay] at hnear
  rcases Int.lt_trichotomy count 0 with hneg | hzero | hpos
  · have hle : (count : Rat) ≤ -1 := by exact_mod_cast Int.le_sub_one_of_lt hneg
    refine ⟨fun hdays => absurd hdays (not_le.mpr ?_), fun hcount => absurd hneg (by omega)⟩
    linarith
  · subst hzero
    have hdays : daysOfMilliseconds 0 = Binary64.ofInt 0 := by
      rw [daysOfMilliseconds, (Binary64.toRat_ofInt (n := 0) (by decide)).2, Int.cast_zero,
        zero_div, Binary64.ofInt, Int.cast_zero]
    rw [hdays, (Binary64.toRat_ofInt (n := 0) (by decide)).2]
    simp
  · have hge : (1 : Rat) ≤ count := by exact_mod_cast hpos
    refine ⟨fun _ => le_of_lt hpos, fun _ => ?_⟩
    linarith

/-- **A number of milliseconds comes back from its days.** -/
theorem serialMilliseconds_daysOfMilliseconds {count : Int} (h : count.natAbs < 2 ^ 48) :
    serialMilliseconds (daysOfMilliseconds count).toRat = count :=
  serialMilliseconds_of_near h (distance_daysOfMilliseconds h).2 (daysOfMilliseconds_nonneg_iff h)

/-- Milliseconds between the bounds of the serial numbers are days between them. -/
theorem daysOfMilliseconds_range {count : Int} (hlow : serialLow * millisecondsPerDay < count)
    (hhigh : count < serialHigh * millisecondsPerDay) :
    count.natAbs < 2 ^ 48 ∧ (serialLow : Rat) < (daysOfMilliseconds count).toRat ∧
      (daysOfMilliseconds count).toRat < serialHigh := by
  unfold serialLow millisecondsPerDay at hlow
  unfold serialHigh millisecondsPerDay at hhigh
  have hcount : count.natAbs < 2 ^ 48 := by omega
  have hnear := abs_le.mp (distance_daysOfMilliseconds hcount).2
  have hbelow : (-657435 * 86400000 + 1 : Rat) ≤ count := by exact_mod_cast hlow
  have habove : (count : Rat) ≤ 2958466 * 86400000 - 1 := by
    have := Int.le_sub_one_of_lt hhigh
    exact_mod_cast this
  rw [cast_millisecondsPerDay] at hnear
  refine ⟨hcount, ?_, ?_⟩
  · norm_num [serialLow]
    linarith
  · norm_num [serialHigh]
    linarith

/-! ### Instants -/

/-- The years of the serial numbers hold the dates between their bounds. -/
theorem Date.number_range {date : Date} (hlow : 100 ≤ date.year) (hhigh : date.year ≤ 9999) :
    serialLow < date.number ∧ date.number < serialHigh := by
  have hfirst := daysBeforeYear_mono hlow
  have hlast := daysBeforeYear_mono (show date.year + 1 ≤ 10000 by omega)
  have hnext := daysBeforeYear_succ date.year
  have hday := date.dayOfYear_lt
  have hnumber : date.number = daysBeforeYear date.year - originDays + date.dayOfYear := by
    unfold Date.number Date.dayOfYear
    omega
  have hhundred : daysBeforeYear 100 = 36159 := by decide
  have htenThousand : daysBeforeYear 10000 = 3652059 := by decide
  unfold serialLow serialHigh
  unfold originDays at hnumber
  omega

namespace Instant

/-- An instant is found again from its count of nanoseconds. -/
theorem ofTicks?_ticks (i : Instant) : ofTicks? i.ticks = some i := by
  have hday := i.in_day
  have hdate : i.ticks / nanosecondsPerDay = i.date.number := by
    unfold ticks nanosecondsPerDay at *
    omega
  have htime : (i.ticks % nanosecondsPerDay).toNat = i.nanosecondOfDay := by
    unfold ticks nanosecondsPerDay at *
    omega
  simp only [ofTicks?, hdate, htime, Date.ofNumber?_number, Option.map_some]

/-- The whole milliseconds of an instant, from the origin on. -/
def milliseconds (i : Instant) : Int :=
  i.ticks.tdiv 1000000

theorem ticks_eq_milliseconds (i : Instant) (h : i.nanosecondOfDay % 1000000 = 0) :
    i.ticks = i.milliseconds * 1000000 ∧
      i.milliseconds = i.date.number * millisecondsPerDay + i.nanosecondOfDay / 1000000 := by
  have hticks : i.ticks =
      (i.date.number * millisecondsPerDay + i.nanosecondOfDay / 1000000) * 1000000 := by
    unfold ticks nanosecondsPerDay millisecondsPerDay
    omega
  have hcount : i.milliseconds =
      i.date.number * millisecondsPerDay + i.nanosecondOfDay / 1000000 := by
    rw [milliseconds, hticks, Int.mul_tdiv_cancel _ (by decide)]
  exact ⟨by rw [hcount, hticks], hcount⟩

/-- The milliseconds of a time of day. -/
theorem millisecond_lt (i : Instant) : (i.nanosecondOfDay / 1000000 : Int) < millisecondsPerDay := by
  have hday := i.in_day
  unfold nanosecondsPerDay at hday
  unfold millisecondsPerDay
  omega

/-- The signed serial milliseconds of an instant, from its date and its time of day. -/
theorem foldMilliseconds_eq (i : Instant) (h : i.nanosecondOfDay % 1000000 = 0) :
    foldMilliseconds i.milliseconds = i.date.number * millisecondsPerDay +
      if i.date.number < 0 then -(i.nanosecondOfDay / 1000000 : Int)
      else i.nanosecondOfDay / 1000000 := by
  rw [(i.ticks_eq_milliseconds h).2, foldMilliseconds_day _ (by omega) i.millisecond_lt]

/-- The signed serial milliseconds of an instant lie between the bounds of the serial
numbers. -/
theorem foldMilliseconds_range {i : Instant} (hlow : 100 ≤ i.date.year)
    (hhigh : i.date.year ≤ 9999) (hwhole : i.nanosecondOfDay % 1000000 = 0) :
    serialLow * millisecondsPerDay < foldMilliseconds i.milliseconds ∧
      foldMilliseconds i.milliseconds < serialHigh * millisecondsPerDay := by
  obtain ⟨hfirst, hlast⟩ := Date.number_range hlow hhigh
  have htime := i.millisecond_lt
  rw [i.foldMilliseconds_eq hwhole]
  unfold serialLow serialHigh millisecondsPerDay at *
  split <;> omega

/-- **Instants come back from their serial numbers.** An instant from the year 100 to
the year 9999 that is exact to the millisecond has a serial number between the bounds,
and is the instant of that number, on either side of the origin. -/
theorem ofSerial?_serial (i : Instant) (hlow : 100 ≤ i.date.year) (hhigh : i.date.year ≤ 9999)
    (hwhole : i.nanosecondOfDay % 1000000 = 0) :
    (serialLow : Rat) < i.serial.toRat ∧ i.serial.toRat < serialHigh ∧
      ofSerial? i.serial = some i := by
  obtain ⟨hbelow, habove⟩ := foldMilliseconds_range hlow hhigh hwhole
  obtain ⟨hcount, hserialLow, hserialHigh⟩ := daysOfMilliseconds_range hbelow habove
  have hfinite := (distance_daysOfMilliseconds hcount).1
  have hmilliseconds := serialMilliseconds_daysOfMilliseconds hcount
  have hserial : i.serial = daysOfMilliseconds (foldMilliseconds i.milliseconds) := rfl
  rw [← hserial] at hfinite hserialLow hserialHigh hmilliseconds
  refine ⟨hserialLow, hserialHigh, ?_⟩
  rw [ofSerial?, hfinite, decide_eq_true hserialLow, decide_eq_true hserialHigh, hmilliseconds,
    unfoldMilliseconds_foldMilliseconds, ← (i.ticks_eq_milliseconds hwhole).1, ofTicks?_ticks]
  rfl

/-- Six in the morning of a leap day, 109512 days before the origin. -/
def leapMorning : Instant :=
  ⟨⟨1600, 2, 29, by decide, by decide⟩, 21600000000000, by decide⟩

theorem ofSerial?_serial_leapMorning :
    100 ≤ leapMorning.date.year ∧ leapMorning.date.year ≤ 9999 ∧
      leapMorning.nanosecondOfDay % 1000000 = 0 ∧
      ofSerial? leapMorning.serial = some leapMorning := by
  have hlow : 100 ≤ leapMorning.date.year := by decide
  have hhigh : leapMorning.date.year ≤ 9999 := by decide
  have hwhole : leapMorning.nanosecondOfDay % 1000000 = 0 := by decide
  exact ⟨hlow, hhigh, hwhole, (ofSerial?_serial leapMorning hlow hhigh hwhole).2.2⟩

example : leapMorning.serial = .ofRat (-109512 - 1 / 4) := by
  decide +kernel

end Instant

end Spreadsheet
