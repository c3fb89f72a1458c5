/-
# The instants of serial numbers

Every finite number between the bounds of the serial numbers has an instant. The instant is found
after rounding to milliseconds, and the whole days are taken from the milliseconds: so before the
origin a number just short of a whole day is taken for the start of that day, and not for the end
of the day that it lies in.

* `Instant.ofSerial?_eq_some` — every number between the bounds has an instant.
* `Instant.ofSerial?_forward` — which of them have the instant that they stand for.
-/

import Spreadsheet.Proofs.SerialRounding

namespace Spreadsheet

-- A power of a natural number is core's, whatever other instances are in scope.
attribute [local instance (high)] instPowNat

/-! ### Dates of the serial numbers -/

/-- The days at the bounds of the serial numbers. -/
def dayBeforeSerials : Date :=
  ⟨99, 12, 31, by decide, by decide⟩

@[inherit_doc dayBeforeSerials]
def dayAfterSerials : Date :=
  ⟨10000, 1, 1, by decide, by decide⟩

theorem number_dayBeforeSerials : dayBeforeSerials.number = serialLow := by decide

theorem number_dayAfterSerials : dayAfterSerials.number = serialHigh := by decide

/-- Dates before the upper bound are of the year 9999 at the latest. -/
theorem Date.year_le_of_number {date : Date} (h : date.number < serialHigh) :
    date.year ≤ 9999 := by
  rw [← number_dayAfterSerials, Date.number_lt_iff] at h
  have hfirst := date.day_lt.1
  have hday := date.day_range
  simp only [dayAfterSerials] at h
  omega

/-- The dates between the bounds are those of the years from 100 to 9999. -/
theorem Date.year_range_of_number {date : Date} (hlow : serialLow < date.number)
    (hhigh : date.number < serialHigh) : 100 ≤ date.year ∧ date.year ≤ 9999 := by
  refine ⟨?_, Date.year_le_of_number hhigh⟩
  rw [← number_dayBeforeSerials, Date.number_lt_iff] at hlow
  have hmonth := date.month_le
  have hday := date.day_range
  have hdays : ∀ leap : Bool, ∀ month < 13, Calendar.daysInMonth leap month ≤ 31 := by decide
  have hlength := hdays (Calendar.isLeapYear date.year) date.month (by omega)
  simp only [dayBeforeSerials] at hlow
  omega

namespace Instant

/-- From one day through another, every nanosecond is that of an instant. -/
theorem exists_ticks_between {first last : Date} {ticks : Int}
    (hlow : first.number * nanosecondsPerDay ≤ ticks)
    (hhigh : ticks < (last.number + 1) * nanosecondsPerDay) : ∃ i : Instant, i.ticks = ticks := by
  have hday : first.number ≤ ticks / nanosecondsPerDay ∧
      ticks / nanosecondsPerDay ≤ last.number := by
    unfold nanosecondsPerDay at *
    omega
  obtain ⟨date, hdate⟩ := Date.exists_number_eq hday.1 hday.2
  refine ⟨⟨date, (ticks % nanosecondsPerDay).toNat, by unfold nanosecondsPerDay; omega⟩, ?_⟩
  rw [Instant.ticks, hdate]
  unfold nanosecondsPerDay
  dsimp only
  omega

/-- So it is between the bounds of the serial numbers. -/
theorem exists_ticks_eq {ticks : Int} (hlow : serialLow * nanosecondsPerDay ≤ ticks)
    (hhigh : ticks < (serialHigh + 1) * nanosecondsPerDay) : ∃ i : Instant, i.ticks = ticks := by
  rw [← number_dayBeforeSerials] at hlow
  rw [← number_dayAfterSerials] at hhigh
  exact exists_ticks_between hlow hhigh

/-- The time of day is what is left of the nanoseconds of whole days. -/
theorem ticks_emod (i : Instant) : i.ticks % nanosecondsPerDay = i.nanosecondOfDay := by
  have hday := i.in_day
  unfold ticks nanosecondsPerDay at *
  omega

end Instant

/-! ### Milliseconds before the origin -/

/-- Before the origin the whole days are counted back and the rest of a day forward. -/
theorem unfoldMilliseconds_neg {count : Int} (h : 0 ≤ count) :
    unfoldMilliseconds (-count) =
      count % millisecondsPerDay - count / millisecondsPerDay * millisecondsPerDay := by
  have hsplit := Int.mul_ediv_add_emod count millisecondsPerDay
  rcases eq_or_lt_of_le h with rfl | hpos
  · rfl
  · rw [unfoldMilliseconds, if_pos (by omega), tmod_of_neg (by omega), Int.neg_neg]
    unfold millisecondsPerDay at *
    omega

/-- The product of a number between the bounds has at most 48 bits. -/
theorem abs_mul_millisecondsPerDay_le {s : Rat} (hlow : (serialLow : Rat) < s)
    (hhigh : s < serialHigh) : |s| * millisecondsPerDay ≤ 2 ^ 48 := by
  have hmagnitude : |s| ≤ 2958466 := by
    norm_num [serialLow, serialHigh] at hlow hhigh
    exact abs_le.mpr ⟨by linarith, by linarith⟩
  rw [cast_millisecondsPerDay]
  linarith

/-! ### Every number has an instant -/

namespace Instant

/-- The bounds themselves and what lies beyond them have none. -/
theorem ofSerial?_eq_none {s : Binary64} (h : s.toRat ≤ serialLow ∨ (serialHigh : Rat) ≤ s.toRat) :
    ofSerial? s = none := by
  rw [ofSerial?]
  rcases h with hlow | hhigh
  · rw [decide_eq_false (not_lt.mpr hlow), Bool.and_false, Bool.false_and]
    rfl
  · rw [decide_eq_false (not_lt.mpr hhigh), Bool.and_false]
    rfl

section Decoding

variable {s : Binary64} (hfinite : s.isFinite = true) (hlow : (serialLow : Rat) < s.toRat)
  (hhigh : s.toRat < serialHigh)
include hlow hhigh

/-- The milliseconds of a number from the origin on. -/
theorem serialMilliseconds_range_of_nonneg (h : 0 ≤ s.toRat) :
    0 ≤ serialMilliseconds s.toRat ∧
      serialMilliseconds s.toRat ≤ serialHigh * millisecondsPerDay := by
  have hmax := abs_mul_millisecondsPerDay_le hlow hhigh
  rw [abs_of_nonneg h] at hmax
  refine ⟨(distance_serialMilliseconds h hmax).1, ?_⟩
  refine serialMilliseconds_le h hmax (n := 2958466 * 86400000) (by decide) (by decide) ?_
  norm_num [serialHigh] at hhigh
  rw [cast_millisecondsPerDay]
  push_cast
  linarith

/-- The milliseconds of the opposite of a number before the origin. -/
theorem serialMilliseconds_range_of_neg (h : s.toRat < 0) :
    0 ≤ serialMilliseconds (-s.toRat) ∧
      serialMilliseconds (-s.toRat) ≤ -serialLow * millisecondsPerDay := by
  have hmax := abs_mul_millisecondsPerDay_le hlow hhigh
  rw [abs_of_neg h] at hmax
  have hnonneg : 0 ≤ -s.toRat := by linarith
  refine ⟨(distance_serialMilliseconds hnonneg hmax).1, ?_⟩
  refine serialMilliseconds_le hnonneg hmax (n := 657435 * 86400000) (by decide) (by decide) ?_
  norm_num [serialLow] at hlow
  rw [cast_millisecondsPerDay]
  push_cast
  linarith

include hfinite

/-- **Every finite number between the bounds has an instant**, which is that of its milliseconds. -/
theorem ofSerial?_eq_some : ∃ i : Instant, ofSerial? s = some i ∧
    i.ticks = unfoldMilliseconds (serialMilliseconds s.toRat) * 1000000 := by
  have hrange : serialLow * millisecondsPerDay ≤ unfoldMilliseconds (serialMilliseconds s.toRat) ∧
      unfoldMilliseconds (serialMilliseconds s.toRat) ≤ serialHigh * millisecondsPerDay := by
    rcases le_or_gt 0 s.toRat with hnonneg | hneg
    · obtain ⟨hzero, hlast⟩ := serialMilliseconds_range_of_nonneg hlow hhigh hnonneg
      rw [unfoldMilliseconds, if_neg (by omega)]
      unfold serialLow millisecondsPerDay at *
      omega
    · obtain ⟨hzero, hfirst⟩ := serialMilliseconds_range_of_neg hlow hhigh hneg
      rw [serialMilliseconds_of_neg hneg, unfoldMilliseconds_neg hzero]
      unfold serialLow serialHigh millisecondsPerDay at *
      omega
  obtain ⟨i, hi⟩ := @exists_ticks_eq (unfoldMilliseconds (serialMilliseconds s.toRat) * 1000000)
    (by unfold serialLow millisecondsPerDay nanosecondsPerDay at *; omega)
    (by unfold serialHigh millisecondsPerDay nanosecondsPerDay at *; omega)
  refine ⟨i, ?_, hi⟩
  rw [ofSerial?, hfinite, decide_eq_true hlow, decide_eq_true hhigh, ← hi, ofTicks?_ticks]
  rfl

end Decoding

end Instant

/-! ### The instant that a number stands for -/

/-- The milliseconds from the origin to the instant that a serial number stands for: its whole
days, with their sign, and the rest of a day forward. -/
def forwardMilliseconds (serial : Rat) : Rat :=
  (truncate serial + |serial - truncate serial|) * millisecondsPerDay

/-- Before the origin, whether the floating point product comes within half a millisecond of the
next whole day. -/
def ReachesNextDay (serial : Rat) : Prop :=
  serial < 0 ∧ serialProduct serial ≤ (truncate serial - 1) * millisecondsPerDay + 1 / 2

/-- From the origin on, a number stands for its days. -/
theorem forwardMilliseconds_of_nonneg {serial : Rat} (h : 0 ≤ serial) :
    forwardMilliseconds serial = serial * millisecondsPerDay := by
  obtain ⟨-, hle, -⟩ := truncate_bounds h
  rw [forwardMilliseconds, abs_of_nonneg (by linarith), add_sub_cancel]

/-- Before the origin the whole days count twice against the number's magnitude. -/
theorem forwardMilliseconds_neg {magnitude : Rat} (h : 0 ≤ magnitude) :
    forwardMilliseconds (-magnitude) =
      magnitude * millisecondsPerDay - 2 * (truncate magnitude * millisecondsPerDay) := by
  obtain ⟨-, hle, -⟩ := truncate_bounds h
  rw [forwardMilliseconds, truncate_neg, Int.cast_neg, abs_of_nonpos (by linarith)]
  ring

section Magnitude

variable {magnitude : Rat} (h : 0 < magnitude) (hmax : magnitude * millisecondsPerDay ≤ 2 ^ 48)
include h hmax

/-- The milliseconds of a magnitude lie in its day or at the start of the next one. -/
theorem serialMilliseconds_day :
    truncate magnitude * millisecondsPerDay ≤ serialMilliseconds magnitude ∧
      serialMilliseconds magnitude ≤ (truncate magnitude + 1) * millisecondsPerDay := by
  obtain ⟨-, hle, hlt⟩ := truncate_bounds (le_of_lt h)
  obtain ⟨-, hnear⟩ := distance_serialMilliseconds (le_of_lt h) hmax
  have hnear := abs_le.mp hnear
  rw [cast_millisecondsPerDay] at hnear
  have hlow : ((truncate magnitude * millisecondsPerDay : Int) : Rat) <
      (serialMilliseconds magnitude + 1 : Int) := by
    push_cast
    rw [cast_millisecondsPerDay]
    linarith
  have hhigh : ((serialMilliseconds magnitude : Int) : Rat) <
      ((truncate magnitude + 1) * millisecondsPerDay + 1 : Int) := by
    push_cast
    rw [cast_millisecondsPerDay]
    linarith
  have hlow := Int.cast_lt.mp hlow
  have hhigh := Int.cast_lt.mp hhigh
  omega

/-- They are at the start of the next day exactly when the product comes near enough to it. -/
theorem reachesNextDay_neg_iff : ReachesNextDay (-magnitude) ↔
    serialMilliseconds magnitude = (truncate magnitude + 1) * millisecondsPerDay := by
  obtain ⟨hwhole, hle, -⟩ := truncate_bounds (le_of_lt h)
  obtain ⟨next, hnext⟩ : ∃ next : Nat,
      (next : Int) = (truncate magnitude + 1) * millisecondsPerDay :=
    ⟨_, Int.toNat_of_nonneg (by unfold millisecondsPerDay; omega)⟩
  have hnextRat : (next : Rat) = (truncate magnitude + 1) * millisecondsPerDay := by
    exact_mod_cast congrArg (Int.cast : Int → Rat) hnext
  have hsize : next ≤ 2 ^ 52 := by
    have hcast : (next : Rat) ≤ (2 ^ 52 : Nat) := by
      rw [hnextRat]
      rw [cast_millisecondsPerDay] at hmax ⊢
      push_cast
      linarith
    exact_mod_cast hcast
  have hpositive : 2 ≤ next := by
    unfold millisecondsPerDay at hnext
    omega
  have hproduct : ReachesNextDay (-magnitude) ↔ (next : Rat) - 1 / 2 ≤ serialProduct magnitude := by
    rw [ReachesNextDay, serialProduct_neg, truncate_neg, hnextRat]
    push_cast
    constructor
    · rintro ⟨-, hreached⟩
      linarith
    · intro hreached
      exact ⟨by linarith, by linarith⟩
  have hlast := (serialMilliseconds_day h hmax).2
  rw [hproduct, ← le_serialMilliseconds_iff (le_of_lt h) hmax hpositive hsize, hnext]
  omega

/-- Only numbers that are little more than half a millisecond from it come near enough. -/
theorem le_of_reachesNextDay (hreaches : ReachesNextDay (-magnitude)) :
    -magnitude * millisecondsPerDay ≤
      (truncate (-magnitude) - 1) * millisecondsPerDay + 17 / 32 := by
  obtain ⟨-, hnear, -⟩ := serialProduct_spec (le_of_lt h) hmax
  have hnear := abs_le.mp hnear
  obtain ⟨-, hproduct⟩ := hreaches
  rw [serialProduct_neg] at hproduct
  linarith

/-- Before the next day, the milliseconds counted back and forward are those of the instant that
the number stands for, as far as its milliseconds are exact. -/
theorem unfoldMilliseconds_of_not_reachesNextDay (hstays : ¬ReachesNextDay (-magnitude)) :
    unfoldMilliseconds (-serialMilliseconds magnitude) =
      serialMilliseconds magnitude - 2 * (truncate magnitude * millisecondsPerDay) := by
  obtain ⟨hwhole, -, -⟩ := truncate_bounds (le_of_lt h)
  obtain ⟨hlow, hhigh⟩ := serialMilliseconds_day h hmax
  rw [reachesNextDay_neg_iff h hmax] at hstays
  rw [unfoldMilliseconds_neg (distance_serialMilliseconds (le_of_lt h) hmax).1]
  unfold millisecondsPerDay at *
  omega

/-- At the next day they are that day's start, nothing being left to count forward. -/
theorem unfoldMilliseconds_of_reachesNextDay (hreaches : ReachesNextDay (-magnitude)) :
    unfoldMilliseconds (-serialMilliseconds magnitude) =
      (truncate (-magnitude) - 1) * millisecondsPerDay := by
  rw [reachesNextDay_neg_iff h hmax] at hreaches
  rw [unfoldMilliseconds_neg (distance_serialMilliseconds (le_of_lt h) hmax).1, hreaches,
    truncate_neg]
  unfold millisecondsPerDay
  omega

/-- So they are those of the instant that the number stands for, to the millisecond, exactly when
the next day is not reached. -/
theorem distance_unfoldMilliseconds_le_iff :
    |(unfoldMilliseconds (-serialMilliseconds magnitude) : Rat) -
        forwardMilliseconds (-magnitude)| ≤ 1 ↔ ¬ReachesNextDay (-magnitude) := by
  rw [forwardMilliseconds_neg (le_of_lt h)]
  by_cases hreaches : ReachesNextDay (-magnitude)
  · refine iff_of_false (fun hnear => ?_) (not_not.mpr hreaches)
    obtain ⟨-, hle, hlt⟩ := truncate_bounds (le_of_lt h)
    rw [unfoldMilliseconds_of_reachesNextDay h hmax hreaches, truncate_neg] at hnear
    have hnear := abs_le.mp hnear
    push_cast at hnear
    rw [cast_millisecondsPerDay] at hnear
    linarith
  · refine iff_of_true ?_ hreaches
    obtain ⟨-, hnear⟩ := distance_serialMilliseconds (le_of_lt h) hmax
    rw [unfoldMilliseconds_of_not_reachesNextDay h hmax hreaches]
    push_cast
    rw [sub_sub_sub_cancel_right]
    exact le_trans hnear (by norm_num)

end Magnitude

namespace Instant

/-- **Where the instant of a number is the one that it stands for.** Every finite number between the
bounds has an instant, and it is within a millisecond of the whole days of the number and the rest
of a day forward, but for numbers before the origin whose floating point product comes within half
a millisecond of the next whole day. These are little more than half a millisecond from that day
themselves, and have the start of it for their instant, two days before the day that the rest,
counted forward, comes near to. -/
theorem ofSerial?_forward {s : Binary64} (hfinite : s.isFinite = true)
    (hlow : (serialLow : Rat) < s.toRat) (hhigh : s.toRat < serialHigh) :
    ∃ i : Instant, ofSerial? s = some i ∧
      (|(i.ticks : Rat) / 1000000 - forwardMilliseconds s.toRat| ≤ 1 ↔ ¬ReachesNextDay s.toRat) ∧
      (ReachesNextDay s.toRat → i.ticks = (truncate s.toRat - 1) * nanosecondsPerDay ∧
        s.toRat * millisecondsPerDay ≤
          (truncate s.toRat - 1) * millisecondsPerDay + 17 / 32) := by
  obtain ⟨i, hsome, hticks⟩ := ofSerial?_eq_some hfinite hlow hhigh
  have hmilliseconds : (i.ticks : Rat) / 1000000 =
      unfoldMilliseconds (serialMilliseconds s.toRat) := by
    rw [hticks]
    push_cast
    ring
  have hmax := abs_mul_millisecondsPerDay_le hlow hhigh
  refine ⟨i, hsome, ?_⟩
  rw [hmilliseconds, hticks]
  rcases le_or_gt 0 s.toRat with hnonneg | hneg
  · have hstays : ¬ReachesNextDay s.toRat := fun hreaches => absurd hreaches.1 (not_lt.mpr hnonneg)
    rw [abs_of_nonneg hnonneg] at hmax
    obtain ⟨hzero, hnear⟩ := distance_serialMilliseconds hnonneg hmax
    rw [unfoldMilliseconds, if_neg (by omega), forwardMilliseconds_of_nonneg hnonneg]
    exact ⟨iff_of_true (le_trans hnear (by norm_num)) hstays, fun hreaches => absurd hreaches hstays⟩
  · obtain ⟨magnitude, hmagnitude⟩ : ∃ magnitude, s.toRat = -magnitude := ⟨-s.toRat, by ring⟩
    rw [abs_of_neg hneg, hmagnitude, neg_neg] at hmax
    rw [hmagnitude] at hneg ⊢
    have hpos : 0 < magnitude := by linarith
    rw [serialMilliseconds_neg hpos]
    refine ⟨distance_unfoldMilliseconds_le_iff hpos hmax, fun hreaches => ⟨?_, ?_⟩⟩
    · rw [unfoldMilliseconds_of_reachesNextDay hpos hmax hreaches]
      unfold millisecondsPerDay nanosecondsPerDay
      omega
    · exact le_of_reachesNextDay hpos hmax hreaches

/-- A billionth of a day short of the day before the origin. -/
def nearlyDayBefore : Binary64 :=
  .ofRat (-1 + 1 / 1073741824)

/-- Not every number has the instant that it stands for: a number just short of a whole day before
the origin has an instant two days earlier. -/
theorem not_ofSerial?_forward :
    ¬∀ s : Binary64, s.isFinite = true → (serialLow : Rat) < s.toRat → s.toRat < serialHigh →
      ∃ i : Instant, ofSerial? s = some i ∧
        |(i.ticks : Rat) / 1000000 - forwardMilliseconds s.toRat| ≤ 1 := by
  intro hlaw
  obtain ⟨i, hsome, hnear⟩ := hlaw nearlyDayBefore (by decide +kernel) (by decide +kernel)
    (by decide +kernel)
  have hdecoded : ofSerial? nearlyDayBefore =
      some (midnight ⟨1899, 12, 29, by decide, by decide⟩) := by decide +kernel
  rw [hdecoded, Option.some.injEq] at hsome
  subst hsome
  exact absurd hnear (by decide +kernel)

theorem ofSerial?_forward_noon :
    (Binary64.ofRat (-3 / 2)).isFinite = true ∧
      (serialLow : Rat) < (Binary64.ofRat (-3 / 2)).toRat ∧
      (Binary64.ofRat (-3 / 2)).toRat < serialHigh ∧
      ∃ i : Instant, ofSerial? (.ofRat (-3 / 2)) = some i ∧
        |(i.ticks : Rat) / 1000000 - forwardMilliseconds (Binary64.ofRat (-3 / 2)).toRat| ≤ 1 := by
  have hfinite : (Binary64.ofRat (-3 / 2)).isFinite = true := by decide +kernel
  have hlow : (serialLow : Rat) < (Binary64.ofRat (-3 / 2)).toRat := by decide +kernel
  have hhigh : (Binary64.ofRat (-3 / 2)).toRat < serialHigh := by decide +kernel
  have hstays : ¬ReachesNextDay (Binary64.ofRat (-3 / 2)).toRat := by
    unfold ReachesNextDay
    decide +kernel
  obtain ⟨i, hsome, hnear, -⟩ := ofSerial?_forward hfinite hlow hhigh
  exact ⟨hfinite, hlow, hhigh, i, hsome, hnear.mpr hstays⟩

end Instant

end Spreadsheet
