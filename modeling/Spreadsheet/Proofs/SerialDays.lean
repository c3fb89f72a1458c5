/-
# Days in the order of serial numbers

An earlier day has the smaller serial numbers, on either side of the origin. Within a day they are
in the order of time from the origin on, and in the reverse order before it, where the time of day
counts away from the start of its day: so no day runs into the next one, and between the start of
the last day before the origin and the origin there is no serial number of an instant.

* `order?_daysOfMilliseconds` — days compare as their milliseconds.
* `Instant.compare_foldMilliseconds` — how signed serial milliseconds compare.
* `Instant.order?_serial` — how serial numbers compare.
-/

import Spreadsheet.Proofs.SerialIdentity

namespace Spreadsheet

/-- Days compare as their milliseconds. -/
theorem order?_daysOfMilliseconds {a b : Int} (ha : a.natAbs < 2 ^ 48) (hb : b.natAbs < 2 ^ 48) :
    Binary64.order? (daysOfMilliseconds a) (daysOfMilliseconds b) = some (compare a b) := by
  rw [Binary64.order?_of_isFinite (distance_daysOfMilliseconds ha).1
      (distance_daysOfMilliseconds hb).1,
    compare_of_strictMonoOn strictMonoOn_daysOfMilliseconds ha hb]

/-- Milliseconds that do not lie between the day before the origin and the origin have days that do
not. -/
theorem daysOfMilliseconds_not_between {count : Int} (hcount : count.natAbs < 2 ^ 48)
    (h : count ≤ -millisecondsPerDay ∨ 0 ≤ count) :
    ¬(-1 < (daysOfMilliseconds count).toRat ∧ (daysOfMilliseconds count).toRat < 0) := by
  rintro ⟨hlow, hhigh⟩
  rcases h with hbefore | hnonneg
  · have hle := strictMonoOn_daysOfMilliseconds.monotoneOn hcount
      (show (-1 * millisecondsPerDay).natAbs < 2 ^ 48 by decide) (by omega)
    have hday : (daysOfMilliseconds (-1 * millisecondsPerDay)).toRat = -1 := by
      rw [daysOfMilliseconds_days (by decide), (Binary64.toRat_ofInt (by decide)).2]
      norm_num
    simp only [hday] at hle
    exact absurd hlow (not_lt.mpr hle)
  · exact absurd hhigh (not_lt.mpr ((daysOfMilliseconds_nonneg_iff hcount).mpr hnonneg))

namespace Instant

section Whole

variable {a b : Instant} (ha : a.nanosecondOfDay % 1000000 = 0)
  (hb : b.nanosecondOfDay % 1000000 = 0)
include ha

/-- From the origin on, the signed serial milliseconds are those of the instant. -/
theorem foldMilliseconds_of_nonneg (h : 0 ≤ a.date.number) :
    foldMilliseconds a.milliseconds = a.milliseconds := by
  rw [a.foldMilliseconds_eq ha, if_neg (by omega), (a.ticks_eq_milliseconds ha).2]

/-- Before the origin, they are mirrored at the start of the day. -/
theorem foldMilliseconds_of_neg (h : a.date.number < 0) :
    foldMilliseconds a.milliseconds =
      2 * (a.date.number * millisecondsPerDay) - a.milliseconds := by
  rw [a.foldMilliseconds_eq ha, if_pos h, (a.ticks_eq_milliseconds ha).2]
  omega

/-- They are not within the day before the origin. -/
theorem foldMilliseconds_not_between :
    foldMilliseconds a.milliseconds ≤ -millisecondsPerDay ∨
      0 ≤ foldMilliseconds a.milliseconds := by
  rw [a.foldMilliseconds_eq ha]
  unfold millisecondsPerDay
  split <;> omega

include hb

/-- Instants compare as their milliseconds. -/
theorem order_eq_compare : a.order b = compare a.milliseconds b.milliseconds := by
  rw [order, (a.ticks_eq_milliseconds ha).1, (b.ticks_eq_milliseconds hb).1,
    compare_of_strictMonoOn (strictMono_ticks.strictMonoOn Set.univ) (Set.mem_univ _)
      (Set.mem_univ _)]

/-- **How signed serial milliseconds compare**: as the days do, and within a day as the instants
do from the origin on and the other way round before it. -/
theorem compare_foldMilliseconds :
    (a.date.number < b.date.number →
      compare (foldMilliseconds a.milliseconds) (foldMilliseconds b.milliseconds) = .lt) ∧
    (a.date = b.date → 0 ≤ a.date.number →
      compare (foldMilliseconds a.milliseconds) (foldMilliseconds b.milliseconds) = a.order b) ∧
    (a.date = b.date → a.date.number < 0 →
      compare (foldMilliseconds a.milliseconds) (foldMilliseconds b.milliseconds) =
        b.order a) := by
  refine ⟨fun hday => ?_, fun hdate horigin => ?_, fun hdate hbefore => ?_⟩
  · have haTime := a.millisecond_lt
    have hbTime := b.millisecond_lt
    rw [compare_lt_iff_lt, a.foldMilliseconds_eq ha, b.foldMilliseconds_eq hb]
    unfold millisecondsPerDay at *
    split <;> split <;> omega
  · rw [foldMilliseconds_of_nonneg ha horigin, foldMilliseconds_of_nonneg hb (hdate ▸ horigin),
      order_eq_compare ha hb]
  · have hmirror : StrictAnti fun count : Int =>
        2 * (a.date.number * millisecondsPerDay) - count := by
      intro m n hmn
      dsimp only
      omega
    rw [foldMilliseconds_of_neg ha hbefore, foldMilliseconds_of_neg hb (hdate ▸ hbefore), ← hdate,
      compare_of_strictAnti hmirror, order_eq_compare hb ha]

end Whole

/-- **How serial numbers compare.** Of two instants of the years from 100 to 9999 that are exact to
the millisecond, the one on an earlier day has the smaller serial number. On one day they compare
as the instants do from the origin on, and the other way round before it. So a serial number is
that of one instant, and none lies between the day before the origin and the origin. -/
theorem order?_serial {a b : Instant} (haLow : 100 ≤ a.date.year) (haHigh : a.date.year ≤ 9999)
    (ha : a.nanosecondOfDay % 1000000 = 0) (hbLow : 100 ≤ b.date.year)
    (hbHigh : b.date.year ≤ 9999) (hb : b.nanosecondOfDay % 1000000 = 0) :
    (a.date.number < b.date.number → Binary64.order? a.serial b.serial = some .lt) ∧
      (a.date = b.date → 0 ≤ a.date.number →
        Binary64.order? a.serial b.serial = some (a.order b)) ∧
      (a.date = b.date → a.date.number < 0 →
        Binary64.order? a.serial b.serial = some (b.order a)) ∧
      (Binary64.order? a.serial b.serial = some .eq ↔ a = b) ∧
      ¬(-1 < a.serial.toRat ∧ a.serial.toRat < 0) := by
  obtain ⟨haFirst, haLast⟩ := foldMilliseconds_range haLow haHigh ha
  obtain ⟨hbFirst, hbLast⟩ := foldMilliseconds_range hbLow hbHigh hb
  have haCount := (daysOfMilliseconds_range haFirst haLast).1
  have hbCount := (daysOfMilliseconds_range hbFirst hbLast).1
  have horder : Binary64.order? a.serial b.serial =
      some (compare (foldMilliseconds a.milliseconds) (foldMilliseconds b.milliseconds)) :=
    order?_daysOfMilliseconds haCount hbCount
  obtain ⟨hdays, hforward, hback⟩ := compare_foldMilliseconds ha hb
  rw [horder]
  refine ⟨fun hday => by rw [hdays hday], fun hdate horigin => by rw [hforward hdate horigin],
    fun hdate hbefore => by rw [hback hdate hbefore], ?_,
    daysOfMilliseconds_not_between haCount (foldMilliseconds_not_between ha)⟩
  rw [Option.some.injEq, compare_eq_iff_eq]
  exact ⟨eq_of_foldMilliseconds_eq ha hb, fun h => by rw [h]⟩

/-- The last millisecond of the leap day. -/
def leapNight : Instant :=
  ⟨leapMorning.date, 86399999000000, by decide⟩

theorem order?_serial_leapNight :
    100 ≤ leapMorning.date.year ∧ leapMorning.date.year ≤ 9999 ∧
      leapMorning.nanosecondOfDay % 1000000 = 0 ∧ leapNight.nanosecondOfDay % 1000000 = 0 ∧
      leapMorning.order leapNight = .lt ∧
      Binary64.order? leapMorning.serial leapNight.serial = some .gt := by
  have hlow : 100 ≤ leapMorning.date.year := by decide
  have hhigh : leapMorning.date.year ≤ 9999 := by decide
  have hmorning : leapMorning.nanosecondOfDay % 1000000 = 0 := by decide
  have hnight : leapNight.nanosecondOfDay % 1000000 = 0 := by decide
  obtain ⟨-, -, hback, -⟩ := order?_serial hlow hhigh hmorning (b := leapNight) hlow hhigh hnight
  exact ⟨hlow, hhigh, hmorning, hnight, by decide, hback rfl (by decide)⟩

end Instant

end Spreadsheet
