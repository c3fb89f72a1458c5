/-
# A date and its serial number are one value

A cell with a date and a cell with the serial number of that date are shown alike and
counted alike. A format shows the date that it decodes from the number, and a criterion
goes by the number of the date, unless it is a date with no operator in front of it.

* `Instant.ofSerial?_daysOfMilliseconds` — what a number of milliseconds is decoded to.
* `Criterion.compareWith_congr` — comparisons go by the numbers of the values.
* `evaluate_dateTime_ne_iff` — the one criterion that tells the two cells apart.
* `Cell.dateTime_interchangeable` — every format and every other criterion takes one for the other.
-/

import Spreadsheet.Format.Render
import Spreadsheet.Proofs.CriterionLiteral
import Spreadsheet.Proofs.SerialRoundTrip

namespace Spreadsheet

namespace Instant

/-! ### Decoding -/

/-- Instants with the same count of nanoseconds are the same. -/
theorem ticks_injective : Function.Injective ticks := by
  intro i j h
  have hfound := i.ofTicks?_ticks
  rw [h, ofTicks?_ticks] at hfound
  exact (Option.some.inj hfound).symm

/-- A number of milliseconds between the bounds is decoded to the instant that they are
counted to. -/
theorem ofSerial?_daysOfMilliseconds {count : Int}
    (hlow : serialLow * millisecondsPerDay < count)
    (hhigh : count < serialHigh * millisecondsPerDay) :
    ofSerial? (daysOfMilliseconds count) = ofTicks? (unfoldMilliseconds count * 1000000) := by
  obtain ⟨hcount, hbelow, habove⟩ := daysOfMilliseconds_range hlow hhigh
  have hfinite := (distance_daysOfMilliseconds hcount).1
  rw [ofSerial?, hfinite, decide_eq_true hbelow, decide_eq_true habove,
    serialMilliseconds_daysOfMilliseconds hcount]
  rfl

end Instant

/-! ### Formats -/

section Formats

variable {i : Instant} (hlow : 100 ≤ i.date.year) (hhigh : i.date.year ≤ 9999)
  (hwhole : i.nanosecondOfDay % 1000000 = 0)

include hlow hhigh hwhole

/-- The serial number of an instant is decoded to the instant. -/
theorem Instant.decode_serial : ofSerial? i.serial = some i := by
  obtain ⟨hbelow, habove⟩ := foldMilliseconds_range hlow hhigh hwhole
  have hserial : i.serial = daysOfMilliseconds (foldMilliseconds i.milliseconds) := rfl
  rw [hserial, ofSerial?_daysOfMilliseconds hbelow habove, unfoldMilliseconds_foldMilliseconds,
    ← (i.ticks_eq_milliseconds hwhole).1, ofTicks?_ticks]

/-- **A date is shown as its serial number is**, under whatever templates. A number format
shows the serial number of the date, and a date format the date of the serial number. -/
theorem renderWith_dateTime (format : ResolvedFormat) (templates : Text × Text)
    (override : Option Locale) :
    renderWith format templates override (.dateTime i) =
      renderWith format templates override (.number i.serial) := by
  cases hkind : format.isDateTime with
  | false => exact renderWith_dateTime_number hkind templates override i
  | true =>
    have hdecoded : serialText format templates.1 (override.getD format.locale) i.serial =
        instantText format templates.1 (override.getD format.locale) i := by
      rw [serialText, hkind, Instant.decode_serial hlow hhigh hwhole]
      rfl
    have hdate : renderWith format templates override (.dateTime i) =
        instantText format templates.1 (override.getD format.locale) i := by
      rw [renderWith, if_pos hkind]
    rw [hdate, ← hdecoded]
    rfl

end Formats

/-! ### Comparisons -/

/-- An empty cell is no number. -/
theorem Cell.isEmpty_of_numeric {locale : Locale} {value : Cell} {x : Binary64}
    (h : value.numeric? locale = some x) : value.isEmpty = false := by
  cases value with
  | empty => cases h
  | _ => rfl

namespace Criterion

/-- **Comparisons go by the numbers of the values**: values of whatever kind that have the
same number satisfy the same comparisons and cause the same errors. -/
theorem compareWith_congr {locale : Locale} {a b : Cell} {x : Binary64}
    (ha : a.numeric? locale = some x) (hb : b.numeric? locale = some x) (operator : Operator)
    (literal : Text) :
    compareWith locale operator a literal = compareWith locale operator b literal := by
  rw [compareWith, compareWith, Cell.isEmpty_of_numeric ha, Cell.isEmpty_of_numeric hb]
  cases literal.isEmpty with
  | true => rfl
  | false =>
    dsimp only
    rw [compareFilled, compareFilled, ha, hb]
    -- the values themselves are compared only when neither side is a number
    rcases signed operator (locale.readNumber? literal) with ⟨asked, _ | y⟩
    · cases locale.readDate? literal <;> rfl
    · rfl

end Criterion

/-- Values that have the same number satisfy the same criteria with an operator. -/
theorem evaluate_congr_of_operator (matcher : Matcher) {locale : Locale} {a b : Cell}
    {x : Binary64} (ha : a.numeric? locale = some x) (hb : b.numeric? locale = some x)
    {text : Text} {operator : Operator} (h : Criterion.operator? text = some operator) :
    evaluate matcher locale a text = evaluate matcher locale b text := by
  rw [evaluate, evaluate, Criterion.ofText_eq_comparison h]
  exact Criterion.compareWith_congr ha hb operator _

/-! ### Patterns -/

namespace Matcher

/-- What a pattern that is no number is to a date: the date that it writes, if it writes one. -/
theorem wildcard_dateTime_eq_iff {locale : Locale} {pattern : Text} (i : Instant)
    (h : locale.readNumber? pattern = none) :
    wildcard locale pattern (.dateTime i) = some .eq ↔ locale.readDate? pattern = some i := by
  have hwildcard : wildcard locale pattern (.dateTime i) =
      (locale.readDate? pattern).map i.order := by
    rw [wildcard, compareInstant, h]
  rw [hwildcard, Option.map_eq_some_iff]
  constructor
  · rintro ⟨date, hdate, horder⟩
    have hticks : i.ticks = date.ticks := Int.compare_eq_eq.mp horder
    rw [hdate, Instant.ticks_injective hticks]
  · intro hdate
    exact ⟨i, hdate, Int.compare_eq_eq.mpr rfl⟩

/-- A pattern that is a number is compared with the serial number of a date. -/
theorem wildcard_dateTime_of_number {locale : Locale} {pattern : Text} {y : Binary64}
    (i : Instant) (h : locale.readNumber? pattern = some y) :
    wildcard locale pattern (.dateTime i) = wildcard locale pattern (.number i.serial) := by
  have hinstant : compareInstant locale pattern i = Binary64.order? i.serial y := by
    rw [compareInstant, h]
  rw [wildcard_number, h, Option.bind_some]
  exact hinstant

end Matcher

/-- The empty text is no date. -/
theorem Locale.readDate?_nil (locale : Locale) : locale.readDate? [] = none := by
  rw [readDate?_no_colon (by decide)]
  rfl

/-- **The one criterion that tells a date from its serial number** is the date itself with
no operator in front of it, where it is no number. -/
theorem evaluate_dateTime_ne_iff (locale : Locale) (i : Instant) (text : Text) :
    evaluate .wildcard locale (.dateTime i) text ≠
        evaluate .wildcard locale (.number i.serial) text ↔
      Criterion.operator? text = none ∧ locale.readNumber? text = none ∧
        locale.readDate? text = some i := by
  cases hoperator : Criterion.operator? text with
  | some operator =>
    have hsame : evaluate .wildcard locale (.dateTime i) text =
        evaluate .wildcard locale (.number i.serial) text :=
      evaluate_congr_of_operator .wildcard (x := i.serial) rfl rfl hoperator
    simp [hsame]
  | none =>
    rcases eq_or_ne text [] with rfl | hne
    · have hblank : ∀ value : Cell, evaluate .wildcard locale value [] = .ok value.isEmpty :=
        fun _ => rfl
      rw [hblank, hblank, locale.readDate?_nil]
      simp [Cell.isEmpty]
    · rw [evaluate_pattern _ _ _ hne hoperator, evaluate_pattern _ _ _ hne hoperator]
      cases hread : locale.readNumber? text with
      | some y => simp [Matcher.wildcard_dateTime_of_number i hread]
      | none =>
        rw [Matcher.wildcard_number, hread, Option.bind_none,
          ← Matcher.wildcard_dateTime_eq_iff i hread]
        simp

-- The date itself, with no operator, is a date to a date cell and nothing to a number.
example :
    evaluate .wildcard .americanEnglish (.dateTime .leapMorning) "1600-02-29 6:00".toList =
        .ok true ∧
      evaluate .wildcard .americanEnglish (.number Instant.leapMorning.serial)
        "1600-02-29 6:00".toList = .ok false := by
  decide +kernel

/-! ### Cells -/

namespace Cell

/-- **A date cell and its serial number are interchangeable.** For an instant from the year
100 to the year 9999 that is exact to the millisecond, every format shows both cells alike
in every locale. Every criterion with an operator decides both alike or fails for both with
the same error, whatever the matcher; and so does, with the matcher of criteria, every
criterion without an operator that is a number. -/
theorem dateTime_interchangeable {i : Instant} (hlow : 100 ≤ i.date.year)
    (hhigh : i.date.year ≤ 9999) (hwhole : i.nanosecondOfDay % 1000000 = 0) :
    (∀ (format : ResolvedFormat) (override : Option Locale),
        render format override (.dateTime i) = render format override (.number i.serial)) ∧
      (∀ (matcher : Matcher) (locale : Locale) (text : Text),
        Criterion.operator? text ≠ none →
          evaluate matcher locale (.dateTime i) text =
            evaluate matcher locale (.number i.serial) text) ∧
      ∀ (locale : Locale) (text : Text),
        Criterion.operator? text = none → locale.readNumber? text ≠ none →
          evaluate .wildcard locale (.dateTime i) text =
            evaluate .wildcard locale (.number i.serial) text := by
  refine ⟨?_, ?_, ?_⟩
  · intro format override
    exact renderWith_dateTime hlow hhigh hwhole format (format.templates false) override
  · intro matcher locale text hoperator
    obtain ⟨operator, hsome⟩ := Option.ne_none_iff_exists'.mp hoperator
    exact evaluate_congr_of_operator matcher (x := i.serial) rfl rfl hsome
  · intro locale text _ hread
    by_contra hne
    exact hread ((evaluate_dateTime_ne_iff locale i text).mp hne).2.1

/-- A leap morning before the origin is shown as its serial number is and is at most the
number, which is read with its minus sign after the operator. -/
theorem dateTime_interchangeable_leapMorning :
    100 ≤ Instant.leapMorning.date.year ∧ Instant.leapMorning.date.year ≤ 9999 ∧
      Instant.leapMorning.nanosecondOfDay % 1000000 = 0 ∧
      render (.ofTemplate .dateTime "d".toList) none (.number Instant.leapMorning.serial) =
        "29".toList ∧
      Criterion.operator? "<=-109512.25".toList ≠ none ∧
      evaluate .exact .americanEnglish (.number Instant.leapMorning.serial)
        "<=-109512.25".toList = .ok true ∧
      Criterion.operator? "+1".toList = none ∧
      Locale.americanEnglish.readNumber? "+1".toList ≠ none ∧
      evaluate .wildcard .americanEnglish (.number Instant.leapMorning.serial) "+1".toList =
        .ok false := by
  have hlow : 100 ≤ Instant.leapMorning.date.year := by decide
  have hhigh : Instant.leapMorning.date.year ≤ 9999 := by decide
  have hwhole : Instant.leapMorning.nanosecondOfDay % 1000000 = 0 := by decide
  have hoperator : Criterion.operator? "<=-109512.25".toList ≠ none := by decide +kernel
  have hpattern : Criterion.operator? "+1".toList = none := by decide +kernel
  have hnumber : Locale.americanEnglish.readNumber? "+1".toList ≠ none := by decide +kernel
  obtain ⟨hshown, hcompared, hmatched⟩ := dateTime_interchangeable hlow hhigh hwhole
  refine ⟨hlow, hhigh, hwhole, ?_, hoperator, ?_, hpattern, hnumber, ?_⟩
  · rw [← hshown]
    decide +kernel
  · rw [← hcompared _ _ _ hoperator]
    decide +kernel
  · rw [← hmatched _ _ hpattern hnumber]
    decide +kernel

end Cell

end Spreadsheet
