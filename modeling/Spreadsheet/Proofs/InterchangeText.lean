/-
# Instants in interchange text are read back

Every part of an interchange text is a written number that ends where a mark stands, so the
reader takes exactly the digits that were shown: all of them after the sign of a year, and no
more than four, two or nine of them elsewhere.

* `Iso.year?_yearText` — a year is read back, with and without a sign.
* `Iso.nanosecond?_fractionText` — so is the fraction of a second, in any of its lengths.
* `ClockReading.ofIso?_isoText` — an instant is read back.
-/

import Spreadsheet.Calendar.Iso
import Spreadsheet.Proofs.DateFormats

namespace Spreadsheet

-- A power of a natural number is core's, whatever other instances are in scope.
attribute [local instance (high)] instPowNat

namespace Iso

section Parts

variable {digits rest : Text} {n : Nat} (h : digits.Writes n)
include h

/-- A written number is read when it has no more digits than are taken. -/
theorem number?_append {most : Nat} (hlength : digits.length ≤ most)
    (hrest : ∀ c ∈ rest.head?, c.isDigit = false) :
    number? most (digits ++ rest) = some (n, rest) := by
  have hstop : ∀ c ∈ (rest.take (most - digits.length)).head?, c.isDigit = false := by
    intro c hc
    rw [List.head?_take] at hc
    split at hc
    · cases hc
    · exact hrest c hc
  have hdigits : ((digits ++ rest).take most).takeWhile Char.isDigit = digits := by
    rw [List.take_append, List.take_of_length_le hlength]
    exact (h.leadingRun hstop).1
  rw [number?]
  simp only [h.trimStart_append, hdigits]
  rw [if_neg (by simp [h.ne_nil]), h.value, List.drop_left]

/-- After a sign all digits are read. -/
theorem digitsAfterSign?_append (hrest : ∀ c ∈ rest.head?, c.isDigit = false) :
    year?.digitsAfterSign? (digits ++ rest) = some (n, rest) := by
  rw [year?.digitsAfterSign?]
  simp only [(h.leadingRun hrest).1]
  rw [if_neg (by simp [h.ne_nil]), h.value, List.drop_left]

/-- Up to nine digits after a point are so many nanoseconds. -/
theorem nanosecond?_point (hlength : digits.length ≤ 9) :
    nanosecond? ('.' :: digits) = some (n * 10 ^ (9 - digits.length), []) := by
  have hdigits : (digits.take 9).takeWhile Char.isDigit = digits := by
    rw [List.take_of_length_le hlength, List.takeWhile_eq_self_iff.mpr h.isDigit]
  rw [nanosecond?]
  simp only [hdigits]
  rw [if_neg (by simp [h.ne_nil]), h.value, List.dropWhile_eq_nil_iff.mpr h.isDigit]

end Parts

/-- A year is read back: the sign says whether all digits are taken. -/
theorem year?_yearText (year : Int) {rest : Text} (hrest : ∀ c ∈ rest.head?, c.isDigit = false) :
    year? (Instant.yearText year ++ rest) = some (year, rest) := by
  have hwrites := Text.writes_number 4 year.natAbs
  rw [Instant.yearText, List.append_assoc]
  by_cases hneg : year < 0
  · have htrim : Text.trimStart ('-' :: (Text.number 4 year.natAbs ++ rest)) =
        '-' :: (Text.number 4 year.natAbs ++ rest) :=
      List.dropWhile_cons_of_neg (by decide)
    rw [if_pos hneg, List.singleton_append, year?, htrim]
    simp only [digitsAfterSign?_append hwrites hrest, Option.map_some]
    rw [← Int.eq_neg_natAbs_of_nonpos (by omega)]
  · by_cases hlong : 9999 < year
    · have htrim : Text.trimStart ('+' :: (Text.number 4 year.natAbs ++ rest)) =
          '+' :: (Text.number 4 year.natAbs ++ rest) :=
        List.dropWhile_cons_of_neg (by decide)
      rw [if_neg hneg, if_pos hlong, List.singleton_append, year?, htrim]
      simp only [digitsAfterSign?_append hwrites hrest, Option.map_some]
      rw [Int.natAbs_of_nonneg (by omega)]
    · have hlength : (Text.number 4 year.natAbs).length ≤ 4 :=
        Text.length_number_le (by decide) (le_refl 4) (by omega)
      have hread := number?_append hwrites hlength hrest
      rw [if_neg hneg, if_neg hlong, List.nil_append, year?, hwrites.trimStart_append]
      obtain ⟨first, others, hfirst, hdigit⟩ := hwrites.exists_cons
      rw [hfirst, List.cons_append] at hread ⊢
      split
      · rename_i heq
        rw [List.head_eq_of_cons_eq heq] at hdigit
        cases hdigit
      · rename_i heq
        rw [List.head_eq_of_cons_eq heq] at hdigit
        cases hdigit
      · rw [hread, Option.map_some]
        dsimp only
        rw [Int.natAbs_of_nonneg (by omega)]

/-- The fraction of a second is read back, whether it has three, six or nine digits. -/
theorem nanosecond?_fractionText {nanosecond : Nat} (h : nanosecond < 10 ^ 9) :
    nanosecond? (Instant.fractionText nanosecond) = some (nanosecond, []) := by
  have hpoint : ∀ {width units : Nat}, 0 < width → width ≤ 9 →
      nanosecond % 10 ^ (9 - width) = 0 → units = nanosecond / 10 ^ (9 - width) →
        nanosecond? ('.' :: Text.number width units) = some (nanosecond, []) := by
    intro width units hpos hwidth hmod hunits
    have hlength : (Text.number width units).length = width := by
      refine Text.length_number hpos ?_
      rw [hunits, Nat.div_lt_iff_lt_mul (Nat.pow_pos (by decide)), ← Nat.pow_add]
      rwa [Nat.add_sub_cancel' hwidth]
    rw [nanosecond?_point (Text.writes_number width units) (by omega), hlength, hunits,
      Nat.div_mul_cancel (Nat.dvd_of_mod_eq_zero hmod)]
  rw [Instant.fractionText]
  split
  · rename_i hzero
    rw [hzero, nanosecond?]
    simp
  · split
    · rename_i hmilli
      exact hpoint (by decide) (by decide) hmilli rfl
    · split
      · rename_i hmicro
        exact hpoint (by decide) (by decide) hmicro rfl
      · exact hpoint (by decide) (by decide) (Nat.mod_one _) (Nat.div_one _).symm

/-- A mark and the two digits after it are read as one part. -/
theorem bind_part {mark : Char} (visible : isBlank mark = false) {n : Nat} (hn : n < 100)
    {rest : Text} (hrest : ∀ c ∈ rest.head?, c.isDigit = false) {β : Type}
    (next : Nat × Text → Option β) :
    ((afterMark? mark (mark :: (Text.number 2 n ++ rest))).bind fun text =>
      (number? 2 text).bind next) = next (n, rest) := by
  have hlength : (Text.number 2 n).length ≤ 2 :=
    Nat.le_of_eq (Text.length_number (by decide) hn)
  rw [afterMark?_mark visible, Option.bind_some,
    number?_append (Text.writes_number 2 n) hlength hrest, Option.bind_some]

/-- The parts of an instant are read as this instant. -/
theorem reading?_parts (i : Instant) :
    reading? i.date.year i.date.month i.date.day i.hour i.minute i.second i.nanosecond =
      some (.instant i) := by
  obtain ⟨-, -, hsecond⟩ := i.parts_lt
  rw [reading?, Date.of?_self, Option.bind_eq_bind, Option.bind_some, if_neg (by omega),
    Instant.at?_parts, Option.map_some]

end Iso

open Iso

/-- **An instant is read back from its interchange text**, to the nanosecond and in every year of
the calendar. -/
theorem ClockReading.ofIso?_isoText (i : Instant) : ofIso? i.isoText = some (.instant i) := by
  obtain ⟨hmonth, hday⟩ := i.date.month_day_lt
  obtain ⟨hhour, hminute, hsecond⟩ := i.parts_lt
  have hnanosecond : i.nanosecond < 10 ^ 9 := Nat.mod_lt _ (by decide)
  have hmark : ∀ {mark : Char}, mark.isDigit = false → ∀ (rest : Text),
      ∀ c ∈ (mark :: rest).head?, c.isDigit = false := by
    rintro mark hmark rest c ⟨⟩
    exact hmark
  have hfraction : ∀ c ∈ (Instant.fractionText i.nanosecond).head?, c.isDigit = false := by
    unfold Instant.fractionText
    split_ifs <;> simp
  have htext : i.isoText = Instant.yearText i.date.year ++ '-' :: (Text.number 2 i.date.month ++
      '-' :: (Text.number 2 i.date.day ++ 'T' :: (Text.number 2 i.hour ++
        ':' :: (Text.number 2 i.minute ++ ':' :: (Text.number 2 i.second ++
          Instant.fractionText i.nanosecond))))) := by
    simp [Instant.isoText, Instant.dateText, Instant.timeText]
  rw [htext, ofIso?, year?_yearText _ (hmark (by decide) _)]
  simp only [Option.bind_eq_bind, Option.bind_some]
  rw [bind_part (by decide) hmonth (hmark (by decide) _),
    bind_part (by decide) hday (hmark (by decide) _),
    bind_part (by decide) (by omega) (hmark (by decide) _),
    bind_part (by decide) (by omega) (hmark (by decide) _),
    bind_part (by decide) (by omega) hfraction, nanosecond?_fractionText hnanosecond,
    Option.bind_some]
  exact reading?_parts i

end Spreadsheet
