/-
# Signs and the section for zero

A number and its opposite have the same magnitude, and so the same digits under a section. What
is left to a pattern is the sign: that of the locale stands in front of a negative number that
has no section of its own, unless the number is rounded to zero. Where there is a section for
zero, all that is rounded to zero is shown as zero is.

* `NumberPattern.isZero_shown_iff` — which numbers a section rounds to zero.
* `formatGeneral_neg` — the sign in the general format.
* `formatNumber_sign` — the sign under a pattern, and the section for zero.
-/

import Spreadsheet.Proofs.DisplayReentry
import Spreadsheet.Proofs.ScientificLayout

namespace Spreadsheet

-- A power of a natural number is core's, whatever other instances are in scope.
attribute [local instance (high)] instPowNat

/-! ### Opposite numbers -/

namespace Binary64

variable {x : Binary64}

/-- The opposite of a positive number is negative. -/
theorem isNegative_neg (h : 0 < x.toRat) : x.neg.isNegative = true := by
  have hfinite := isFinite_of_toRat_ne_zero (ne_of_gt h)
  rw [isNegative_iff (by rwa [isFinite_neg]), toRat_neg]
  linarith

theorem isNegative_of_nonneg (hx : x.isFinite = true) (h : 0 ≤ x.toRat) : x.isNegative = false := by
  rw [Bool.eq_false_iff, Ne, isNegative_iff hx]
  exact not_lt.mpr h

theorem isZero_iff (hx : x.isFinite = true) : x.isZero = true ↔ x.toRat = 0 := by
  cases x with
  | finite negative units ok =>
    have hunits : (0 : Rat) < unitsInOne := by exact_mod_cast unitsInOne_pos
    rw [isZero, beq_iff_eq, ← abs_eq_zero, abs_toRat_finite, div_eq_zero_iff]
    simp [ne_of_gt hunits]
  | infinite _ => exact absurd hx Bool.false_ne_true
  | nan => exact absurd hx Bool.false_ne_true

end Binary64

/-- Opposite numbers have the same decimal. -/
theorem Decimal.ofBinary64_neg (x : Binary64) : ofBinary64 x.neg = ofBinary64 x := by
  refine ofBinary64_eq (normalised_ofBinary64 x) ?_
  rw [x.abs_neg]
  exact nearestDecimal_ofBinary64 x

/-- **In the general format the opposite of a positive number has the sign of the locale in
front.** -/
theorem formatGeneral_neg (locale : Locale) {x : Binary64} (h : 0 < x.toRat) :
    formatGeneral locale x.neg = locale.negativeSign ++ formatGeneral locale x := by
  have hfinite := Binary64.isFinite_of_toRat_ne_zero (ne_of_gt h)
  have hsome : (Decimal.ofBinary64 x).isZero = false := by
    rw [Bool.eq_false_iff, Ne, Decimal.isZero_ofBinary64_iff]
    exact ne_of_gt h
  rw [formatGeneral, formatGeneral, x.isFinite_neg, if_pos hfinite, if_pos hfinite,
    Decimal.ofBinary64_neg]
  dsimp only
  rw [hsome, Binary64.isNegative_neg h, Binary64.isNegative_of_nonneg hfinite (le_of_lt h)]
  rfl

/-! ### What a section rounds to zero -/

namespace NumberPattern

open Items

variable {pattern : NumberPattern} {x : Binary64}

/-- The section rounds the number to zero: the decimal of fifteen digits that is nearest to it,
multiplied as the section asks, is less than half of the last place after the point. A section
with an exponent rounds nothing but zero to zero. -/
def RoundsToZero (pattern : NumberPattern) (x : Binary64) : Prop :=
  ∃ d, NearestDecimal 15 x.abs.toRat d ∧
    if pattern.isScientific then d = 0
    else d * 10 ^ (scale pattern.items + countPlaces (afterPoint pattern.items)) < 1 / 2

theorem roundsToZero_iff : pattern.RoundsToZero x ↔
    if pattern.isScientific then (Decimal.ofBinary64 x).toRat = 0
    else (Decimal.ofBinary64 x).toRat *
      10 ^ (scale pattern.items + countPlaces (afterPoint pattern.items)) < 1 / 2 := by
  have hnearest := Decimal.nearestDecimal_ofBinary64 x
  constructor
  · rintro ⟨d, hd, hzero⟩
    rwa [hd.unique hnearest] at hzero
  · exact fun hzero => ⟨_, hnearest, hzero⟩

theorem isExponent_eq_false (h : pattern.isScientific = false) :
    ∀ item ∈ pattern.items, item.isExponent = false := by
  intro item hitem
  rw [isScientific, List.any_eq_false] at h
  exact Bool.eq_false_iff.mpr (h item hitem)

/-- Without an exponent the decimal is rounded to zero when it is less than half of the last
place. -/
theorem isZero_rounded_plain (h : pattern.isScientific = false) :
    (pattern.rounded x).1.isZero = true ↔ (Decimal.ofBinary64 x).toRat *
      10 ^ (scale pattern.items + countPlaces (afterPoint pattern.items)) < 1 / 2 := by
  have hitems := isExponent_eq_false h
  have hnormal := Decimal.normalised_shift pattern.power (Decimal.normalised_ofBinary64 x)
  have hscaled : ((Decimal.ofBinary64 x).shift pattern.power).toRat *
      10 ^ (pattern.maxFraction : Int) = (Decimal.ofBinary64 x).toRat *
        10 ^ (scale pattern.items + countPlaces (afterPoint pattern.items)) := by
    rw [Decimal.toRat_shift, mul_assoc, ← zpow_add₀ (by norm_num), power_eq hitems, maxFraction_eq,
      fractionItems_eq hitems]
  rw [rounded_eq h, Decimal.isZero_round_iff _ hnormal, hscaled]

/-- With an exponent no decimal but zero is rounded to zero. -/
theorem isZero_rounded_scientific (h : pattern.isScientific = true) :
    (pattern.rounded x).1.isZero = true ↔ (Decimal.ofBinary64 x).toRat = 0 := by
  have hnormal := Decimal.normalised_shift pattern.power (Decimal.normalised_ofBinary64 x)
  have hcount : 0 < max pattern.wholePlaces.length 1 + pattern.maxFraction := by omega
  have hflag : (pattern.rounded x).1.isZero =
      (((Decimal.ofBinary64 x).shift pattern.power).round
        ((max pattern.wholePlaces.length 1 + pattern.maxFraction : Nat) -
          ((Decimal.ofBinary64 x).shift pattern.power).scale)).isZero := by
    rw [rounded_scientific h x rfl rfl rfl]
    split <;> rfl
  rw [hflag, Decimal.toRat_eq_zero_iff (Decimal.normalised_ofBinary64 x),
    ← Decimal.isZero_shift pattern.power (Decimal.ofBinary64 x)]
  constructor
  · intro hzero
    by_contra hsome
    rw [Decimal.isZero_round_significant hnormal (Bool.eq_false_iff.mpr hsome) hcount] at hzero
    cases hzero
  · intro hzero
    by_contra hsome
    rw [Decimal.isZero_of_round (Bool.eq_false_iff.mpr hsome)] at hzero
    cases hzero

/-- **A number is shown as zero when the section rounds it to zero.** -/
theorem isZero_shown_iff (pattern : NumberPattern) (x : Binary64) :
    (pattern.shown x).isZero = true ↔ pattern.RoundsToZero x := by
  have hflag : (pattern.shown x).isZero = (pattern.rounded x).1.isZero := rfl
  rw [hflag, roundsToZero_iff]
  cases h : pattern.isScientific with
  | false => exact isZero_rounded_plain h
  | true => exact isZero_rounded_scientific h

instance (pattern : NumberPattern) (x : Binary64) : Decidable (pattern.RoundsToZero x) :=
  decidable_of_iff _ (isZero_shown_iff pattern x)

/-! ### One section for both signs -/

/-- A section shows the same digits of opposite numbers. -/
theorem shown_neg (pattern : NumberPattern) (x : Binary64) :
    pattern.shown x.neg = pattern.shown x :=
  shown_congr (by rw [rounded, rounded, Decimal.ofBinary64_neg])

theorem text_neg (pattern : NumberPattern) (locale : Locale) (x : Binary64) :
    pattern.text locale x.neg = pattern.text locale x :=
  text_congr (shown_neg pattern x) locale

theorem roundsToZero_neg : pattern.RoundsToZero x.neg ↔ pattern.RoundsToZero x := by
  rw [RoundsToZero, RoundsToZero, x.abs_neg]

/-- Zero is rounded to zero. -/
theorem roundsToZero_of_toRat_eq_zero (h : x.toRat = 0) : pattern.RoundsToZero x := by
  rw [roundsToZero_iff, Decimal.ofBinary64_of_toRat_eq_zero h, Decimal.toRat_of_isZero rfl]
  split <;> norm_num

/-- Both zeros have the same text. -/
theorem text_of_toRat_eq_zero (pattern : NumberPattern) (locale : Locale) (h : x.toRat = 0) :
    pattern.text locale x = pattern.text locale (.zero false) := by
  have hzero := Decimal.ofBinary64_of_toRat_eq_zero (Binary64.toRat_zero false)
  refine text_congr (shown_congr ?_) locale
  rw [rounded, rounded, hzero, Decimal.ofBinary64_of_toRat_eq_zero h]

end NumberPattern

/-! ### Choosing a section -/

section Sections

variable {pattern part : Text} {x : Binary64}

/-- The name of the general format is one section. -/
theorem sections_of_general (h : pattern.trim.equalsIgnoringAsciiCase generalName = true) :
    sections pattern = [pattern] := by
  have hletters : ∀ c ∈ generalName.map Char.toLower, c ∉ [';', '\\', '"', '\''] :=
    List.all_iff_forall_prop.mp (by decide)
  have hmarks : ∀ c ∈ [';', '\\', '"', '\''], isBlank c = false ∧ c.toLower = c :=
    List.all_iff_forall_prop.mp (by decide)
  rw [Text.equalsIgnoringAsciiCase, beq_iff_eq] at h
  have hplain : ∀ c ∈ pattern, c ∉ [';', '\\', '"', '\''] := by
    intro c hc hmark
    obtain ⟨hvisible, hlower⟩ := hmarks c hmark
    rcases Text.isBlank_or_mem_trim hc with hblank | htrim
    · rw [hvisible] at hblank
      cases hblank
    · have hmem := List.mem_map_of_mem (f := Char.toLower) htrim
      rw [h, hlower] at hmem
      exact hletters c hmem hmark
  refine sections_of_plain fun c hc => ?_
  have hmark := hplain c hc
  simp only [List.mem_cons, List.not_mem_nil, or_false, not_or] at hmark
  exact ⟨fun heq => hmark.1 heq.2, next_plain hmark.2.1 (not_or.mpr hmark.2.2)⟩

theorem filledSection?_eq_none_iff {index : Nat} :
    filledSection? pattern index = none ↔ ∀ part ∈ (sections pattern)[index]?, part = [] := by
  rw [filledSection?, Option.filter_eq_none_iff]
  simp

theorem filledSection?_of_mem {index : Nat} (h : part ∈ (sections pattern)[index]?)
    (hne : part ≠ []) : filledSection? pattern index = some part := by
  rw [Option.mem_def] at h
  rw [filledSection?, h, Option.filter_some, if_pos]
  simpa using hne

/-- Without a section for negative numbers, a number other than zero is shown in the first
section. -/
theorem sectionFor_first (hsecond : filledSection? pattern 1 = none) (hx : x.isFinite = true)
    (hne : x.toRat ≠ 0) : sectionFor pattern x = ((sections pattern).headD [], true) := by
  have hzero : x.isZero = false := by
    rw [Bool.eq_false_iff, Ne, Binary64.isZero_iff hx]
    exact hne
  rw [sectionFor, hsecond, hzero, if_neg Bool.false_ne_true, ite_self]

/-- Zero is shown in the section for it. -/
theorem sectionFor_zero (hthird : filledSection? pattern 2 = some part) (hx : x.isFinite = true)
    (hzero : x.toRat = 0) : sectionFor pattern x = (part, false) := by
  have hflag := (Binary64.isZero_iff hx).mpr hzero
  rw [sectionFor, Binary64.isNegative_of_nonneg hx (le_of_eq hzero.symm), hflag, hthird]
  rfl

/-- A number other than zero in a section that gets a sign. -/
theorem formatSection_signed (hsection : sectionFor pattern x = (part, true))
    (hx : x.isFinite = true) (hne : x.toRat ≠ 0) (locale : Locale) :
    formatSection locale pattern x =
      if (NumberPattern.ofText part).RoundsToZero x then
        (filledSection? pattern 2).elim ((NumberPattern.ofText part).text locale x)
          fun zeroPart => (NumberPattern.ofText zeroPart).text locale (.zero false)
      else (if x.isNegative then locale.negativeSign else []) ++
        (NumberPattern.ofText part).text locale x := by
  have hisZero : x.isZero = false := by
    rw [Bool.eq_false_iff, Ne, Binary64.isZero_iff hx]
    exact hne
  rw [formatSection, hsection]
  simp only [← NumberPattern.isZero_shown_iff, hisZero, Bool.not_false, Bool.and_true,
    Bool.true_and]
  cases ((NumberPattern.ofText part).shown x).isZero with
  | false => simp
  | true => cases filledSection? pattern 2 <;> simp

/-- Without a section for negative numbers, the opposite of a positive number has the sign of the
locale in front, unless it is rounded to zero. -/
theorem formatSection_neg (hsecond : filledSection? pattern 1 = none) (hpos : 0 < x.toRat)
    (locale : Locale) :
    formatSection locale pattern x.neg =
      (if (NumberPattern.ofText ((sections pattern).headD [])).RoundsToZero x then []
        else locale.negativeSign) ++ formatSection locale pattern x := by
  have hx := Binary64.isFinite_of_toRat_ne_zero (ne_of_gt hpos)
  have hopposite : x.neg.toRat ≠ 0 := by
    rw [Binary64.toRat_neg]
    exact neg_ne_zero.mpr (ne_of_gt hpos)
  have hnegFinite := Binary64.isFinite_of_toRat_ne_zero hopposite
  rw [formatSection_signed (sectionFor_first hsecond hnegFinite hopposite) hnegFinite hopposite,
    formatSection_signed (sectionFor_first hsecond hx (ne_of_gt hpos)) hx (ne_of_gt hpos),
    NumberPattern.text_neg, Binary64.isNegative_neg hpos,
    Binary64.isNegative_of_nonneg hx (le_of_lt hpos)]
  simp only [NumberPattern.roundsToZero_neg]
  split
  · rw [List.nil_append]
  · rfl

/-- A number that is rounded to zero in its section is shown in the section for zero. -/
theorem formatSection_zero (hthird : filledSection? pattern 2 = some part) (hx : x.isFinite = true)
    (hround : (NumberPattern.ofText (sectionFor pattern x).1).RoundsToZero x) (locale : Locale) :
    formatSection locale pattern x = (NumberPattern.ofText part).text locale (.zero false) := by
  have hflag := (NumberPattern.isZero_shown_iff _ x).mpr hround
  by_cases hzero : x.toRat = 0
  · have hisZero := (Binary64.isZero_iff hx).mpr hzero
    rw [formatSection, sectionFor_zero hthird hx hzero]
    dsimp only
    rw [hisZero, Bool.not_true, Bool.and_false, if_neg Bool.false_ne_true, Bool.false_and,
      Bool.false_and, if_neg Bool.false_ne_true, List.nil_append]
    exact NumberPattern.text_of_toRat_eq_zero _ locale hzero
  · have hisZero : x.isZero = false := by
      rw [Bool.eq_false_iff, Ne, Binary64.isZero_iff hx]
      exact hzero
    rw [formatSection]
    dsimp only
    rw [hflag, hisZero, Bool.not_false, Bool.and_true, if_pos rfl, hthird]

end Sections

/-! ### The result -/

/-- A finite number under a pattern that is not the general format. -/
theorem formatNumber_eq_formatSection {pattern : Text} (hne : pattern ≠ [])
    (hgeneral : pattern.trim.equalsIgnoringAsciiCase generalName = false) {x : Binary64}
    (hx : x.isFinite = true) (locale : Locale) :
    formatNumber locale pattern x = formatSection locale pattern x := by
  have hempty : pattern.isEmpty = false := List.isEmpty_eq_false_iff.mpr hne
  rw [formatNumber, hx, hgeneral, hempty]
  rfl

/-- **The sign under a pattern, and the section for zero.** Without a section for negative
numbers, the opposite of a positive number is shown as the number is, with the sign of the locale
in front unless it is rounded to zero; the general format rounds no such number to zero. With a
section for zero, every number that is rounded to zero in the section for it is shown as zero
is. -/
theorem formatNumber_sign (locale : Locale) {pattern : Text} (hne : pattern ≠ []) :
    ((∀ part ∈ (sections pattern)[1]?, part = []) → ∀ x : Binary64, 0 < x.toRat →
      formatNumber locale pattern x.neg =
        (if pattern.trim.equalsIgnoringAsciiCase generalName = false ∧
            (NumberPattern.ofText ((sections pattern).headD [])).RoundsToZero x
          then [] else locale.negativeSign) ++ formatNumber locale pattern x) ∧
    ((∃ part ∈ (sections pattern)[2]?, part ≠ []) → ∀ x : Binary64, x.isFinite = true →
      (NumberPattern.ofText (sectionFor pattern x).1).RoundsToZero x →
        formatNumber locale pattern x = formatNumber locale pattern (.zero false)) := by
  constructor
  · intro hsecond x hpos
    have hx := Binary64.isFinite_of_toRat_ne_zero (ne_of_gt hpos)
    have hopposite : x.neg.isFinite = true := by rw [Binary64.isFinite_neg, hx]
    cases hgeneral : pattern.trim.equalsIgnoringAsciiCase generalName with
    | true =>
      rw [formatNumber, formatNumber, hopposite, hx, hgeneral, if_neg (by simp)]
      exact formatGeneral_neg locale hpos
    | false =>
      rw [formatNumber_eq_formatSection hne hgeneral hopposite,
        formatNumber_eq_formatSection hne hgeneral hx,
        formatSection_neg (filledSection?_eq_none_iff.mpr hsecond) hpos]
      simp only [true_and]
  · rintro ⟨part, hpart, hfilled⟩ x hx hround
    have hthird := filledSection?_of_mem hpart hfilled
    -- the general format is a pattern of one section
    have hgeneral : pattern.trim.equalsIgnoringAsciiCase generalName = false := by
      by_contra hname
      rw [sections_of_general (by simpa using hname)] at hpart
      cases hpart
    rw [formatNumber_eq_formatSection hne hgeneral hx,
      formatNumber_eq_formatSection hne hgeneral rfl, formatSection_zero hthird hx hround,
      formatSection_zero hthird rfl
        (NumberPattern.roundsToZero_of_toRat_eq_zero (Binary64.toRat_zero false))]

/-- A percentage without a section for negative numbers: minus five has the minus sign of the
locale, and what is less than half of a tenth of a percent is shown as zero is. -/
theorem formatNumber_sign_percent :
    let pattern := "0.0%;;\"nil\"".toList
    let small := Binary64.ofRat (-1 / 4096)
    pattern ≠ [] ∧ (∀ part ∈ (sections pattern)[1]?, part = []) ∧
      (∃ part ∈ (sections pattern)[2]?, part ≠ []) ∧ 0 < (Binary64.ofInt 5).toRat ∧
      small.isFinite = true ∧
      (NumberPattern.ofText (sectionFor pattern small).1).RoundsToZero small ∧
      formatNumber .swedish pattern (Binary64.ofInt 5).neg =
        Locale.swedish.negativeSign ++ formatNumber .swedish pattern (.ofInt 5) ∧
      formatNumber .swedish pattern small = formatNumber .swedish pattern (.zero false) := by
  intro pattern small
  have hne : pattern ≠ [] := by decide
  have hsecond : ∀ part ∈ (sections pattern)[1]?, part = [] := by decide
  have hthird : ∃ part ∈ (sections pattern)[2]?, part ≠ [] := ⟨"\"nil\"".toList, rfl, by decide⟩
  have hpos : 0 < (Binary64.ofInt 5).toRat := by decide +kernel
  have hfinite : small.isFinite = true := by decide +kernel
  have hround : (NumberPattern.ofText (sectionFor pattern small).1).RoundsToZero small := by
    decide +kernel
  have hsome : ¬(NumberPattern.ofText ((sections pattern).headD [])).RoundsToZero (.ofInt 5) := by
    decide +kernel
  obtain ⟨hsign, hzero⟩ := formatNumber_sign .swedish hne
  refine ⟨hne, hsecond, hthird, hpos, hfinite, hround, ?_, hzero hthird small hfinite hround⟩
  rw [hsign hsecond _ hpos, if_neg fun h => hsome h.2]

end Spreadsheet
