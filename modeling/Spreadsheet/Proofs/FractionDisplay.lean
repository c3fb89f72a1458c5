/-
# Numbers under a fraction pattern

A number below 2⁵³ under a fraction pattern is shown as a text that can be read again: a sign, a
whole part and a fraction that are as near to the number as the denominators of the pattern allow.
Only a pattern without a place for the whole part can fail, when the numerator for both parts takes
more than 64 bits, and then the number is shown in the general format. All other whole numbers on
the way fit into 64 bits.

* `FractionPattern.Shows` — what the text says about the number.
* `FractionPattern.Computes` — the whole numbers on the way.
* `Fraction.Visits.walk_eq` — the neighbours on the way are those of the walk.
* `formatFraction_shows` — a number under a fraction pattern, and what the pattern asks for.
-/

import Spreadsheet.Proofs.FractionPatterns
import Spreadsheet.Proofs.FractionText
import Spreadsheet.Proofs.MixedNumbers
import Spreadsheet.Proofs.SectionSigns

namespace Spreadsheet

-- A power of a natural number is core's, whatever other instances are in scope.
attribute [local instance (high)] instPowNat

/-! ### What is shown -/

/-- What is absent from the text of a mixed number is zero. -/
theorem WrittenFraction.magnitude_ofMixed (negative : Bool) (mixed : MixedNumber) :
    (ofMixed negative mixed).magnitude = mixed.value := by
  unfold magnitude ofMixed MixedNumber.value
  by_cases hnum : mixed.num = 0
  · simp [hnum]
  · by_cases hwhole : mixed.whole = 0 <;> simp [hnum, hwhole]

/-- The fraction that is written is that of the mixed number, and not zero. -/
theorem WrittenFraction.fraction_ofMixed {negative : Bool} {mixed : MixedNumber} {num den : Nat}
    (h : (ofMixed negative mixed).fraction = some (num, den)) :
    mixed.num ≠ 0 ∧ num = mixed.num ∧ den = mixed.den := by
  unfold ofMixed at h
  dsimp only at h
  split at h
  · cases h
  · rename_i hne
    cases h
    exact ⟨hne, rfl, rfl⟩

/-- A mixed number is zero when both parts are. -/
theorem MixedNumber.value_eq_zero_iff {mixed : MixedNumber} (hden : 0 < mixed.den) :
    mixed.value = 0 ↔ mixed.whole = 0 ∧ mixed.num = 0 := by
  have hdenRat : (mixed.den : Rat) ≠ 0 := by exact_mod_cast Nat.ne_of_gt hden
  rw [value, add_eq_zero_iff_of_nonneg (by positivity) (by positivity), Nat.cast_eq_zero,
    div_eq_zero_iff, or_iff_left hdenRat, Nat.cast_eq_zero]

namespace FractionPattern

/-- What the text of a number says: the magnitude is near enough to that of the number; a part that
is zero is absent, unless both are; the fraction has the fixed denominator, or is in lowest terms
with one that there is room for; with a place for the whole part it is below one; and only numbers
below zero have a sign, unless they are shown as zero. -/
structure Shows (pattern : FractionPattern) (x : Rat) (written : WrittenFraction) : Prop where
  near : |written.magnitude - (|x|)| ≤ 1 / (2 * pattern.maxDenominator) + 1 / 2 ^ 50
  whole : written.whole = some 0 → written.fraction = none
  fraction : ∀ num den, written.fraction = some (num, den) → num ≠ 0 ∧ 0 < den
  fixed : ∀ num den, written.fraction = some (num, den) → ∀ fixed ∈ pattern.fixed, den = fixed
  lowest : ∀ num den, written.fraction = some (num, den) → pattern.fixed = none →
    den ≤ pattern.maxDenominator ∧ num.Coprime den
  proper : ∀ num den, written.fraction = some (num, den) → pattern.hasWhole = true → num < den
  negative : written.negative = true ↔ x < 0 ∧ written.magnitude ≠ 0

/-- A mixed number that is near enough is shown as it should be. -/
theorem shows_ofMixed {pattern : FractionPattern} {x : Binary64} (hx : x.isFinite = true)
    {mixed : MixedNumber} (h : pattern.Approximates x.abs.toRat mixed)
    (hproper : pattern.hasWhole = true → mixed.num < mixed.den) :
    pattern.Shows x.toRat (.ofMixed x.isNegative mixed) where
  near := by
    rw [WrittenFraction.magnitude_ofMixed, ← Binary64.abs_toRat_eq]
    exact h.near
  whole hwhole := by
    unfold WrittenFraction.ofMixed at hwhole ⊢
    by_cases hnum : mixed.num = 0
    · simp only [hnum, if_true]
    · by_cases hzero : mixed.whole = 0 <;> simp [hnum, hzero] at hwhole
  fraction num den hsome := by
    obtain ⟨hne, rfl, rfl⟩ := WrittenFraction.fraction_ofMixed hsome
    exact ⟨hne, h.den_pos⟩
  fixed num den hsome := by
    obtain ⟨-, rfl, rfl⟩ := WrittenFraction.fraction_ofMixed hsome
    exact h.fixed
  lowest num den hsome hnone := by
    obtain ⟨-, rfl, rfl⟩ := WrittenFraction.fraction_ofMixed hsome
    exact ⟨h.den_le, h.coprime hnone⟩
  proper num den hsome := by
    obtain ⟨-, rfl, rfl⟩ := WrittenFraction.fraction_ofMixed hsome
    exact hproper
  negative := by
    rw [WrittenFraction.magnitude_ofMixed, Ne, MixedNumber.value_eq_zero_iff h.den_pos,
      ← Binary64.isNegative_iff hx]
    simp [WrittenFraction.ofMixed, imp_iff_not_or]

end FractionPattern

/-! ### Whole numbers on the way -/

namespace Fraction

/-- `Visits limit side first last low high`: the walk from the first two fractions comes to the
last two. -/
inductive Visits (limit : Nat) (side : Fraction → Ordering) (first last : Fraction) :
    Fraction → Fraction → Prop
  | start : Visits limit side first last first last
  | right {low high : Fraction} : Visits limit side first last low high →
      (mediant low high).den ≤ limit → side (mediant low high) = .lt →
        Visits limit side first last (mediant low high) high
  | left {low high : Fraction} : Visits limit side first last low high →
      (mediant low high).den ≤ limit → side (mediant low high) = .gt →
        Visits limit side first last low (mediant low high)

section Visits

variable {limit : Nat} {side : Fraction → Ordering} {first last low high : Fraction}

/-- From every two neighbours that it visits the walk goes on in the same way. -/
theorem Visits.walk_eq (h : Visits limit side first last low high) :
    walk limit side first last = walk limit side low high := by
  induction h with
  | start => rfl
  | right _ hden hside ih => rw [ih, walk, dif_neg (not_lt.mpr hden), hside]
  | left _ hden hside ih => rw [ih, walk, dif_neg (not_lt.mpr hden), hside]

/-- No walk from 0 and 1 leaves the fractions from 0 to 1 with denominators up to the limit. -/
theorem Visits.bounds (hlimit : 1 ≤ limit) (h : Visits limit side zero one low high) :
    (low.num ≤ low.den ∧ low.den ≤ limit) ∧ high.num ≤ high.den ∧ high.den ≤ limit := by
  have hmediant : ∀ {low high : Fraction}, low.num ≤ low.den → high.num ≤ high.den →
      (mediant low high).num ≤ (mediant low high).den := fun hlow hhigh =>
    Nat.add_le_add hlow hhigh
  induction h with
  | start => exact ⟨⟨Nat.zero_le 1, hlimit⟩, le_refl 1, hlimit⟩
  | right _ hden _ ih => exact ⟨⟨hmediant ih.1.1 ih.2.1, hden⟩, ih.2⟩
  | left _ hden _ ih => exact ⟨ih.1, hmediant ih.1.1 ih.2.1, hden⟩

/-- So the mediants have at most twice the limit for a denominator. -/
theorem Visits.mediant_le (hlimit : 1 ≤ limit) (h : Visits limit side zero one low high) :
    (mediant low high).num ≤ (mediant low high).den ∧ (mediant low high).den ≤ 2 * limit := by
  obtain ⟨hlow, hhigh⟩ := h.bounds hlimit
  have hnum : (mediant low high).num = low.num + high.num := rfl
  have hden : (mediant low high).den = low.den + high.den := rfl
  omega

end Visits

end Fraction

namespace FractionPattern

/-- `pattern.Computes magnitude n`: the whole number comes up when the magnitude is shown. These
are the power of ten above the denominators and the greatest denominator; the whole part, and the
next number when the fraction is carried; both parts of all mediants on the walk and of the
fraction that is found; and the numerator for both parts, where it is kept. -/
inductive Computes (pattern : FractionPattern) (magnitude : Rat) : Nat → Prop
  | power : Computes pattern magnitude (10 ^ min pattern.denominatorWidth 4)
  | limit : Computes pattern magnitude pattern.maxDenominator
  | whole : Computes pattern magnitude (truncate magnitude).toNat
  | carry : Computes pattern magnitude ((truncate magnitude).toNat + 1)
  | mediantNum {low high : Fraction} : pattern.fixed = none →
      Fraction.Visits (max pattern.maxDenominator 1)
        (Fraction.side (magnitude - truncate magnitude)) .zero .one low high →
      Computes pattern magnitude (Fraction.mediant low high).num
  | mediantDen {low high : Fraction} : pattern.fixed = none →
      Fraction.Visits (max pattern.maxDenominator 1)
        (Fraction.side (magnitude - truncate magnitude)) .zero .one low high →
      Computes pattern magnitude (Fraction.mediant low high).den
  | num : Computes pattern magnitude (pattern.fractionOf (magnitude - truncate magnitude)).1
  | den : Computes pattern magnitude (pattern.fractionOf (magnitude - truncate magnitude)).2
  | improper {mixed : MixedNumber} : pattern.mixed? magnitude = some mixed →
      Computes pattern magnitude mixed.num

/-- The whole part of a number below 2⁵³ is below it. -/
theorem toNat_truncate_lt {x : Binary64} (hx : x.isFinite = true)
    (hsize : x.abs.toRat < wholeLimit) : (truncate x.abs.toRat).toNat < 2 ^ (53 : Nat) := by
  obtain ⟨-, part, hpart, hnonneg, -⟩ := Binary64.exists_fractionalPart hx
  have hlt : (truncate x.abs.toRat : Rat) < ((2 ^ (53 : Nat) : Nat) : Int) := by
    norm_num [wholeLimit] at hsize ⊢
    linarith
  rw [Int.cast_lt] at hlt
  omega

/-- **No whole number on the way takes more than 64 bits.** -/
theorem Computes.lt {pattern : Text} {x : Binary64} (hx : x.isFinite = true)
    (hsize : x.abs.toRat < wholeLimit) {n : Nat}
    (h : (ofText pattern).Computes x.abs.toRat n) : n < 2 ^ (64 : Nat) := by
  obtain ⟨num, den, hfraction, hfits⟩ := exists_fits pattern hx
  obtain ⟨-, hlimit⟩ := maxDenominator_bounds pattern
  have hden := hfits.den_le
  have hnum := hfits.num_le
  have hwhole := toNat_truncate_lt hx hsize
  have hmax : max (ofText pattern).maxDenominator 1 ≤ 2 ^ (53 : Nat) :=
    max_le hlimit Nat.one_le_two_pow
  unfold maxFixedDenominator at hlimit
  cases h with
  | power =>
    have hpower := Nat.pow_le_pow_right (n := 10) (by decide)
      (min_le_right (ofText pattern).denominatorWidth 4)
    omega
  | limit => omega
  | whole => omega
  | carry => omega
  | mediantNum _ hvisits =>
    have hmediant := hvisits.mediant_le (le_max_right _ _)
    omega
  | mediantDen _ hvisits =>
    have hmediant := hvisits.mediant_le (le_max_right _ _)
    omega
  | num =>
    rw [hfraction]
    omega
  | den =>
    rw [hfraction]
    omega
  | improper hmixed =>
    obtain ⟨happroximates, hproper⟩ := approximates_mixed pattern hx hmixed
    have hmixedDen := happroximates.den_le
    rw [mixed?_eq] at hmixed
    split at hmixed
    · rename_i hhas
      have hbelow := hproper hhas
      omega
    · split at hmixed
      · cases hmixed
        assumption
      · cases hmixed

end FractionPattern

/-! ### The result -/

/-- The pattern has no place for the whole part, and the numerator for both parts takes more than
64 bits. -/
def FractionPattern.Overflows (pattern : FractionPattern) (magnitude : Rat) : Prop :=
  pattern.hasWhole = false ∧ 2 ^ (64 : Nat) ≤ (pattern.carried magnitude).improper

theorem FractionPattern.mixed?_eq_none_iff {pattern : FractionPattern} {magnitude : Rat} :
    pattern.mixed? magnitude = none ↔ pattern.Overflows magnitude := by
  rw [mixed?_eq, Overflows]
  cases pattern.hasWhole <;> simp

/-- The opposite of a number that is not negative has at most a minus sign more in the general
format. -/
theorem formatGeneral_invariant_neg {x : Binary64} (h : 0 ≤ x.toRat) :
    formatGeneral .invariant x.neg = formatGeneral .invariant x ∨
      formatGeneral .invariant x.neg = '-' :: formatGeneral .invariant x := by
  rcases eq_or_lt_of_le h with hzero | hpos
  · have hflag : (Decimal.ofBinary64 x).isZero = true :=
      Decimal.isZero_ofBinary64_iff.mpr hzero.symm
    left
    simp only [formatGeneral, x.isFinite_neg, Decimal.ofBinary64_neg, hflag, if_true]
  · exact Or.inr (formatGeneral_neg .invariant hpos)

/-- Numbers from 2⁵³ on have no part below one. -/
theorem lt_wholeLimit {x : Binary64} (hsize : |x.toRat| < 2 ^ 53) : x.abs.toRat < wholeLimit := by
  rw [Binary64.abs_toRat_eq, wholeLimit]
  norm_num at hsize ⊢
  exact hsize

section Display

variable (source : Text) {x : Binary64} (hx : x.isFinite = true) (hsize : |x.toRat| < 2 ^ 53)
include hx hsize

/-- A number that has a part below one, under a fraction pattern. -/
theorem formatFraction_eq :
    formatFraction source x =
      ((FractionPattern.ofText source).mixed? x.abs.toRat).elim (formatGeneral .invariant x)
        ((FractionPattern.ofText source).text x.isNegative) := by
  simp only [formatFraction, hx, Bool.not_true, Bool.false_eq_true, if_false,
    not_le.mpr (lt_wholeLimit hsize)]
  cases (FractionPattern.ofText source).mixed? x.abs.toRat <;> rfl

/-- The opposite of a number that is not negative has at most a minus sign more. -/
theorem formatFraction_neg (h : 0 ≤ x.toRat) :
    formatFraction source x.neg = formatFraction source x ∨
      formatFraction source x.neg = '-' :: formatFraction source x := by
  have hopposite : |x.neg.toRat| < 2 ^ 53 := by rwa [Binary64.toRat_neg, abs_neg]
  have hfinite : x.neg.isFinite = true := by rwa [Binary64.isFinite_neg]
  rw [formatFraction_eq source hx hsize, formatFraction_eq source hfinite hopposite, x.abs_neg,
    Binary64.isNegative_of_nonneg hx h]
  cases (FractionPattern.ofText source).mixed? x.abs.toRat with
  | none => exact formatGeneral_invariant_neg h
  | some mixed =>
    rw [Option.elim_some, Option.elim_some, WrittenFraction.text_eq_signText _ x.neg.isNegative]
    cases (WrittenFraction.ofMixed x.neg.isNegative mixed).negative with
    | true => exact Or.inr rfl
    | false => exact Or.inl rfl

/-- **A number under a fraction pattern.** Only without a place for the whole part can a finite
number below 2⁵³ be shown in the general format, when the numerator for both parts takes more than
64 bits. Otherwise the text can be read again, it says what it should about the number, and it
starts with a minus sign when it has one. The opposite of a number that is not negative has at
most a minus sign more; and no whole number on the way takes more than 64 bits, nor is any
denominator zero. What the pattern asks for is what its text writes, and the neighbours on the way
are those from which the walk goes on. -/
theorem formatFraction_shows :
    ((FractionPattern.ofText source).Overflows (|x.toRat|) →
      formatFraction source x = formatGeneral .invariant x) ∧
    (¬(FractionPattern.ofText source).Overflows (|x.toRat|) →
      ∃ written, WrittenFraction.ofText? (formatFraction source x) = some written ∧
        (FractionPattern.ofText source).Shows x.toRat written ∧
        ((formatFraction source x).head? = some '-' ↔ written.negative = true)) ∧
    (0 ≤ x.toRat → formatFraction source x.neg = formatFraction source x ∨
      formatFraction source x.neg = '-' :: formatFraction source x) ∧
    (∀ n, (FractionPattern.ofText source).Computes (|x.toRat|) n → n < 2 ^ (64 : Nat)) ∧
    0 < (FractionPattern.ofText source).maxDenominator ∧
    (∀ pattern : FractionPattern, pattern.WrittenBy source ↔
      pattern = FractionPattern.ofText source) ∧
    (∀ low high, Fraction.Visits (max (FractionPattern.ofText source).maxDenominator 1)
        (Fraction.side (|x.toRat| - truncate (|x.toRat|))) .zero .one low high →
      Fraction.walk (max (FractionPattern.ofText source).maxDenominator 1)
          (Fraction.side (|x.toRat| - truncate (|x.toRat|))) .zero .one =
        Fraction.walk (max (FractionPattern.ofText source).maxDenominator 1)
          (Fraction.side (|x.toRat| - truncate (|x.toRat|))) low high) := by
  refine ⟨fun hoverflow => ?_, fun hfits => ?_, formatFraction_neg source hx hsize, fun n hn => ?_,
    (FractionPattern.maxDenominator_bounds source).1, fun _ => FractionPattern.writtenBy_iff,
    fun _ _ hvisits => hvisits.walk_eq⟩
  · rw [← Binary64.abs_toRat_eq, ← FractionPattern.mixed?_eq_none_iff] at hoverflow
    rw [formatFraction_eq source hx hsize, hoverflow, Option.elim_none]
  · rw [← Binary64.abs_toRat_eq, ← FractionPattern.mixed?_eq_none_iff] at hfits
    obtain ⟨mixed, hmixed⟩ := Option.ne_none_iff_exists'.mp hfits
    obtain ⟨happroximates, hproper⟩ := FractionPattern.approximates_mixed source hx hmixed
    rw [formatFraction_eq source hx hsize, hmixed, Option.elim_some]
    exact ⟨_, WrittenFraction.ofText?_text _ _ _,
      FractionPattern.shows_ofMixed hx happroximates hproper, WrittenFraction.head?_text _ _ _⟩
  · rw [← Binary64.abs_toRat_eq] at hn
    exact hn.lt hx (lt_wholeLimit hsize)

end Display

/-- Minus two and a quarter in eighths: the text can be read, and is as near as it should be. -/
theorem formatFraction_shows_eighths :
    let x := Binary64.ofRat (-9 / 4)
    let pattern := FractionPattern.ofText "# ?/8".toList
    x.isFinite = true ∧ |x.toRat| < 2 ^ 53 ∧ ¬pattern.Overflows (|x.toRat|) ∧
      formatFraction "# ?/8".toList x = "-2 2/8".toList ∧
      ∃ written, WrittenFraction.ofText? (formatFraction "# ?/8".toList x) = some written ∧
        pattern.Shows x.toRat written := by
  intro x pattern
  have hx : x.isFinite = true := by decide +kernel
  have hsize : |x.toRat| < 2 ^ 53 := by decide +kernel
  have hfits : ¬pattern.Overflows (|x.toRat|) := fun hoverflow => by
    have hwhole : pattern.hasWhole = true := by decide
    rw [hoverflow.1] at hwhole
    cases hwhole
  obtain ⟨written, hread, hshows, -⟩ := (formatFraction_shows "# ?/8".toList hx hsize).2.1 hfits
  exact ⟨hx, hsize, hfits, by decide +kernel, written, hread, hshows⟩

end Spreadsheet
