/-
# Numbers as mixed numbers

A floating point number is its whole part and a part below one, which is a floating point number
again. A fraction pattern finds a fraction for this part, as near as its denominators allow, and
carries it when it is one. Without a place for the whole part both become one fraction.

* `Binary64.exists_fractionalPart` — the part below one is exact.
* `FractionPattern.fits_fractionOf` — how near the fraction is.
* `FractionPattern.approximates_mixed` — so is the mixed number, after the carry.
-/

import Mathlib.Data.Nat.GCD.Basic
import Spreadsheet.Proofs.NearestFraction
import Spreadsheet.Proofs.SerialRoundTrip
import Spreadsheet.Proofs.NearestBinary64

namespace Spreadsheet

-- A power of a natural number is core's, whatever other instances are in scope.
attribute [local instance (high)] instPowNat

/-! ### The part below one -/

/-- The last digits of a number of 53 significant bits are such a number. -/
theorem significant53_mod {n : Nat} (h : Significant53 n) (k : Nat) :
    Significant53 (n % 2 ^ k) := by
  obtain ⟨m, shift, hm, rfl⟩ : ∃ m shift, m < 2 ^ (53 : Nat) ∧ n = m * 2 ^ shift := by
    have hscaled := div_scaled_lt n 1
    rw [Nat.div_one, Nat.one_mul] at hscaled
    exact ⟨_, _, hscaled, (Nat.div_mul_cancel (Nat.dvd_of_mod_eq_zero h)).symm⟩
  rcases Nat.le_total shift k with hle | hle
  · obtain ⟨rest, rfl⟩ := Nat.exists_eq_add_of_le' hle
    rw [Nat.pow_add, Nat.mul_mod_mul_right]
    exact significant53_mul_pow (Nat.le_trans (Nat.mod_le _ _) (Nat.le_of_lt hm)) shift
  · have hdvd : 2 ^ k ∣ m * 2 ^ shift := (Nat.pow_dvd_pow 2 hle).mul_left m
    rw [Nat.mod_eq_zero_of_dvd hdvd]
    decide

theorem representable_mod {units : Nat} (h : Representable units) :
    Representable (units % unitsInOne) := by
  obtain ⟨k, hk⟩ : ∃ k, unitsInOne = 2 ^ k := by
    unfold unitsInOne
    generalize (1074 : Nat) = k
    exact ⟨k, rfl⟩
  rw [hk]
  exact ⟨significant53_mod h.1 k, Nat.lt_of_le_of_lt (Nat.mod_le _ _) h.2⟩

/-- **The part of a number below one is a floating point number.** -/
theorem Binary64.exists_fractionalPart {x : Binary64} (hx : x.isFinite = true) :
    0 ≤ truncate x.abs.toRat ∧ ∃ part : Binary64,
      part.toRat = x.abs.toRat - truncate x.abs.toRat ∧ 0 ≤ part.toRat ∧ part.toRat < 1 := by
  cases x with
  | finite negative units ok =>
    have hpos : (0 : Rat) < unitsInOne := by exact_mod_cast unitsInOne_pos
    have hsplit := quotient_eq_add_rest units unitsInOne_pos
    have hnonneg : (0 : Rat) ≤ (units % unitsInOne : Nat) / (unitsInOne : Rat) := by positivity
    have hone : ((units % unitsInOne : Nat) : Rat) / unitsInOne < 1 := by
      rw [div_lt_one hpos]
      exact_mod_cast Nat.mod_lt units unitsInOne_pos
    have hvalue : (finite negative units ok).abs.toRat = (units : Rat) / unitsInOne := by
      rw [abs_toRat_eq, abs_toRat_finite]
    have hwhole : truncate ((units : Rat) / unitsInOne) = (units / unitsInOne : Nat) := by
      refine truncate_eq_of_nonneg (Int.natCast_nonneg _) ?_ ?_
      · rw [hsplit, Int.cast_natCast]
        exact le_add_of_nonneg_right hnonneg
      · rw [hsplit, Int.cast_natCast]
        exact add_lt_add_right hone _
    have hpart : (finite false (units % unitsInOne) (representable_mod ok)).toRat =
        ((units % unitsInOne : Nat) : Rat) / unitsInOne := by
      rw [toRat_finite, if_neg Bool.false_ne_true, one_mul]
    rw [hvalue, hwhole]
    refine ⟨Int.natCast_nonneg _, finite false _ (representable_mod ok), ?_, ?_, ?_⟩
    · rw [hpart, hsplit, Int.cast_natCast, add_sub_cancel_left]
    · rwa [hpart]
    · rwa [hpart]
  | infinite _ => exact absurd hx Bool.false_ne_true
  | nan => exact absurd hx Bool.false_ne_true

/-! ### The fraction that is found -/

namespace FractionPattern

/-- How far from a number its fraction can be: half a part of the greatest denominator, and what
the rounding of floating point numbers adds. -/
def maxError (pattern : FractionPattern) : Rat :=
  1 / (2 * pattern.maxDenominator) + 1 / 2 ^ 50

/-- The fraction is from 0 to 1, has the fixed denominator or one that there is room for, in lowest
terms, and is near enough to the number. -/
structure Fits (pattern : FractionPattern) (part : Rat) (num den : Nat) : Prop where
  den_pos : 0 < den
  den_le : den ≤ pattern.maxDenominator
  num_le : num ≤ den
  fixed : ∀ fixed ∈ pattern.fixed, den = fixed
  coprime : pattern.fixed = none → num.Coprime den
  near : |(num : Rat) / den - part| ≤ pattern.maxError

theorem fixed_ofText (pattern : Text) :
    ∀ den ∈ (ofText pattern).fixed, 0 < den ∧ den ≤ maxFixedDenominator := by
  intro den hden
  obtain ⟨digits, hdigits⟩ : ∃ digits, fixedOf digits = some den := ⟨_, hden⟩
  unfold fixedOf at hdigits
  dsimp only at hdigits
  split at hdigits
  · cases hdigits
  · rename_i hne
    cases hdigits
    exact ⟨Nat.pos_of_ne_zero hne, Nat.min_le_right _ _⟩

/-- The greatest denominator of a pattern is positive and has at most 53 bits. -/
theorem maxDenominator_bounds (pattern : Text) :
    0 < (ofText pattern).maxDenominator ∧
      (ofText pattern).maxDenominator ≤ maxFixedDenominator := by
  cases h : (ofText pattern).fixed with
  | none =>
    obtain ⟨hpos, hmax⟩ := maxDenominator_range h
    exact ⟨hpos, le_trans hmax (by decide)⟩
  | some den =>
    rw [maxDenominator, h]
    exact fixed_ofText pattern den h

end FractionPattern

/-- The product of a number below one and a whole number does not leave the range up to this
number when it is rounded, and it errs by one part in `2 ^ 53` of it. -/
theorem Binary64.ofRat_mul_bounds {part : Rat} (hnonneg : 0 ≤ part) (hone : part < 1) {den : Nat}
    (hpos : 0 < den) (hden : den ≤ maxFixedDenominator) :
    0 ≤ (ofRat (part * den)).toRat ∧ (ofRat (part * den)).toRat ≤ den ∧
      |(ofRat (part * den)).toRat - part * den| ≤ den / 2 ^ 53 := by
  have hdenRat : (1 : Rat) ≤ den := by exact_mod_cast hpos
  have hproduct : 0 ≤ part * den := by positivity
  have hbelow : part * den ≤ den := mul_le_of_le_one_left (by positivity) (le_of_lt hone)
  have hsize : |part * den| ≤ 2 ^ 53 := by
    have hmax : (den : Rat) ≤ 2 ^ 53 := by exact_mod_cast hden
    rw [abs_of_nonneg hproduct]
    exact le_trans hbelow hmax
  obtain ⟨hfinite, -⟩ := distance_ofRat (by decide) hsize
  obtain ⟨hwhole, hvalue⟩ := toRat_ofInt (n := den) hden
  have hzero := le_toRat_ofRat hfinite (y := zero false) rfl (by rwa [toRat_zero])
  have htop := toRat_ofRat_le hfinite hwhole (by rwa [hvalue, Int.cast_natCast])
  rw [toRat_zero] at hzero
  rw [hvalue, Int.cast_natCast] at htop
  refine ⟨hzero, htop, ?_⟩
  refine le_trans (distance_ofRat_max hfinite) ?_
  have hleast : leastNormal ≤ den := by
    refine le_trans ?_ hdenRat
    rw [leastNormal, div_le_one (by exact_mod_cast unitsInOne_pos)]
    exact_mod_cast pow_le_unitsInOne (by decide : 52 ≤ 1074)
  rw [abs_of_nonneg hproduct]
  exact div_le_div_of_nonneg_right (max_le hbelow hleast) (by positivity)

/-- A quotient errs by as many parts of the denominator as the numerator does. -/
theorem distance_quotient {part error : Rat} {num den : Nat} (hpos : 0 < den)
    (h : |(num : Rat) - part * den| ≤ error) : |(num : Rat) / den - part| ≤ error / den := by
  have hden : (0 : Rat) < den := by exact_mod_cast hpos
  have hquotient : (num : Rat) / den - part = (num - part * den) / den := by
    rw [sub_div, mul_div_cancel_right₀ _ (ne_of_gt hden)]
  rw [hquotient, abs_div, abs_of_pos hden]
  exact div_le_div_of_nonneg_right h (le_of_lt hden)

namespace FractionPattern

/-- A fixed denominator. -/
theorem fits_fixed {pattern : Text} {den : Nat} (h : (ofText pattern).fixed = some den)
    {part : Rat} (hnonneg : 0 ≤ part) (hone : part < 1) :
    (ofText pattern).Fits part (roundHalfUp (Binary64.ofRat (part * den)).toRat) den := by
  obtain ⟨hpos, hden⟩ := fixed_ofText pattern den h
  obtain ⟨hlow, hhigh, hproduct⟩ := Binary64.ofRat_mul_bounds hnonneg hone hpos hden
  have hdenRat : (0 : Rat) < den := by exact_mod_cast hpos
  have hround := distance_roundHalfUp hlow
  have hmax : (ofText pattern).maxDenominator = den := by rw [maxDenominator, h]; rfl
  refine ⟨hpos, ge_of_eq hmax, roundHalfUp_le hlow hhigh, fun fixed hfixed => ?_,
    fun hnone => ?_, ?_⟩
  · rw [h] at hfixed
    exact Option.some.inj hfixed
  · rw [h] at hnone
    cases hnone
  · have hdistance := distance_quotient hpos
      (le_trans (abs_sub_le _ (Binary64.ofRat (part * den)).toRat _) (add_le_add hround hproduct))
    have hparts : (1 / 2 + (den : Rat) / 2 ^ 53) / den = 1 / (2 * den) + 1 / 2 ^ 53 := by
      field_simp
    rw [hparts] at hdistance
    rw [maxError, hmax]
    linarith

/-- A denominator up to the greatest one. -/
theorem fits_free {pattern : Text} (h : (ofText pattern).fixed = none) {part : Binary64}
    (hnonneg : 0 ≤ part.toRat) (hone : part.toRat < 1) :
    ∃ num den, (ofText pattern).fractionOf part.toRat = (num, den) ∧
      (ofText pattern).Fits part.toRat num den := by
  have hlimit := (maxDenominator_bounds pattern).1
  have hlimitRat : (0 : Rat) < (ofText pattern).maxDenominator := by exact_mod_cast hlimit
  have herror : 0 ≤ (ofText pattern).maxError := by
    unfold maxError
    positivity
  have hunfixed : ∀ {den : Nat}, ∀ fixed ∈ (ofText pattern).fixed, den = fixed := by
    rw [h]
    exact fun _ hfixed => by cases hfixed
  rcases eq_or_lt_of_le hnonneg with hzero | hpos
  · refine ⟨0, 1, ?_, ?_⟩
    · rw [fractionOf, h, ← hzero]
      rfl
    · refine ⟨Nat.one_pos, hlimit, Nat.zero_le 1, hunfixed, fun _ => by decide, ?_⟩
      simpa [← hzero] using herror
  · obtain ⟨f, hf, hbest⟩ := isBest_fractionOf h hpos hone
    refine ⟨f.num, f.den, hf, f.den_pos, hbest.den_le, hbest.num_le, hunfixed,
      fun _ => hbest.coprime, ?_⟩
    -- the best fraction is as near as the nearest one with the greatest denominator
    have hle := hbest.le_distance (roundHalfUp (part.toRat * (ofText pattern).maxDenominator))
      hlimit le_rfl
    have hround := distance_quotient hlimit
      (distance_roundHalfUp (mul_nonneg hnonneg (le_of_lt hlimitRat)))
    rw [div_div] at hround
    exact le_trans hle (add_le_add_left hround _)

/-- **The fraction of a pattern fits the part of a number below one.** -/
theorem fits_fractionOf (pattern : Text) {part : Binary64} (hnonneg : 0 ≤ part.toRat)
    (hone : part.toRat < 1) :
    ∃ num den, (ofText pattern).fractionOf part.toRat = (num, den) ∧
      (ofText pattern).Fits part.toRat num den := by
  cases h : (ofText pattern).fixed with
  | none => exact fits_free h hnonneg hone
  | some den =>
    refine ⟨_, den, ?_, fits_fixed h hnonneg hone⟩
    rw [fractionOf, h]

end FractionPattern

/-! ### The carry -/

/-- The value of a mixed number. -/
def MixedNumber.value (mixed : MixedNumber) : Rat :=
  mixed.whole + (mixed.num : Rat) / mixed.den

/-- The numerator of a mixed number as one fraction. -/
def MixedNumber.improper (mixed : MixedNumber) : Nat :=
  mixed.whole * mixed.den + mixed.num

namespace FractionPattern

/-- The whole part and the fraction of a magnitude; a fraction that is one goes to the whole
part. -/
def carried (pattern : FractionPattern) (magnitude : Rat) : MixedNumber :=
  let (num, den) := pattern.fractionOf (magnitude - truncate magnitude)
  if num = den then ⟨(truncate magnitude).toNat + 1, 0, den⟩
  else ⟨(truncate magnitude).toNat, num, den⟩

/-- A pattern without a place for the whole part makes one fraction of both parts, if the
numerator has at most 64 bits. -/
theorem mixed?_eq (pattern : FractionPattern) (magnitude : Rat) :
    pattern.mixed? magnitude =
      if pattern.hasWhole then some (pattern.carried magnitude)
      else if (pattern.carried magnitude).improper < 2 ^ (64 : Nat) then
        some ⟨0, (pattern.carried magnitude).improper, (pattern.carried magnitude).den⟩
      else none := by
  rcases hfraction : pattern.fractionOf (magnitude - truncate magnitude) with ⟨num, den⟩
  have hden : (pattern.carried magnitude).den = den := by
    simp only [carried, hfraction]
    split <;> rfl
  simp only [mixed?, carried, hfraction, MixedNumber.improper] at hden ⊢
  rw [hden]

/-- The mixed number has the fixed denominator or one that there is room for, in lowest terms, and
is near enough to the magnitude. -/
structure Approximates (pattern : FractionPattern) (magnitude : Rat) (mixed : MixedNumber) :
    Prop where
  den_pos : 0 < mixed.den
  den_le : mixed.den ≤ pattern.maxDenominator
  fixed : ∀ fixed ∈ pattern.fixed, mixed.den = fixed
  coprime : pattern.fixed = none → mixed.num.Coprime mixed.den
  near : |mixed.value - magnitude| ≤ pattern.maxError

section Carry

variable {pattern : FractionPattern} {magnitude : Rat}

/-- **The carry keeps the value**, and leaves a fraction below one. -/
theorem approximates_carried {num den : Nat}
    (hfraction : pattern.fractionOf (magnitude - truncate magnitude) = (num, den))
    (hwhole : 0 ≤ truncate magnitude) (h : pattern.Fits (magnitude - truncate magnitude) num den) :
    pattern.Approximates magnitude (pattern.carried magnitude) ∧
      (pattern.carried magnitude).num < (pattern.carried magnitude).den := by
  have hfloor : ((truncate magnitude).toNat : Rat) = truncate magnitude := by
    exact_mod_cast Int.toNat_of_nonneg hwhole
  have hden : (den : Rat) ≠ 0 := by exact_mod_cast Nat.ne_of_gt h.den_pos
  have hnear := h.near
  rw [sub_sub_eq_add_sub, add_comm] at hnear
  unfold carried
  rw [hfraction]
  dsimp only
  split
  · rename_i hone
    subst hone
    refine ⟨⟨h.den_pos, h.den_le, h.fixed, fun hnone => ?_, ?_⟩, h.den_pos⟩
    · rw [(Nat.coprime_self num).mp (h.coprime hnone)]
      exact Nat.coprime_one_right 0
    · rw [div_self hden] at hnear
      rw [MixedNumber.value, Nat.cast_add, Nat.cast_one, Nat.cast_zero, zero_div, add_zero, hfloor]
      exact hnear
  · rename_i hne
    refine ⟨⟨h.den_pos, h.den_le, h.fixed, h.coprime, ?_⟩, lt_of_le_of_ne h.num_le hne⟩
    rwa [MixedNumber.value, hfloor]

/-- One fraction for both parts has the same value. -/
theorem Approximates.improper {mixed : MixedNumber} (h : pattern.Approximates magnitude mixed) :
    pattern.Approximates magnitude ⟨0, mixed.improper, mixed.den⟩ where
  den_pos := h.den_pos
  den_le := h.den_le
  fixed := h.fixed
  coprime hnone := (Nat.coprime_mul_right_add_left _ _ _).mpr (h.coprime hnone)
  near := by
    have hden : (mixed.den : Rat) ≠ 0 := by exact_mod_cast Nat.ne_of_gt h.den_pos
    have hvalue : MixedNumber.value ⟨0, mixed.improper, mixed.den⟩ = mixed.value := by
      rw [MixedNumber.value, MixedNumber.value, MixedNumber.improper]
      push_cast
      rw [zero_add, add_div, mul_div_cancel_right₀ _ hden]
    rw [hvalue]
    exact h.near

end Carry

/-- A finite number has a fraction that fits its part below one. -/
theorem exists_fits (pattern : Text) {x : Binary64} (hx : x.isFinite = true) :
    ∃ num den, (ofText pattern).fractionOf (x.abs.toRat - truncate x.abs.toRat) = (num, den) ∧
      (ofText pattern).Fits (x.abs.toRat - truncate x.abs.toRat) num den := by
  obtain ⟨-, part, hpart, hnonneg, hone⟩ := Binary64.exists_fractionalPart hx
  rw [← hpart]
  exact fits_fractionOf pattern hnonneg hone

/-- **A mixed number under a pattern is near enough to the number that it shows**, and with a place
for the whole part its fraction is below one. -/
theorem approximates_mixed (pattern : Text) {x : Binary64} (hx : x.isFinite = true)
    {mixed : MixedNumber} (h : (ofText pattern).mixed? x.abs.toRat = some mixed) :
    (ofText pattern).Approximates x.abs.toRat mixed ∧
      ((ofText pattern).hasWhole = true → mixed.num < mixed.den) := by
  obtain ⟨num, den, hfraction, hfits⟩ := exists_fits pattern hx
  obtain ⟨happroximates, hproper⟩ := approximates_carried hfraction
    (Binary64.exists_fractionalPart hx).1 hfits
  rw [mixed?_eq] at h
  split at h
  · cases h
    exact ⟨happroximates, fun _ => hproper⟩
  · rename_i hwhole
    split at h
    · cases h
      exact ⟨happroximates.improper, fun htrue => absurd htrue hwhole⟩
    · cases h

end FractionPattern

end Spreadsheet
