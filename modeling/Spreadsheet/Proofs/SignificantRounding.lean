/-
# Rounding to significant digits

A number in scientific notation is rounded to as many significant digits as its pattern has
places. The last of them is counted from the first digit of the number as it is before it is
rounded: when a carry goes through all digits, the number that it leaves is a power of ten.

* `roundSignificant` — the number rounded to significant digits, a half going up.
* `Decimal.toRat_round_significant` — rounding a decimal rounds the number that it denotes.
* `Decimal.isZero_round_significant` — nothing but zero is rounded to zero.
-/

import Mathlib.Data.Int.Log
import Spreadsheet.Proofs.NormalForm
import Spreadsheet.Proofs.SignificantDigits

namespace Spreadsheet

-- A power of a natural number is core's, whatever other instances are in scope.
attribute [local instance (high)] instPowNat

/-- A magnitude rounded to `count` significant digits, a half going up. -/
def roundSignificant (count : Nat) (q : Rat) : Rat :=
  roundHalfUp (q * 10 ^ ((count : Int) - (Int.log 10 q + 1))) *
    10 ^ (Int.log 10 q + 1 - (count : Int))

/-- The place of the first digit is the one that lies between two powers of ten. -/
theorem log_add_one_eq {q : Rat} {place : Int} (hlow : 10 ^ (place - 1) ≤ q)
    (hhigh : q < 10 ^ place) : Int.log 10 q + 1 = place := by
  have hpos : 0 < q := lt_of_lt_of_le (by positivity) hlow
  have hself : (10 : Rat) ^ Int.log 10 q ≤ q := by
    exact_mod_cast Int.zpow_log_le_self (b := 10) (by decide) hpos
  have hsucc : q < (10 : Rat) ^ (Int.log 10 q + 1) := by
    exact_mod_cast Int.lt_zpow_succ_log_self (b := 10) (by decide) q
  apply le_antisymm
  · refine place_unique ?_ hhigh
    rwa [add_sub_cancel_right]
  · exact place_unique hlow hsucc

theorem roundSignificant_eq {q : Rat} {place : Int} (hlow : 10 ^ (place - 1) ≤ q)
    (hhigh : q < 10 ^ place) (count : Nat) :
    roundSignificant count q =
      roundHalfUp (q * 10 ^ ((count : Int) - place)) * 10 ^ (place - (count : Int)) := by
  rw [roundSignificant, log_add_one_eq hlow hhigh]

/-- A number is rounded to so many digits, or to the power of ten above them. -/
theorem roundHalfUp_bounds {count : Nat} (hcount : 0 < count) {q : Rat} {place : Int}
    (hlow : 10 ^ (place - 1) ≤ q) (hhigh : q < 10 ^ place) :
    10 ^ (count - 1) ≤ roundHalfUp (q * 10 ^ ((count : Int) - place)) ∧
      roundHalfUp (q * 10 ^ ((count : Int) - place)) ≤ 10 ^ count := by
  have hstep : (0 : Rat) < 10 ^ ((count : Int) - place) := by positivity
  have hleast : (10 : Rat) ^ (place - 1) * 10 ^ ((count : Int) - place) =
      (10 ^ (count - 1) : Nat) := zpow_mul_zpow (by omega)
  have hgreatest : (10 : Rat) ^ place * 10 ^ ((count : Int) - place) = (10 ^ count : Nat) :=
    zpow_mul_zpow (by omega)
  have hnonneg : 0 ≤ q * 10 ^ ((count : Int) - place) :=
    mul_nonneg (le_trans (by positivity) hlow) (le_of_lt hstep)
  constructor
  · apply le_roundHalfUp
    rw [← hleast]
    exact mul_le_mul_of_nonneg_right hlow (le_of_lt hstep)
  · apply roundHalfUp_le hnonneg
    rw [← hgreatest]
    exact mul_le_mul_of_nonneg_right (le_of_lt hhigh) (le_of_lt hstep)

namespace Decimal

variable {d : Decimal}

/-- The digits stay in normal form at another scale. -/
theorem Normalised.withScale (h : Normalised d) (hne : d.isZero = false) (scale : Int) :
    Normalised { d with scale } where
  digit_lt := h.digit_lt
  head_ne_zero := h.head_ne_zero
  last_ne_zero := h.last_ne_zero
  scale_of_nil hnil := by
    have hzero : d.isZero = true := isZero_iff.mpr hnil
    rw [hzero] at hne
    cases hne

/-- Zero is rounded to zero. -/
theorem isZero_of_round {places : Int} (h : (round places d).isZero = false) :
    d.isZero = false := by
  rw [Bool.eq_false_iff, Ne, isZero_iff] at h ⊢
  intro hnil
  have hlength := length_digits_round_le_length places d
  rw [hnil, List.length_nil, Nat.le_zero, List.length_eq_zero_iff] at hlength
  exact h hlength

variable (hd : Normalised d) (hne : d.isZero = false)
include hd hne

/-- **Rounding a decimal to significant digits rounds the number that it denotes.** -/
theorem toRat_round_significant (count : Nat) :
    (round (count - d.scale) d).toRat = roundSignificant count d.toRat := by
  rw [toRat_round _ hd.digit_lt, neg_sub,
    roundSignificant_eq (hd.pow_le_toRat hne) (toRat_lt hd.digit_lt)]

variable {count : Nat} (hcount : 0 < count)
include hcount

/-- **A decimal other than zero is not rounded to zero.** -/
theorem isZero_round_significant : (round (count - d.scale) d).isZero = false := by
  have hleast := (roundHalfUp_bounds hcount (hd.pow_le_toRat hne) (toRat_lt hd.digit_lt)).1
  have hpositive : roundHalfUp (d.toRat * 10 ^ ((count : Int) - d.scale)) ≠ 0 :=
    Nat.ne_of_gt (Nat.lt_of_lt_of_le (Nat.pow_pos (by decide)) hleast)
  rw [Bool.eq_false_iff, Ne, ← toRat_eq_zero_iff (normalised_round _ hd),
    toRat_round _ hd.digit_lt]
  positivity

/-- No more digits are left than it is rounded to. -/
theorem length_digits_round_significant_le :
    (round (count - d.scale) d).digits.length ≤ count :=
  (normalised_round _ hd).length_digits_le hcount (toRat_round _ hd.digit_lt)
    (roundHalfUp_bounds hcount (hd.pow_le_toRat hne) (toRat_lt hd.digit_lt)).2

end Decimal

end Spreadsheet
