/-
# How far a floating point number is from what it is rounded from

Rounding to a floating point number errs by one part in `2 ^ 53` of any power of two
that bounds the number, and not at all on numbers that have a place in the format.

* `distance_ofRat` — the error of rounding.
* `toRat_ofRat`, `toRat_ofInt` — what is exact.
-/

import Mathlib.Algebra.Order.Field.Power
import Spreadsheet.Numeric.Binary64
import Spreadsheet.Proofs.Quotient

namespace Spreadsheet

-- A power of a natural number is core's, whatever other instances are in scope.
attribute [local instance (high)] instPowNat

/-! ### Fifty-three significant bits -/

/-- The last place that is kept is a small part of the number, or one unit. -/
theorem pow_shift_le {num den : Nat} (hden : 0 < den) {bound : Rat} (h : (num : Rat) / den ≤ bound)
    (hbound : 2 ^ 52 ≤ bound) :
    (2 : Rat) ^ ((num / den).log2 - 52) ≤ bound / 2 ^ 52 := by
  rw [le_div_iff₀ (by positivity), ← pow_add]
  rcases Nat.lt_or_ge (num / den).log2 52 with hsmall | hlarge
  · rw [Nat.sub_eq_zero_of_le (le_of_lt hsmall), Nat.zero_add]
    exact hbound
  · have hne : num / den ≠ 0 := by
      intro hzero
      rw [hzero] at hlarge
      exact absurd hlarge (by decide)
    have hfloor : ((num / den : Nat) : Rat) ≤ (num : Rat) / den := by
      rw [le_div_iff₀ (by exact_mod_cast hden)]
      exact_mod_cast Nat.div_mul_le_self num den
    have hpow : (2 : Rat) ^ (num / den).log2 ≤ (num / den : Nat) := by
      exact_mod_cast Nat.log2_self_le hne
    rw [Nat.sub_add_cancel hlarge]
    exact le_trans hpow (le_trans hfloor h)

/-- Rounding to 53 significant bits errs by half of the last place. -/
theorem distance_nearestMagnitude {num den : Nat} (hden : 0 < den) {bound : Rat}
    (h : (num : Rat) / den ≤ bound) (hbound : 2 ^ 52 ≤ bound) :
    |(nearestMagnitude num den : Rat) - num / den| ≤ bound / 2 ^ 53 := by
  have hshift := pow_shift_le hden h hbound
  rw [nearestMagnitude]
  generalize (num / den).log2 - 52 = shift at hshift
  obtain ⟨hnear, -⟩ := distance_nearestEven num (Nat.mul_pos hden (Nat.two_pow_pos shift))
  generalize nearestEven num (den * 2 ^ shift) = n at hnear
  have hstep : (0 : Rat) < 2 ^ shift := by positivity
  have hscale : ((n * 2 ^ shift : Nat) : Rat) - num / den =
      -(((num : Rat) / (den * 2 ^ shift : Nat) - n) * 2 ^ shift) := by
    push_cast
    field_simp
    ring
  rw [hscale, abs_neg, abs_mul, abs_of_pos hstep]
  calc |(num : Rat) / (den * 2 ^ shift : Nat) - n| * 2 ^ shift
      ≤ 1 / 2 * (bound / 2 ^ 52) := mul_le_mul hnear hshift (le_of_lt hstep) (by norm_num)
    _ = bound / 2 ^ 53 := by ring

/-- A number of 53 significant bits is rounded to itself. -/
theorem nearestMagnitude_mul_right {m den : Nat} (hden : 0 < den) (h : Significant53 m) :
    nearestMagnitude (m * den) den = m := by
  have hmod : m % 2 ^ (m.log2 - 52) = 0 := h
  rw [nearestMagnitude, Nat.mul_div_cancel m hden]
  generalize m.log2 - 52 = shift at hmod
  obtain ⟨k, hk⟩ := Nat.dvd_of_mod_eq_zero hmod
  have hproduct : m * den = k * (den * 2 ^ shift) := by
    rw [hk]
    ring
  rw [hproduct, nearestEven_mul_right k (Nat.mul_pos hden (Nat.two_pow_pos shift)), hk,
    Nat.mul_comm]

/-! ### Rounding into the format -/

namespace Binary64

/-- The magnitude of a rational number, in units, is a quotient of its parts. -/
theorem units_of_parts (q : Rat) :
    ((q.num.natAbs * unitsInOne : Nat) : Rat) / q.den = |q| * unitsInOne := by
  have hden : (0 : Rat) < q.den := by exact_mod_cast q.den_pos
  have habs : |q| = (q.num.natAbs : Rat) / q.den := by
    rw [Nat.cast_natAbs, Int.cast_abs, ← abs_of_pos hden, ← abs_div, Rat.num_div_den]
  rw [habs]
  push_cast
  ring

/-- The value of a number with a sign and a magnitude. -/
theorem toRat_finite (negative : Bool) (units : Nat) (h : Representable units) :
    (finite negative units h).toRat =
      (if negative then -1 else 1) * ((units : Rat) / unitsInOne) := by
  rw [toRat, Rat.mkRat_eq_div, signedUnits]
  cases negative <;> simp [neg_div]

/-- The number with the other sign has the opposite value. -/
theorem toRat_neg (x : Binary64) : x.neg.toRat = -x.toRat := by
  rw [toRat, toRat, signedUnits_neg, Rat.mkRat_eq_div, Rat.mkRat_eq_div, Int.cast_neg, neg_div]

/-- Rounding does not depend on the sign. -/
theorem ofQuotient_not (negative : Bool) (num den : Nat) :
    ofQuotient (!negative) num den = (ofQuotient negative num den).neg := by
  unfold ofQuotient
  split <;> rfl

/-- What a rational number is rounded to, when the magnitude has a place below the
infinite ones. -/
theorem toRat_ofRat_of_lt {q : Rat} {units : Nat}
    (hunits : nearestMagnitude (q.num.natAbs * unitsInOne) q.den = units) (h : units < unitLimit) :
    (ofRat q).isFinite = true ∧
      (ofRat q).toRat = (if q < 0 then -1 else 1) * ((units : Rat) / unitsInOne) := by
  subst hunits
  have hrepresentable : Representable (nearestMagnitude (q.num.natAbs * unitsInOne) q.den) :=
    ⟨nearestMagnitude_significant _ _, h⟩
  have hround : ofRat q = .finite (decide (q < 0)) _ hrepresentable := dif_pos h
  rw [hround, toRat_finite]
  refine ⟨rfl, ?_⟩
  simp only [decide_eq_true_eq]

/-- A number is its magnitude with its sign. -/
theorem sign_mul_abs (q : Rat) : (if q < 0 then -1 else 1) * |q| = q := by
  by_cases hneg : q < 0
  · rw [if_pos hneg, abs_of_neg hneg]
    ring
  · rw [if_neg hneg, abs_of_nonneg (not_lt.mp hneg), one_mul]

theorem abs_sign (q : Rat) : |(if q < 0 then -1 else 1 : Rat)| = 1 := by
  by_cases hneg : q < 0
  · rw [if_pos hneg, abs_neg, abs_one]
  · rw [if_neg hneg, abs_one]

/-- **Rounding errs by one part in `2 ^ 53` at most**, counted from a power of two that
bounds the number. -/
theorem distance_ofRat {q : Rat} {k : Nat} (hk : k ≤ 1023) (h : |q| ≤ 2 ^ k) :
    (ofRat q).isFinite = true ∧ |(ofRat q).toRat - q| ≤ 2 ^ k / 2 ^ 53 := by
  have hpos : (0 : Rat) < unitsInOne := by exact_mod_cast unitsInOne_pos
  have hbound : |q| * unitsInOne ≤ 2 ^ k * unitsInOne :=
    mul_le_mul_of_nonneg_right h (le_of_lt hpos)
  have hlow : (2 : Rat) ^ 52 ≤ 2 ^ k * unitsInOne := by
    have hone : 1 * 2 ^ 52 ≤ 2 ^ k * unitsInOne :=
      Nat.mul_le_mul Nat.one_le_two_pow (pow_le_unitsInOne (by decide))
    rw [Nat.one_mul] at hone
    exact_mod_cast hone
  have hnear := distance_nearestMagnitude q.den_pos
    (by rw [units_of_parts]; exact hbound) hlow
  rw [units_of_parts] at hnear
  generalize hunits : nearestMagnitude (q.num.natAbs * unitsInOne) q.den = units at hnear
  have hlimit : units < unitLimit := by
    have hhigh := (abs_le.mp hnear).2
    have hlt : (units : Rat) < 2 ^ (k + 1) * unitsInOne := by
      have hlast : (0 : Rat) < 2 ^ k * unitsInOne := by positivity
      have htwo : (2 : Rat) ^ (k + 1) * unitsInOne = 2 ^ k * unitsInOne * 2 := by ring
      linarith
    have hnat : units < 2 ^ (k + 1) * unitsInOne := by exact_mod_cast hlt
    exact Nat.lt_of_lt_of_le hnat (pow_mul_unitsInOne_le (by omega))
  obtain ⟨hfinite, hvalue⟩ := toRat_ofRat_of_lt hunits hlimit
  refine ⟨hfinite, ?_⟩
  have hdiff : (ofRat q).toRat - q =
      (if q < 0 then -1 else 1) * ((units - |q| * unitsInOne) / unitsInOne) := by
    conv => lhs; rw [hvalue, ← sign_mul_abs q]
    rw [sub_div, mul_div_cancel_right₀ _ (ne_of_gt hpos), sign_mul_abs, mul_sub, sign_mul_abs]
  rw [hdiff, abs_mul, abs_sign, one_mul, abs_div, abs_of_pos hpos, div_le_iff₀ hpos]
  calc |(units : Rat) - |q| * unitsInOne| ≤ 2 ^ k * unitsInOne / 2 ^ 53 := hnear
    _ = 2 ^ k / 2 ^ 53 * unitsInOne := by ring

/-! ### What is exact -/

/-- A number whose magnitude is in the format is not changed by rounding. -/
theorem toRat_ofRat {q : Rat} {units : Nat} (h : Representable units)
    (hq : |q| * unitsInOne = units) : (ofRat q).isFinite = true ∧ (ofRat q).toRat = q := by
  have hpos : (0 : Rat) < unitsInOne := by exact_mod_cast unitsInOne_pos
  have hparts : q.num.natAbs * unitsInOne = units * q.den := by
    have hquotient := units_of_parts q
    rw [hq, div_eq_iff (by exact_mod_cast q.den_ne_zero)] at hquotient
    exact_mod_cast hquotient
  have hunits : nearestMagnitude (q.num.natAbs * unitsInOne) q.den = units := by
    rw [hparts]
    exact nearestMagnitude_mul_right q.den_pos h.1
  obtain ⟨hfinite, hvalue⟩ := toRat_ofRat_of_lt hunits h.2
  refine ⟨hfinite, ?_⟩
  rw [hvalue, ← hq, mul_div_cancel_right₀ _ (ne_of_gt hpos), sign_mul_abs]

/-- Whole numbers of at most 53 bits are exact. -/
theorem toRat_ofInt {n : Int} (h : n.natAbs ≤ 2 ^ 53) :
    (ofInt n).isFinite = true ∧ (ofInt n).toRat = n := by
  refine toRat_ofRat (representable_mul_unitsInOne h) ?_
  rw [Nat.cast_mul, Nat.cast_natAbs, Int.cast_abs]

theorem ofRat_zero : ofRat 0 = zero false := by
  decide +kernel

theorem toRat_ofRat_zero : (ofRat 0).toRat = 0 := by
  rw [ofRat_zero]
  exact Rat.zero_mkRat _

/-- Opposite numbers are rounded to opposite numbers. -/
theorem toRat_ofRat_neg (q : Rat) : (ofRat (-q)).toRat = -(ofRat q).toRat := by
  rcases eq_or_ne q 0 with rfl | hne
  · rw [neg_zero, toRat_ofRat_zero, neg_zero]
  · have hsign : decide (-q < 0) = !decide (q < 0) := by
      rcases lt_or_gt_of_ne hne with hneg | hpos
      · rw [decide_eq_true hneg, decide_eq_false (by linarith)]
        rfl
      · rw [decide_eq_true (by linarith), decide_eq_false (by linarith)]
        rfl
    rw [ofRat, hsign, Rat.neg_num, Rat.neg_den, Int.natAbs_neg, ofQuotient_not, toRat_neg]
    rfl

end Binary64

end Spreadsheet
