/-
# Reading a numeral rounds the number it denotes

The limits on the size of a numeral, and the order in which it is scaled and divided, do
not show: a numeral is read as the floating point number that its value is rounded to.

* `Numeral.toBinary64_eq_ofRat` — reading a numeral is rounding its value.
-/

import Spreadsheet.Numeric.Numeral
import Spreadsheet.Proofs.NearestBinary64

namespace Spreadsheet

-- A power of a natural number is core's, whatever other instances are in scope.
attribute [local instance (high)] instPowNat

/-! ### Quotients -/

/-- A factor of both parts of a quotient does not count. -/
theorem nearestEven_mul_mul_left {k : Nat} (hk : 0 < k) (num den : Nat) :
    nearestEven (k * num) (k * den) = nearestEven num den := by
  have hscale : ∀ a b : Nat, k * a < k * b ↔ a < b := fun a b => Nat.mul_lt_mul_left hk
  rw [nearestEven, nearestEven, Nat.mul_div_mul_left _ _ hk, Nat.mul_mod_mul_left,
    Nat.mul_left_comm 2 k]
  simp only [hscale]

theorem nearestMagnitude_mul_mul_left {k : Nat} (hk : 0 < k) (num den : Nat) :
    nearestMagnitude (k * num) (k * den) = nearestMagnitude num den := by
  rw [nearestMagnitude, nearestMagnitude, Nat.mul_div_mul_left _ _ hk, Nat.mul_assoc,
    nearestEven_mul_mul_left hk]

/-- Equal quotients are rounded alike. -/
theorem nearestMagnitude_eq_of_mul_eq {num den num' den' : Nat} (hden : 0 < den)
    (hden' : 0 < den') (h : num * den' = num' * den) :
    nearestMagnitude num den = nearestMagnitude num' den' := by
  rw [← nearestMagnitude_mul_mul_left hden' num den, ← nearestMagnitude_mul_mul_left hden num',
    Nat.mul_comm den' num, h, Nat.mul_comm num', Nat.mul_comm den' den]

namespace Binary64

/-- The sign of a quotient that is not zero is the sign it is given. -/
theorem decide_sign_mul_lt (negative : Bool) {magnitude : Rat} (hnonneg : 0 ≤ magnitude)
    (h : magnitude ≠ 0 ∨ negative = false) :
    decide ((if negative then -1 else 1) * magnitude < 0) = negative := by
  cases negative with
  | false => simpa using hnonneg
  | true =>
    have hpos : 0 < magnitude :=
      lt_of_le_of_ne hnonneg (Ne.symm (h.resolve_right (by decide)))
    simpa using hpos

/-- A quotient with a sign is rounded as the rational number that it is. -/
theorem ofQuotient_eq_ofRat {negative : Bool} {num den : Nat} (hden : 0 < den)
    (h : num ≠ 0 ∨ negative = false) :
    ofQuotient negative num den =
      ofRat ((if negative then -1 else 1) * ((num : Rat) / den)) := by
  have hdenRat : (0 : Rat) < den := by exact_mod_cast hden
  have hnonneg : (0 : Rat) ≤ (num : Rat) / den := by positivity
  have hsign := decide_sign_mul_lt negative hnonneg
    (h.imp_left fun hnum => by positivity)
  have habs : |(if negative then -1 else 1) * ((num : Rat) / den)| = (num : Rat) / den := by
    rw [abs_mul, abs_of_nonneg hnonneg]
    cases negative <;> simp
  have hparts := units_of_parts ((if negative then -1 else 1) * ((num : Rat) / den))
  rw [ofRat, hsign]
  generalize (if negative then -1 else 1) * ((num : Rat) / den) = q at habs hparts
  have hequal : nearestMagnitude (num * unitsInOne) den =
      nearestMagnitude (q.num.natAbs * unitsInOne) q.den := by
    refine nearestMagnitude_eq_of_mul_eq hden q.den_pos ?_
    have hqden : (0 : Rat) < q.den := by exact_mod_cast q.den_pos
    rw [habs, div_mul_eq_mul_div, div_eq_div_iff (ne_of_gt hqden) (ne_of_gt hdenRat)] at hparts
    exact_mod_cast hparts.symm
  simp only [ofQuotient, hequal]

/-! ### Numbers outside the range -/

/-- From the limit of the finite magnitudes up, numbers are rounded to infinity. -/
theorem ofRat_of_unitLimit_le {q : Rat} (h : (unitLimit : Rat) ≤ |q| * unitsInOne) :
    ofRat q = .infinite (decide (q < 0)) := by
  have hsignificant : Significant53 unitLimit := by
    obtain ⟨shift, hshift⟩ : ∃ shift, unitLimit = 2 ^ shift := by
      unfold unitLimit
      generalize (2098 : Nat) = shift
      exact ⟨shift, rfl⟩
    rw [hshift, ← Nat.one_mul (2 ^ shift)]
    exact significant53_mul_pow (by decide) shift
  have hnear := (le_distance_units q hsignificant).1
  rw [abs_of_nonpos (sub_nonpos.mpr h)] at hnear
  have hlow := neg_abs_le
    ((nearestMagnitude (q.num.natAbs * unitsInOne) q.den : Rat) - |q| * unitsInOne)
  have hlimit : (unitLimit : Rat) ≤ nearestMagnitude (q.num.natAbs * unitsInOne) q.den := by
    linarith
  exact dif_neg (Nat.not_lt.mpr (by exact_mod_cast hlimit))

/-- Below half a unit, numbers are rounded to zero. -/
theorem ofRat_of_lt_half_unit {q : Rat} (h : |q| * unitsInOne < 1 / 2) :
    ofRat q = .zero (decide (q < 0)) := by
  have hnear := (le_distance_units q (z := 0) (by decide)).1
  rw [Nat.cast_zero, zero_sub, abs_neg] at hnear
  have hpos : (0 : Rat) ≤ |q| * unitsInOne := by positivity
  rw [abs_of_nonneg hpos] at hnear
  have hhigh := le_abs_self
    ((nearestMagnitude (q.num.natAbs * unitsInOne) q.den : Rat) - |q| * unitsInOne)
  have hone : (nearestMagnitude (q.num.natAbs * unitsInOne) q.den : Rat) < 1 := by linarith
  have hzero : nearestMagnitude (q.num.natAbs * unitsInOne) q.den = 0 :=
    Nat.lt_one_iff.mp (by exact_mod_cast hone)
  simp only [ofRat, ofQuotient, hzero, unitLimit_pos, zero, dif_pos]

end Binary64

/-! ### Numerals -/

namespace Numeral

/-- Scaling a coefficient is rounding the number that it stands for. -/
theorem nearestScaled_eq_ofRat {negative : Bool} {coefficient : Nat} (place : Int)
    (h : coefficient ≠ 0 ∨ negative = false) :
    nearestScaled negative coefficient place =
      Binary64.ofRat ((if negative then -1 else 1) * ((coefficient : Rat) * 10 ^ place)) := by
  cases place with
  | ofNat up =>
    have hscaled : coefficient * 10 ^ up ≠ 0 ∨ negative = false :=
      h.imp_left fun hne => Nat.mul_ne_zero hne (Nat.ne_of_gt (Nat.pow_pos (by decide)))
    rw [nearestScaled, Binary64.ofQuotient_eq_ofRat Nat.one_pos hscaled]
    simp
  | negSucc down =>
    rw [nearestScaled, Binary64.ofQuotient_eq_ofRat (Nat.pow_pos (by decide)) h, zpow_negSucc,
      ← div_eq_mul_inv]
    push_cast
    rfl

/-- The magnitude of a numeral lies within the power of ten that its size tells. -/
theorem magnitude_bounds {coefficient : Nat} (hne : coefficient ≠ 0) (place : Int) :
    (10 : Rat) ^ ((digitCount coefficient : Int) + place - 1) ≤ coefficient * 10 ^ place ∧
      (coefficient : Rat) * 10 ^ place < 10 ^ ((digitCount coefficient : Int) + place) := by
  have hpower : (0 : Rat) < 10 ^ place := by positivity
  constructor
  · obtain ⟨k, hk⟩ : ∃ k, digitCount coefficient = k + 1 := by
      refine Nat.exists_eq_succ_of_ne_zero fun hzero => hne ?_
      have hlt := lt_pow_digitCount coefficient
      rw [hzero] at hlt
      omega
    have hlow : ((10 ^ k : Nat) : Rat) ≤ coefficient := by exact_mod_cast pow_le_of_digitCount hk
    have hexponent : ((digitCount coefficient : Int) + place - 1) = (k : Int) + place := by omega
    rw [hexponent, zpow_add₀ (by norm_num), zpow_natCast]
    push_cast at hlow
    exact mul_le_mul_of_nonneg_right hlow (le_of_lt hpower)
  · have hhigh : (coefficient : Rat) < (10 ^ digitCount coefficient : Nat) := by
      exact_mod_cast lt_pow_digitCount coefficient
    rw [zpow_add₀ (by norm_num), zpow_natCast]
    push_cast at hhigh
    exact mul_lt_mul_of_pos_right hhigh hpower

/-- The value of a numeral is its magnitude with its sign. -/
theorem toRat_eq (numeral : Numeral) :
    numeral.toRat = (if numeral.negative then -1 else 1) *
      ((numeral.coefficient : Rat) * 10 ^ numeral.place) := by
  rw [toRat, mul_assoc]

theorem abs_toRat (numeral : Numeral) :
    |numeral.toRat| = (numeral.coefficient : Rat) * 10 ^ numeral.place := by
  have hnonneg : (0 : Rat) ≤ (numeral.coefficient : Rat) * 10 ^ numeral.place := by positivity
  rw [toRat_eq, abs_mul, abs_of_nonneg hnonneg]
  cases numeral.negative <;> simp

/-- A numeral of at least 310 places before the point is above all finite numbers. -/
theorem unitLimit_le_of_size {numeral : Numeral} (hne : numeral.coefficient ≠ 0)
    (h : 310 ≤ (digitCount numeral.coefficient : Int) + numeral.place) :
    (unitLimit : Rat) ≤ |numeral.toRat| * unitsInOne := by
  obtain ⟨k, hk, hlimit⟩ : ∃ k : Nat, k = 309 ∧ unitLimit ≤ 10 ^ k * unitsInOne := by
    refine ⟨309, rfl, ?_⟩
    unfold unitLimit unitsInOne
    decide +kernel
  have hpower : (10 : Rat) ^ k ≤ |numeral.toRat| := by
    rw [abs_toRat, ← zpow_natCast]
    refine le_trans ?_ (magnitude_bounds hne numeral.place).1
    exact zpow_le_zpow_right₀ (by norm_num) (by omega)
  calc (unitLimit : Rat) ≤ 10 ^ k * unitsInOne := by exact_mod_cast hlimit
    _ ≤ |numeral.toRat| * unitsInOne := mul_le_mul_of_nonneg_right hpower (Nat.cast_nonneg _)

/-- A numeral whose first digit comes after 324 zeros behind the point is below half a
unit. -/
theorem lt_half_unit_of_size {numeral : Numeral} (hne : numeral.coefficient ≠ 0)
    (h : (digitCount numeral.coefficient : Int) + numeral.place ≤ -324) :
    |numeral.toRat| * unitsInOne < 1 / 2 := by
  obtain ⟨k, hk, hunits⟩ : ∃ k : Nat, k = 324 ∧ 2 * unitsInOne ≤ 10 ^ k := by
    refine ⟨324, rfl, ?_⟩
    unfold unitsInOne
    decide +kernel
  have hpower : |numeral.toRat| < (10 ^ k : Rat)⁻¹ := by
    rw [abs_toRat, ← zpow_natCast, ← zpow_neg]
    refine lt_of_lt_of_le (magnitude_bounds hne numeral.place).2 ?_
    exact zpow_le_zpow_right₀ (by norm_num) (by omega)
  have hten : (0 : Rat) < 10 ^ k := by positivity
  have hhalf : (unitsInOne : Rat) ≤ 10 ^ k / 2 := by
    rw [le_div_iff₀ (by norm_num), mul_comm]
    exact_mod_cast hunits
  calc |numeral.toRat| * unitsInOne < (10 ^ k : Rat)⁻¹ * unitsInOne :=
        mul_lt_mul_of_pos_right hpower (by exact_mod_cast unitsInOne_pos)
    _ ≤ (10 ^ k : Rat)⁻¹ * (10 ^ k / 2) := mul_le_mul_of_nonneg_left hhalf (by positivity)
    _ = 1 / 2 := by rw [← mul_div_assoc, inv_mul_cancel₀ (ne_of_gt hten)]

/-- **Reading a numeral is rounding its value**; a zero is read with its sign, and so it
has to be given without one. -/
theorem toBinary64_eq_ofRat {numeral : Numeral}
    (h : numeral.coefficient ≠ 0 ∨ numeral.negative = false) :
    numeral.toBinary64 = Binary64.ofRat numeral.toRat := by
  have hsign : decide (numeral.toRat < 0) = numeral.negative := by
    rw [toRat_eq]
    exact Binary64.decide_sign_mul_lt _ (by positivity) (h.imp_left fun hne => by positivity)
  rw [toBinary64]
  split_ifs with hzero hlarge hsmall
  · have hvalue : |numeral.toRat| * unitsInOne < 1 / 2 := by
      rw [abs_toRat, hzero, Nat.cast_zero, zero_mul, zero_mul]
      norm_num
    rw [Binary64.ofRat_of_lt_half_unit hvalue, hsign]
  · rw [Binary64.ofRat_of_unitLimit_le (unitLimit_le_of_size hzero hlarge), hsign]
  · rw [Binary64.ofRat_of_lt_half_unit (lt_half_unit_of_size hzero hsmall), hsign]
  · rw [nearestScaled_eq_ofRat _ h, toRat_eq]

/-- A numeral denotes zero when its digits are zeros. -/
theorem toRat_eq_zero_iff (numeral : Numeral) : numeral.toRat = 0 ↔ numeral.coefficient = 0 := by
  have hpower : (10 : Rat) ^ numeral.place ≠ 0 := by positivity
  rw [← abs_eq_zero, abs_toRat, mul_eq_zero, or_iff_left hpower, Nat.cast_eq_zero]

/-- A numeral is read as its rounded value, and a zero with the sign it is written with. -/
theorem toBinary64_eq (numeral : Numeral) :
    numeral.toBinary64 =
      if numeral.toRat = 0 then .zero numeral.negative else .ofRat numeral.toRat := by
  simp only [toRat_eq_zero_iff]
  split
  · rename_i hzero
    rw [toBinary64]
    exact if_pos hzero
  · rename_i hne
    exact toBinary64_eq_ofRat (Or.inl hne)

/-- The value decides whether a numeral is read as a finite number. -/
theorem isFinite_toBinary64 (numeral : Numeral) :
    numeral.toBinary64.isFinite = (Binary64.ofRat numeral.toRat).isFinite := by
  rw [toBinary64_eq]
  split
  · rename_i hzero
    rw [hzero, Binary64.ofRat_of_lt_half_unit (by norm_num)]
    rfl
  · rfl

/-- A numeral that is read as a finite number is read as the nearest one to its value. -/
theorem isNearest_toBinary64 {numeral : Numeral} (h : numeral.toBinary64.isFinite = true) :
    numeral.toBinary64.IsNearest numeral.toRat := by
  rw [toBinary64_eq] at h ⊢
  split
  · rename_i hzero
    rw [hzero]
    exact Binary64.isNearest_zero _
  · rename_i hne
    rw [if_neg hne] at h
    exact Binary64.isNearest_ofRat h

end Numeral

end Spreadsheet
