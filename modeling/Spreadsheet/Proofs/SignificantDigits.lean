/-
# Significant digits

The decimal that number formats start from is the one of fifteen significant digits
nearest to the magnitude of the number, as rational numbers say it.

* `NearestDecimal.unique` — there is one such decimal.
* `scaleOf_spec` — the place of the first digit is found for every magnitude that a
  floating point number has.
* `nearestDecimal_ofBinary64` — the decimal of a number is the nearest of fifteen
  digits.
-/

import Spreadsheet.Proofs.DecimalRounding

namespace Spreadsheet

-- A power of a natural number is core's, whatever other instances are in scope.
attribute [local instance (high)] instPowNat

/-- `NearestDecimal count q d`: of the decimals with so many significant digits, `d` is
the nearest one to `q`; of two that are equally near, the one with the even last
digit. Zero has no digits. -/
inductive NearestDecimal (count : Nat) : (q d : Rat) → Prop where
  | zero : NearestDecimal count 0 0
  | nearest {q : Rat} (place : Int) (n : Nat) :
      10 ^ (place - 1) ≤ q → q < 10 ^ place →
      |q - n * 10 ^ (place - count)| ≤ 10 ^ (place - count) / 2 →
      (|q - n * 10 ^ (place - count)| = 10 ^ (place - count) / 2 → n % 2 = 0) →
      NearestDecimal count q (n * 10 ^ (place - count))

/-- The place of the first digit is determined by the number. -/
theorem place_unique {q : Rat} {a b : Int} (ha : 10 ^ (a - 1) ≤ q) (hb : q < 10 ^ b) : a ≤ b := by
  have hlt := (zpow_lt_zpow_iff_right₀ (by norm_num : (1 : Rat) < 10)).mp (lt_of_le_of_lt ha hb)
  omega

/-- Of two neighbours that are equally near, one is not even. -/
theorem not_lt_of_near {q step : Rat} {n m : Nat} (hstep : 0 < step)
    (hn : |q - n * step| ≤ step / 2) (hnEven : |q - n * step| = step / 2 → n % 2 = 0)
    (hm : |q - m * step| ≤ step / 2) (hmEven : |q - m * step| = step / 2 → m % 2 = 0) :
    ¬n < m := by
  intro hlt
  have hle : ((n : Rat) + 1) * step ≤ m * step :=
    mul_le_mul_of_nonneg_right (by exact_mod_cast hlt) (le_of_lt hstep)
  have hlow := (abs_le.mp hn).2
  have hhigh := (abs_le.mp hm).1
  have hq : q = n * step + step / 2 := by linarith
  have hstepUp : (m : Rat) * step = (n + 1) * step := by linarith
  have hnext : m = n + 1 := by exact_mod_cast mul_right_cancel₀ (ne_of_gt hstep) hstepUp
  have hdown : |q - n * step| = step / 2 := by
    rw [hq, add_sub_cancel_left, abs_of_pos (by linarith)]
  have hup : |q - m * step| = step / 2 := by
    rw [abs_sub_comm, hstepUp, hq, abs_of_pos (by linarith)]
    ring
  have := hnEven hdown
  have := hmEven hup
  omega

/-- Of all decimals of so many digits, exactly one is the nearest. -/
theorem NearestDecimal.unique {count : Nat} {q d e : Rat} (hd : NearestDecimal count q d)
    (he : NearestDecimal count q e) : d = e := by
  cases hd with
  | zero =>
    cases he with
    | zero => rfl
    | nearest place n hlow _ _ _ =>
      exact absurd hlow (not_le.mpr (by positivity))
  | nearest place n hlow hhigh hnear heven =>
    cases he with
    | zero => exact absurd hlow (not_le.mpr (by positivity))
    | nearest place' m hlow' hhigh' hnear' heven' =>
      obtain rfl : place = place' :=
        le_antisymm (place_unique hlow hhigh') (place_unique hlow' hhigh)
      have hstep : (0 : Rat) < 10 ^ (place - count) := by positivity
      have hmn := not_lt_of_near hstep hnear heven hnear' heven'
      have hnm := not_lt_of_near hstep hnear' heven' hnear heven
      have heq : n = m := by omega
      rw [heq]

namespace Decimal

/-! ### The place of the first digit -/

/-- The whole part of a number that is not negative. -/
theorem toNat_floor_bounds {q : Rat} (h : 0 ≤ q) :
    (q.floor.toNat : Rat) ≤ q ∧ q < q.floor.toNat + 1 := by
  obtain ⟨n, hn⟩ : ∃ n : Nat, q.floor = n := Int.eq_ofNat_of_zero_le (Rat.le_floor_iff.mpr h)
  have hlow := Rat.floor_le (a := q)
  have hhigh := Rat.lt_floor_add_one (a := q)
  rw [hn] at hlow hhigh ⊢
  rw [Int.toNat_natCast]
  exact ⟨hlow, by exact_mod_cast hhigh⟩

/-- The count of the digits of the whole part places a number from one up between
two powers of ten. -/
theorem pow_digitCount_floor {q : Rat} (h : 1 ≤ q) :
    (10 : Rat) ^ ((digitCount q.floor.toNat : Int) - 1) ≤ q ∧
      q < 10 ^ (digitCount q.floor.toNat : Int) := by
  obtain ⟨hlow, hhigh⟩ := toNat_floor_bounds (le_trans (by norm_num) h)
  generalize q.floor.toNat = n at hlow hhigh
  have hne : n ≠ 0 := by
    rintro rfl
    norm_num at hhigh
    exact absurd h (not_le.mpr hhigh)
  constructor
  · obtain ⟨k, hk⟩ : ∃ k, digitCount n = k + 1 := by
      refine Nat.exists_eq_succ_of_ne_zero fun hzero => hne ?_
      have := lt_pow_digitCount n
      rw [hzero] at this
      omega
    have hpow : (10 : Rat) ^ k ≤ n := by exact_mod_cast pow_le_of_digitCount hk
    rw [hk, Nat.cast_succ, add_sub_cancel_right, zpow_natCast]
    exact le_trans hpow hlow
  · have hpow : (n : Rat) + 1 ≤ 10 ^ digitCount n := by exact_mod_cast lt_pow_digitCount n
    rw [zpow_natCast]
    exact lt_of_lt_of_le hhigh hpow

/-- The place of the first digit of a number that is not too small. -/
theorem scaleOf_spec {q : Rat} (h : 10 ^ (-324 : Int) ≤ q) :
    10 ^ (scaleOf q - 1) ≤ q ∧ q < 10 ^ scaleOf q := by
  have hscaled : 1 ≤ q * 10 ^ (324 : Int) := by
    calc (1 : Rat) = 10 ^ (-324 : Int) * 10 ^ (324 : Int) := by
          rw [← zpow_add₀ (by norm_num), Int.add_left_neg, zpow_zero]
      _ ≤ q * 10 ^ (324 : Int) := mul_le_mul_of_nonneg_right h (by positivity)
  obtain ⟨hlow, hhigh⟩ := pow_digitCount_floor hscaled
  rw [scaleOf]
  generalize digitCount (q * 10 ^ (324 : Int)).floor.toNat = count at hlow hhigh
  have hpos : (0 : Rat) < 10 ^ (324 : Int) := by positivity
  constructor
  · refine le_of_mul_le_mul_right ?_ hpos
    have hplace : (count : Int) - 324 - 1 + 324 = count - 1 := by omega
    rw [← zpow_add₀ (by norm_num), hplace]
    exact hlow
  · refine lt_of_mul_lt_mul_right ?_ (le_of_lt hpos)
    rw [← zpow_add₀ (by norm_num), Int.sub_add_cancel]
    exact hhigh

/-! ### The digits that are kept -/

/-- The digits of a whole number, without final zeros, are a decimal in normal form. -/
theorem normalised_normalise_ofNat (n : Nat) (scale : Int) :
    Normalised (normalise (Digits.ofNat n) scale) := by
  by_cases hzero : n = 0
  · subst hzero
    exact normalised_zero
  · exact normalised_normalise scale (fun _ => Digits.digit_lt_of_mem_ofNat)
      (Digits.head?_ofNat_ne_zero hzero)

theorem normalised_significant (count : Nat) (q : Rat) : Normalised (significant count q) :=
  normalised_normalise_ofNat _ _

/-- A decimal of so many significant digits is the nearest one. -/
theorem nearestDecimal_significant (count : Nat) {q : Rat} (h : 10 ^ (-324 : Int) ≤ q) :
    NearestDecimal count q (significant count q).toRat := by
  obtain ⟨hlow, hhigh⟩ := scaleOf_spec h
  have hq : 0 ≤ q := le_trans (by positivity) h
  rw [significant]
  generalize scaleOf q = place at hlow hhigh
  have hscaled : 0 ≤ q * 10 ^ ((count : Int) - place) := mul_nonneg hq (by positivity)
  obtain ⟨hnear, heven⟩ := distance_nearestEven (q * 10 ^ ((count : Int) - place)).num.toNat
    (q * 10 ^ ((count : Int) - place)).den_pos
  rw [toNat_num_div_den hscaled] at hnear heven
  generalize nearestEven _ _ = n at hnear heven
  have hvalue : (normalise (Digits.ofNat n) (place + (Digits.ofNat n).length - count)).toRat =
      n * 10 ^ (place - count) := by
    rw [toRat_normalise, Digits.value_ofNat]
    congr 2
    ring
  have hstep : (0 : Rat) < 10 ^ (place - count) := by positivity
  have hdistance : |q - n * 10 ^ (place - count)| =
      |q * 10 ^ ((count : Int) - place) - n| * 10 ^ (place - count) := by
    have hone : (10 : Rat) ^ ((count : Int) - place) * 10 ^ (place - count) = 1 := by
      rw [← zpow_add₀ (by norm_num), sub_add_sub_cancel, sub_self, zpow_zero]
    rw [← abs_of_pos hstep, ← abs_mul, abs_of_pos hstep, sub_mul, mul_assoc, hone, mul_one]
  rw [hvalue]
  refine .nearest place n hlow hhigh ?_ fun heq => heven ?_
  · rw [hdistance, div_eq_inv_mul, ← one_div]
    exact mul_le_mul_of_nonneg_right hnear (le_of_lt hstep)
  · rw [hdistance, div_eq_inv_mul, ← one_div] at heq
    exact mul_right_cancel₀ (ne_of_gt hstep) heq

end Decimal

/-! ### Floating point numbers -/

namespace Binary64

theorem signedUnits_abs (x : Binary64) : x.abs.signedUnits = x.signedUnits.natAbs := by
  cases x with
  | nan => rfl
  | infinite negative => rfl
  | finite negative units ok => cases negative <;> simp [abs, signedUnits]

theorem toRat_abs (x : Binary64) : x.abs.toRat = (x.signedUnits.natAbs : Rat) / unitsInOne := by
  rw [toRat, signedUnits_abs, Rat.mkRat_eq_div]
  simp only [Int.cast_natCast]

theorem abs_toRat_eq (x : Binary64) : x.abs.toRat = |x.toRat| := by
  rw [toRat_abs, toRat, Rat.mkRat_eq_div, abs_div, Nat.cast_natAbs, Int.cast_abs, Nat.abs_cast]

/-- A number that is not zero is not too small for its first digit to be found. -/
theorem pow_le_toRat_abs {x : Binary64} (h : x.signedUnits ≠ 0) :
    (10 : Rat) ^ (-324 : Int) ≤ x.abs.toRat := by
  have hone : 1 ≤ x.signedUnits.natAbs := Nat.one_le_iff_ne_zero.mpr (by simpa using h)
  have hunits : unitsInOne ≤ 10 ^ (324 : Nat) := by
    unfold unitsInOne
    decide +kernel
  have hpow : ∀ {p : Nat} {place : Int}, unitsInOne ≤ 10 ^ p → place = p →
      (unitsInOne : Rat) ≤ 10 ^ place := by
    rintro p place hle rfl
    rw [zpow_natCast]
    exact_mod_cast hle
  have hpos : (0 : Rat) < unitsInOne := by exact_mod_cast unitsInOne_pos
  rw [toRat_abs, zpow_neg, ← one_div]
  exact div_le_div₀ (Nat.cast_nonneg _) (by exact_mod_cast hone) hpos (hpow hunits rfl)

end Binary64

namespace Decimal

theorem normalised_ofBinary64 (x : Binary64) : Normalised (ofBinary64 x) := by
  unfold ofBinary64
  split
  · exact normalised_zero
  · exact normalised_significant _ _

/-- **The decimal that a number is shown from is the nearest of fifteen digits.** -/
theorem nearestDecimal_ofBinary64 (x : Binary64) :
    NearestDecimal shownDigits x.abs.toRat (ofBinary64 x).toRat := by
  unfold ofBinary64
  split
  · rename_i hzero
    have hq : x.abs.toRat = 0 := by
      rw [Binary64.toRat_abs, hzero]
      simp
    have hd : Decimal.zero.toRat = 0 := toRat_of_isZero rfl
    rw [hq, hd]
    exact .zero
  · rename_i hne
    exact nearestDecimal_significant _ (Binary64.pow_le_toRat_abs hne)

end Decimal

end Spreadsheet
