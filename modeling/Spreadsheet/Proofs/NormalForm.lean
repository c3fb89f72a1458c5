/-
# Decimals in normal form

A decimal in normal form has no zero at either end of its digits. So it is determined by
the number it denotes, and it has no more digits than any way to count the number in some
place. Rounding adds no digits, and changes no decimal that ends before the last place.

* `Normalised.eq_of_toRat_eq` — a number has one decimal in normal form.
* `Normalised.length_digits_le` — the digits of a number that is counted in a place.
* `length_digits_round_le_length`, `round_eq_self` — the digits of a rounded decimal.
-/

import Spreadsheet.Proofs.DecimalRounding

namespace Spreadsheet

-- A power of a natural number is core's, whatever other instances are in scope.
attribute [local instance (high)] instPowNat

/-- A power of ten that is counted in one place is a power of ten. -/
theorem pow_mul_zpow {n : Nat} {a b : Int} (h : n + a = b) :
    ((10 ^ n : Nat) : Rat) * 10 ^ a = 10 ^ b := by
  push_cast
  rw [← zpow_natCast, ← zpow_add₀ (by norm_num), h]

/-- A power of ten, counted in smaller ones. -/
theorem pow_mul_zpow_sub (count : Nat) (place : Int) :
    ((10 ^ count : Nat) : Rat) * 10 ^ (place - count) = 10 ^ place :=
  pow_mul_zpow (by omega)

/-- Powers of ten whose places add up to a natural number. -/
theorem zpow_mul_zpow {a b : Int} {n : Nat} (h : a + b = n) :
    (10 : Rat) ^ a * 10 ^ b = (10 ^ n : Nat) := by
  push_cast
  rw [← zpow_add₀ (by norm_num), h, zpow_natCast]

namespace Decimal

/-! ### One decimal for one number -/

/-- The last digit other than zero keeps the digits from being counted in tens. -/
theorem Normalised.value_mod_ten {d : Decimal} (h : Normalised d) (hne : d.isZero = false) :
    Digits.value d.digits % 10 ≠ 0 := by
  have hlast := h.last_ne_zero
  have hlt := h.digit_lt
  rw [isZero] at hne
  cases hdigits : d.digits using List.reverseRecOn with
  | nil => simp [hdigits] at hne
  | append_singleton front last =>
    rw [hdigits] at hlast hlt
    have hlast : last ≠ 0 := by simpa using hlast
    have hten : last < 10 := hlt last (by simp)
    rw [Digits.value_concat]
    omega

/-- A number that is not counted in tens has no greater last place. -/
theorem exponent_le {a b : Nat} {i j : Int} (ha : a % 10 ≠ 0)
    (h : (a : Rat) * 10 ^ i = b * 10 ^ j) : j ≤ i := by
  by_contra hlt
  obtain ⟨k, hk⟩ : ∃ k : Nat, j - i = (k + 1 : Nat) := ⟨(j - i - 1).toNat, by omega⟩
  have hpower : ((10 ^ (k + 1) : Nat) : Rat) * 10 ^ i = 10 ^ j := pow_mul_zpow (by omega)
  rw [← hpower, ← mul_assoc] at h
  have hnat : a = b * 10 ^ (k + 1) := by
    exact_mod_cast mul_right_cancel₀ (by positivity) h
  rw [hnat, Nat.pow_succ, ← Nat.mul_assoc, Nat.mul_mod_left] at ha
  exact ha rfl

/-- **A number has one decimal in normal form.** -/
theorem Normalised.eq_of_toRat_eq {d e : Decimal} (hd : Normalised d) (he : Normalised e)
    (h : d.toRat = e.toRat) : d = e := by
  by_cases hzero : d.isZero = true
  · have hother : e.isZero = true := by rwa [← toRat_eq_zero_iff he, ← h, toRat_eq_zero_iff hd]
    rw [isZero_iff] at hzero hother
    have hscale := hd.scale_of_nil hzero
    have hscale' := he.scale_of_nil hother
    cases d
    cases e
    simp_all
  · have hother : e.isZero = false := by
      rw [Bool.eq_false_iff, Ne, ← toRat_eq_zero_iff he, ← h, toRat_eq_zero_iff hd]
      exact hzero
    rw [Bool.not_eq_true] at hzero
    have hplace : d.scale - d.digits.length = e.scale - e.digits.length :=
      le_antisymm (exponent_le (he.value_mod_ten hother) h.symm)
        (exponent_le (hd.value_mod_ten hzero) h)
    rw [toRat, toRat, hplace] at h
    have hvalue : Digits.value d.digits = Digits.value e.digits := by
      exact_mod_cast mul_right_cancel₀ (by positivity) h
    have hdigits : d.digits = e.digits := by
      rw [Digits.eq_ofNat_value hd.digit_lt hd.head_ne_zero (by simpa [isZero] using hzero), hvalue,
        ← Digits.eq_ofNat_value he.digit_lt he.head_ne_zero (by simpa [isZero] using hother)]
    rw [hdigits] at hplace
    cases d
    cases e
    simp_all

/-! ### Decimals of a few digits -/

/-- A number that is a multiple of a place has no more digits in normal form than the
multiple has. -/
theorem Normalised.length_digits_le {d : Decimal} (h : Normalised d) {count n : Nat} {place : Int}
    (hcount : 0 < count) (hvalue : d.toRat = n * 10 ^ place) (hn : n ≤ 10 ^ count) :
    d.digits.length ≤ count := by
  by_contra hlong
  have hne : d.isZero = false := by
    rw [isZero, List.isEmpty_eq_false_iff]
    rintro hnil
    rw [hnil] at hlong
    exact hlong (Nat.zero_le _)
  have hmod := h.value_mod_ten hne
  have hplace := exponent_le hmod hvalue
  have hlow : 10 ^ count ≤ Digits.value d.digits := by
    obtain ⟨places, hplaces⟩ := Nat.exists_eq_succ_of_ne_zero (by omega : d.digits.length ≠ 0)
    exact Nat.le_trans (Nat.pow_le_pow_right (by decide) (by omega))
      (Digits.pow_le_value h.head_ne_zero hplaces)
  have hhigh : Digits.value d.digits ≤ 10 ^ count := by
    have hpos : (0 : Rat) < 10 ^ (d.scale - d.digits.length) := by positivity
    have hstep : (10 : Rat) ^ place ≤ 10 ^ (d.scale - d.digits.length) :=
      zpow_le_zpow_right₀ (by norm_num) hplace
    have hle : (Digits.value d.digits : Rat) * 10 ^ (d.scale - d.digits.length) ≤
        (10 ^ count : Nat) * 10 ^ (d.scale - d.digits.length) := by
      rw [← toRat, hvalue]
      exact mul_le_mul (by exact_mod_cast hn) hstep (by positivity) (Nat.cast_nonneg _)
    exact_mod_cast le_of_mul_le_mul_right hle hpos
  rw [Nat.le_antisymm hhigh hlow, ← Nat.succ_pred_eq_of_pos hcount, Nat.pow_succ,
    Nat.mul_mod_left] at hmod
  exact hmod rfl

/-- Rounding does not add digits. -/
theorem length_digits_round_le_length (places : Int) (d : Decimal) :
    (round places d).digits.length ≤ d.digits.length := by
  have hnormalise : ∀ (digits : List Nat) (scale : Int),
      (normalise digits scale).digits.length ≤ digits.length := by
    intro digits scale
    rcases length_digits_normalise_le digits scale with hzero | ⟨-, hlength⟩
    · rw [isZero_iff.mp hzero]
      exact Nat.zero_le _
    · exact hlength
  refine round_cases (motive := fun rounded => rounded.digits.length ≤ d.digits.length)
    places d ?_ ?_ ?_ ?_
  · exact fun _ => Nat.zero_le _
  · exact fun _ _ _ => Nat.le_refl _
  · intro kept next rest _ hdigits _
    have hlength := hnormalise kept d.scale
    rw [hdigits, List.length_append]
    omega
  · intro kept next rest _ hdigits _
    have hlength := hnormalise (carried kept) (d.scale + (carried kept).length - kept.length)
    have hcarried : (carried kept).length ≤ kept.length + 1 := by
      rw [length_carried]
      split <;> omega
    rw [hdigits, List.length_append, List.length_cons]
    omega

/-- A decimal without digits behind the last place is its own rounding. -/
theorem round_eq_self {places : Int} {d : Decimal}
    (h : (d.digits.length : Int) ≤ d.scale + places) : round places d = d := by
  refine round_cases (motive := fun rounded => rounded = d) places d ?_ ?_ ?_ ?_
  · intro hscale
    omega
  · exact fun _ _ _ => rfl
  · intro kept next rest hscale hdigits _
    rw [hdigits, List.length_append, List.length_cons] at h
    omega
  · intro kept next rest hscale hdigits _
    rw [hdigits, List.length_append, List.length_cons] at h
    omega

/-- A decimal of at most so many digits is a multiple of the last of so many places. -/
theorem exists_multiple {d : Decimal} {count : Nat} (h : d.digits.length ≤ count) :
    ∃ n : Nat, d.toRat = n * 10 ^ (d.scale - count) := by
  refine ⟨Digits.value d.digits * 10 ^ (count - d.digits.length), ?_⟩
  rw [toRat]
  push_cast
  rw [mul_assoc, ← zpow_natCast, ← zpow_add₀ (by norm_num)]
  congr 2
  omega

/-- The scale of a decimal in normal form is the place of its first digit. -/
theorem Normalised.pow_le_toRat {d : Decimal} (h : Normalised d) (hne : d.isZero = false) :
    10 ^ (d.scale - 1) ≤ d.toRat := by
  obtain ⟨places, hplaces⟩ : ∃ places, d.digits.length = places + 1 :=
    Nat.exists_eq_succ_of_ne_zero (by simpa [isZero] using hne)
  have hvalue : ((10 ^ places : Nat) : Rat) ≤ Digits.value d.digits := by
    exact_mod_cast Digits.pow_le_value h.head_ne_zero hplaces
  have hsplit := pow_mul_zpow_sub places (d.scale - 1)
  have hplace : d.scale - 1 - (places : Int) = d.scale - d.digits.length := by
    rw [hplaces]
    push_cast
    ring
  rw [hplace] at hsplit
  rw [← hsplit, toRat]
  exact mul_le_mul_of_nonneg_right hvalue (by positivity)

/-- The scale tells between which powers of ten a decimal lies. -/
theorem Normalised.pow_le_toRat_iff {d : Decimal} (h : Normalised d) (hne : d.isZero = false)
    (place : Int) :
    10 ^ place ≤ d.toRat ↔ place < d.scale := by
  constructor
  · intro hle
    exact (zpow_lt_zpow_iff_right₀ (by norm_num)).mp (lt_of_le_of_lt hle (toRat_lt h.digit_lt))
  · intro hlt
    refine le_trans ?_ (h.pow_le_toRat hne)
    exact zpow_le_zpow_right₀ (by norm_num) (by omega)

end Decimal

end Spreadsheet
