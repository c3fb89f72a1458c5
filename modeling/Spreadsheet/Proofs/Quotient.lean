/-
# Rounded quotients

What it means, on rational numbers, that a quotient is rounded to the nearest whole
number.

* `roundHalfUp_eq_iff` — a half goes up.
* `distance_nearestEven` — or else toward the even one.
-/

import Mathlib.Data.Rat.Floor
import Mathlib.Tactic.FieldSimp
import Mathlib.Tactic.Linarith
import Mathlib.Tactic.Positivity
import Mathlib.Tactic.Ring
import Spreadsheet.Numeric.Rounding

namespace Spreadsheet

/-! ### A half goes up -/

/-- A rational number that is not negative is its parts' quotient. -/
theorem toNat_num_div_den {q : Rat} (hq : 0 ≤ q) : (q.num.toNat : Rat) / q.den = q := by
  have hnum : ((q.num.toNat : Int) : Rat) = q.num := by
    rw [Int.toNat_of_nonneg (Rat.num_nonneg.mpr hq)]
  rw [← Int.cast_natCast, hnum, Rat.num_div_den]

/-- The whole number that a rational number is rounded to is the one at most a half
above it, or less than a half below it. -/
theorem roundHalfUp_eq_iff {q : Rat} (hq : 0 ≤ q) {n : Nat} :
    roundHalfUp q = n ↔ (n : Rat) ≤ q + 1 / 2 ∧ q + 1 / 2 < n + 1 := by
  have hpos := q.den_pos
  have hden : (0 : Rat) < 2 * q.den := by
    have : (0 : Rat) < q.den := by exact_mod_cast hpos
    linarith
  have hsum : ((2 * q.num.toNat + q.den : Nat) : Rat) = (q + 1 / 2) * (2 * q.den) := by
    have hquotient := toNat_num_div_den hq
    rw [div_eq_iff (by exact_mod_cast q.den_ne_zero)] at hquotient
    push_cast
    rw [hquotient]
    ring
  have hlow : n * (2 * q.den) ≤ 2 * q.num.toNat + q.den ↔ (n : Rat) ≤ q + 1 / 2 := by
    rw [← Nat.cast_le (α := Rat), hsum]
    push_cast
    exact mul_le_mul_iff_left₀ hden
  have hhigh : 2 * q.num.toNat + q.den < (n + 1) * (2 * q.den) ↔ q + 1 / 2 < n + 1 := by
    rw [← Nat.cast_lt (α := Rat), hsum]
    push_cast
    exact mul_lt_mul_iff_left₀ hden
  have hsucc : (n + 1) * (2 * q.den) = n * (2 * q.den) + 2 * q.den := Nat.succ_mul _ _
  rw [roundHalfUp, nearestUp, Nat.div_eq_iff (by omega), ← hlow, ← hhigh]
  omega

theorem roundHalfUp_natCast (n : Nat) : roundHalfUp (n : Rat) = n := by
  rw [roundHalfUp_eq_iff (Nat.cast_nonneg n)]
  constructor <;> linarith

/-- Rounding does not cross a whole number. -/
theorem le_roundHalfUp {q : Rat} {n : Nat} (h : (n : Rat) ≤ q) : n ≤ roundHalfUp q := by
  have hhigh := ((roundHalfUp_eq_iff (le_trans (Nat.cast_nonneg n) h)).mp rfl).2
  have hlt : (n : Rat) < roundHalfUp q + 1 := by linarith
  exact Nat.lt_succ_iff.mp (by exact_mod_cast hlt)

theorem roundHalfUp_le {q : Rat} (hq : 0 ≤ q) {n : Nat} (h : q ≤ n) : roundHalfUp q ≤ n := by
  have hlow := ((roundHalfUp_eq_iff hq).mp rfl).1
  have hlt : (roundHalfUp q : Rat) < n + 1 := by linarith
  exact Nat.lt_succ_iff.mp (by exact_mod_cast hlt)

/-- What is less than a half is rounded to zero, and nothing else is. -/
theorem roundHalfUp_eq_zero_iff {q : Rat} (hq : 0 ≤ q) : roundHalfUp q = 0 ↔ q < 1 / 2 := by
  rw [roundHalfUp_eq_iff hq, Nat.cast_zero]
  constructor
  · rintro ⟨-, hhigh⟩
    linarith
  · intro hlt
    constructor <;> linarith

/-- Rounding errs by a half at most. -/
theorem distance_roundHalfUp {q : Rat} (hq : 0 ≤ q) : |(roundHalfUp q : Rat) - q| ≤ 1 / 2 := by
  obtain ⟨hlow, hhigh⟩ := (roundHalfUp_eq_iff hq).mp rfl
  rw [abs_le]
  constructor <;> linarith

/-! ### A half goes to the even number -/

/-- A quotient is its whole part and the rest in parts of the divisor. -/
theorem quotient_eq_add_rest (num : Nat) {den : Nat} (hden : 0 < den) :
    (num : Rat) / den = (num / den : Nat) + (num % den : Nat) / (den : Rat) := by
  have hpos : (den : Rat) ≠ 0 := by exact_mod_cast (Nat.ne_of_gt hden)
  have hdivmod : (num : Rat) = (num / den : Nat) * den + (num % den : Nat) := by
    exact_mod_cast (Nat.div_add_mod' num den).symm
  rw [div_eq_iff hpos, add_mul, div_mul_cancel₀ _ hpos]
  exact hdivmod

/-- Rounding errs by a half at most, and by a half only toward an even number. -/
theorem distance_nearestEven (num : Nat) {den : Nat} (hden : 0 < den) :
    |(num : Rat) / den - nearestEven num den| ≤ 1 / 2 ∧
      (|(num : Rat) / den - nearestEven num den| = 1 / 2 → nearestEven num den % 2 = 0) := by
  have hpos : (0 : Rat) < den := by exact_mod_cast hden
  rw [quotient_eq_add_rest num hden]
  have hnonneg : (0 : Rat) ≤ (num % den : Nat) / (den : Rat) := by positivity
  have hone : ((num % den : Nat) : Rat) / den < 1 := by
    rw [div_lt_one hpos]
    exact_mod_cast Nat.mod_lt num hden
  have hhalf : ∀ {m : Nat}, 2 * m < den ↔ (m : Rat) / den < 1 / 2 := by
    intro m
    rw [div_lt_div_iff₀ hpos (by norm_num), one_mul, mul_comm]
    exact_mod_cast Iff.rfl
  have hhalf' : ∀ {m : Nat}, den < 2 * m ↔ 1 / 2 < (m : Rat) / den := by
    intro m
    rw [div_lt_div_iff₀ (by norm_num) hpos, one_mul, mul_comm (m : Rat)]
    exact_mod_cast Iff.rfl
  unfold nearestEven
  generalize hrest : ((num % den : Nat) : Rat) / den = rest at hnonneg hone
  split
  · rename_i hlow
    rw [hhalf, hrest] at hlow
    rw [add_sub_cancel_left, abs_of_nonneg hnonneg]
    exact ⟨le_of_lt hlow, fun heq => absurd heq (ne_of_lt hlow)⟩
  · rename_i hlow
    rw [hhalf, hrest] at hlow
    split
    · rename_i hhigh
      rw [hhalf', hrest] at hhigh
      have hdistance : |((num / den : Nat) : Rat) + rest - ((num / den + 1 : Nat) : Rat)| =
          1 - rest := by
        push_cast
        rw [abs_of_nonpos (by linarith)]
        ring
      rw [hdistance]
      exact ⟨by linarith, fun heq => by linarith⟩
    · rename_i hhigh
      rw [hhalf', hrest] at hhigh
      have hrestHalf : rest = 1 / 2 := by linarith
      refine ⟨?_, fun _ => by omega⟩
      rcases Nat.mod_two_eq_zero_or_one (num / den) with hparity | hparity
      · rw [hparity, Nat.add_zero, add_sub_cancel_left, abs_of_nonneg hnonneg]
        linarith
      · rw [hparity]
        push_cast
        rw [abs_of_nonpos (by linarith)]
        linarith

end Spreadsheet
