/-
# Rounding quotients

Whole numbers nearest to a quotient, and the nearest number with 53 significant
bits, in exact arithmetic on numerators and denominators.

* `nearestEven_le`, `le_nearestEven` — the rounded quotient is the quotient's
  floor or one more.
* `nearestEven_mul_right` — a whole number rounds to itself.
* `nearestMagnitude_significant` — the result has at most 53 significant bits.
-/

namespace Spreadsheet

-- A power of a natural number is core's, whatever other instances are in scope.
attribute [local instance (high)] instPowNat

/-! ### Whole numbers -/

/-- `num / den` as the nearest whole number, a half going to the even one. -/
def nearestEven (num den : Nat) : Nat :=
  if 2 * (num % den) < den then num / den
  else if den < 2 * (num % den) then num / den + 1
  else num / den + num / den % 2

theorem le_nearestEven (num den : Nat) : num / den ≤ nearestEven num den := by
  unfold nearestEven
  split
  · exact Nat.le_refl _
  · split <;> omega

theorem nearestEven_le (num den : Nat) : nearestEven num den ≤ num / den + 1 := by
  unfold nearestEven
  split
  · omega
  · split <;> omega

/-- A whole number rounds to itself. -/
theorem nearestEven_mul_right (n : Nat) {den : Nat} (hden : 0 < den) :
    nearestEven (n * den) den = n := by
  simp [nearestEven, Nat.mul_mod_left, Nat.mul_div_cancel n hden, hden]

/-- `num / den` as the nearest whole number, a half going up. -/
def nearestUp (num den : Nat) : Nat :=
  (2 * num + den) / (2 * den)

/-- The nearest whole number to a rational number that is not negative, a half
going up. -/
def roundHalfUp (q : Rat) : Nat :=
  nearestUp q.num.toNat q.den

/-- The whole part of a rational number, toward zero. -/
def truncate (q : Rat) : Int :=
  q.num.tdiv q.den

/-! ### Fifty-three significant bits -/

/-- `num / den` as the nearest number with at most 53 significant bits, a half
going to the one whose last bit is zero. -/
def nearestMagnitude (num den : Nat) : Nat :=
  let shift := (num / den).log2 - 52
  nearestEven num (den * 2 ^ shift) * 2 ^ shift

/-- At most 53 bits of the number, from its first to its last, are significant. -/
def Significant53 (n : Nat) : Prop :=
  n % 2 ^ (n.log2 - 52) = 0

instance (n : Nat) : Decidable (Significant53 n) :=
  inferInstanceAs (Decidable (_ = _))

/-- A number of at most 53 bits, moved up by any number of places, has at most
53 significant bits; so has the next power of two. -/
theorem significant53_mul_pow {m : Nat} (hm : m ≤ 2 ^ (53 : Nat)) (shift : Nat) :
    Significant53 (m * 2 ^ shift) := by
  unfold Significant53
  apply Nat.mod_eq_zero_of_dvd
  by_cases hzero : m = 0
  · simp [hzero]
  · have hpos : m * 2 ^ shift ≠ 0 :=
      Nat.mul_ne_zero hzero (Nat.ne_of_gt (Nat.pow_pos (by decide)))
    by_cases hmax : m = 2 ^ (53 : Nat)
    · subst hmax
      rw [← Nat.pow_add, Nat.log2_two_pow]
      exact Nat.pow_dvd_pow 2 (by omega)
    · have hlog : (m * 2 ^ shift).log2 < 53 + shift := by
        rw [Nat.log2_lt hpos, Nat.pow_add]
        exact Nat.mul_lt_mul_of_pos_right (by omega) (Nat.pow_pos (by decide))
      exact Nat.dvd_trans (Nat.pow_dvd_pow 2 (by omega)) (Nat.dvd_mul_left _ _)

/-- A quotient scaled down by its excess over 53 bits has at most 53 bits. -/
theorem div_scaled_lt (num den : Nat) :
    num / (den * 2 ^ ((num / den).log2 - 52)) < 2 ^ (53 : Nat) := by
  rw [← Nat.div_div_eq_div_mul]
  generalize num / den = q
  by_cases hq : q = 0
  · simp [hq]
  · rw [Nat.div_lt_iff_lt_mul (Nat.pow_pos (by decide)), ← Nat.pow_add, ← Nat.log2_lt hq]
    omega

theorem nearestMagnitude_significant (num den : Nat) :
    Significant53 (nearestMagnitude num den) := by
  refine significant53_mul_pow ?_ _
  have := nearestEven_le num (den * 2 ^ ((num / den).log2 - 52))
  have := div_scaled_lt num den
  omega

end Spreadsheet
