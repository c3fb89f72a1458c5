/-
# Decimals survive rounding

A decimal of at most fifteen digits is found again in the floating point number that it
is rounded to: the number is so near that no other decimal of fifteen digits is nearer.
This holds of all decimals in the range of 53 places, and of every decimal that a number
is shown from, because a number is at least as near to its own decimal.

* `nearestDecimal_of_near` — a decimal near to a number is the nearest, also across a
  power of ten.
* `Decimal.ofBinary64_ofRat_of_leastNormal_le` — decimals in the range of 53 places.
* `Decimal.ofBinary64_ofRat_ofBinary64` — decimals that come from a number.
-/

import Spreadsheet.Proofs.NearestBinary64
import Spreadsheet.Proofs.NormalForm
import Spreadsheet.Proofs.SignificantDigits

namespace Spreadsheet

-- A power of a natural number is core's, whatever other instances are in scope.
attribute [local instance (high)] instPowNat

/-! ### Across a power of ten -/

theorem pow_pred_mul_zpow_sub {count : Nat} (hcount : 0 < count) (place : Int) :
    ((10 ^ (count - 1) : Nat) : Rat) * 10 ^ (place - count) = 10 ^ (place - 1) :=
  pow_mul_zpow (by omega)

theorem zpow_step (place : Int) (count : Nat) :
    (10 : Rat) ^ (place + 1 - count) = 10 * 10 ^ (place - count) := by
  rw [add_sub_right_comm, zpow_add_one₀ (by norm_num), mul_comm]

/-- Multiples of a step are a step apart. -/
theorem mul_add_step_le {step : Rat} (hstep : 0 < step) {m n : Nat} (h : m < n) :
    m * step + step ≤ n * step := by
  have hle : ((m : Rat) + 1) * step ≤ n * step :=
    mul_le_mul_of_nonneg_right (by exact_mod_cast h) (le_of_lt hstep)
  linarith

/-- The nearest decimal of a number lies between the same powers of ten, or is one of them. -/
theorem multiple_bounds {count : Nat} (hcount : 0 < count) {q : Rat} {place : Int} {n : Nat}
    (hlow : 10 ^ (place - 1) ≤ q) (hhigh : q < 10 ^ place)
    (hnear : |q - n * 10 ^ (place - count)| ≤ 10 ^ (place - count) / 2) :
    10 ^ (place - 1) ≤ n * (10 : Rat) ^ (place - count) ∧
      n * (10 : Rat) ^ (place - count) ≤ 10 ^ place := by
  have hstep : (0 : Rat) < 10 ^ (place - count) := by positivity
  obtain ⟨hdown, hup⟩ := abs_le.mp hnear
  rw [← pow_pred_mul_zpow_sub hcount place] at hlow ⊢
  rw [← pow_mul_zpow_sub count place] at hhigh ⊢
  constructor
  · rcases Nat.lt_or_ge n (10 ^ (count - 1)) with hless | hmore
    · have := mul_add_step_le hstep hless
      linarith
    · exact mul_le_mul_of_nonneg_right (by exact_mod_cast hmore) (le_of_lt hstep)
  · rcases Nat.lt_or_ge (10 ^ count) n with hmore | hless
    · have := mul_add_step_le hstep hmore
      linarith
    · exact mul_le_mul_of_nonneg_right (by exact_mod_cast hless) (le_of_lt hstep)

/-- A number that has so many digits is its own nearest decimal. -/
theorem nearestDecimal_self {count : Nat} (hcount : 0 < count) {n : Nat}
    (hleast : 10 ^ (count - 1) ≤ n) (hlt : n < 10 ^ count) (place : Int) :
    NearestDecimal count (n * 10 ^ (place - count)) (n * 10 ^ (place - count)) := by
  have hstep : (0 : Rat) < 10 ^ (place - count) := by positivity
  have hsame : |(n : Rat) * 10 ^ (place - count) - n * 10 ^ (place - count)| = 0 := by
    rw [sub_self, abs_zero]
  refine .nearest place n ?_ ?_ ?_ fun htie => ?_
  · rw [← pow_pred_mul_zpow_sub hcount place]
    exact mul_le_mul_of_nonneg_right (by exact_mod_cast hleast) (le_of_lt hstep)
  · rw [← pow_mul_zpow_sub count place]
    exact mul_lt_mul_of_pos_right (by exact_mod_cast hlt) hstep
  · rw [hsame]
    positivity
  · rw [hsame] at htie
    exact absurd htie (ne_of_lt (by positivity))

/-- Only zero is nearest to zero. -/
theorem NearestDecimal.eq_zero {count : Nat} (hcount : 0 < count) {q : Rat}
    (h : NearestDecimal count q 0) : q = 0 := by
  generalize hd : (0 : Rat) = d at h
  cases h with
  | zero => rfl
  | nearest place n hlow hhigh hnear _ =>
    have hbound := (multiple_bounds hcount hlow hhigh hnear).1
    rw [← hd] at hbound
    exact absurd hbound (not_le.mpr (by positivity))

/-- A power of ten is the nearest decimal of what lies less than half a place above it. -/
theorem nearestDecimal_pow_of_le {count : Nat} (hcount : 0 < count) {q : Rat} {place : Int}
    (hlow : 10 ^ place ≤ q) (hnear : |q - 10 ^ place| < 10 ^ (place + 1 - count) / 2) :
    NearestDecimal count q (10 ^ place) := by
  obtain ⟨c, rfl⟩ := Nat.exists_eq_succ_of_ne_zero (Nat.ne_of_gt hcount)
  have hplaces : place + 1 - ((c + 1 : Nat) : Int) = place - c := by
    push_cast
    ring
  have hstep : (10 : Rat) ^ (place - c) ≤ 10 ^ place :=
    zpow_le_zpow_right₀ (by norm_num) (by omega)
  have hpow := pow_mul_zpow_sub c place
  rw [hplaces] at hnear
  rw [← hpow, ← hplaces]
  refine .nearest (place + 1) (10 ^ c) ?_ ?_ ?_ fun heq => ?_
  · rw [add_sub_cancel_right]
    exact hlow
  · have hq := (abs_lt.mp hnear).2
    have hpos : (0 : Rat) < 10 ^ place := by positivity
    rw [zpow_add_one₀ (by norm_num)]
    linarith
  · rw [hplaces, hpow]
    exact le_of_lt hnear
  · rw [hplaces, hpow] at heq
    exact absurd heq (ne_of_lt hnear)

/-- A power of ten is the nearest decimal of what lies at most half a place below it. -/
theorem nearestDecimal_pow_of_lt {count : Nat} (hcount : 0 < count) {q : Rat} {place : Int}
    (hhigh : q < 10 ^ place) (hnear : |q - 10 ^ place| ≤ 10 ^ (place - count) / 2) :
    NearestDecimal count q (10 ^ place) := by
  have hstep : (10 : Rat) ^ (place - count) ≤ 10 ^ (place - 1) :=
    zpow_le_zpow_right₀ (by norm_num) (by omega)
  have hpow := pow_mul_zpow_sub count place
  rw [← hpow]
  refine .nearest place (10 ^ count) ?_ hhigh ?_ fun _ => ?_
  · have hq := (abs_le.mp hnear).1
    have htenth : (10 : Rat) ^ place = 10 * 10 ^ (place - 1) := by
      rw [← zpow_one_add₀ (by norm_num), add_sub_cancel]
    linarith
  · rw [hpow]
    exact hnear
  · rw [← Nat.succ_pred_eq_of_pos hcount, Nat.pow_succ]
    omega

/-- **A decimal near to a number is the nearest decimal**, when it is as near as half of
its last place, or nearer where the last place of the number is smaller, just below a
power of ten. -/
theorem nearestDecimal_of_near {count : Nat} (hcount : 0 < count) {q : Rat} {place : Int} {n : Nat}
    (hlow : 10 ^ (place - 1) ≤ n * (10 : Rat) ^ (place - count))
    (hhigh : n * (10 : Rat) ^ (place - count) ≤ 10 ^ place)
    (hnear : |q - n * 10 ^ (place - count)| ≤ 10 ^ (place - count) / 2)
    (heven : |q - n * 10 ^ (place - count)| = 10 ^ (place - count) / 2 → n % 2 = 0)
    (hbelow : q < 10 ^ (place - 1) → n * (10 : Rat) ^ (place - count) = 10 ^ (place - 1) →
      |q - 10 ^ (place - 1)| ≤ 10 ^ (place - 1 - count) / 2) :
    NearestDecimal count q (n * 10 ^ (place - count)) := by
  have hstep : (0 : Rat) < 10 ^ (place - count) := by positivity
  -- A multiple of the last place on the other side of a power of ten is that power.
  obtain ⟨hdown, hup⟩ := abs_le.mp hnear
  rcases lt_or_ge q (10 ^ (place - 1)) with hlt | hge
  · have hpower : n * (10 : Rat) ^ (place - count) = 10 ^ (place - 1) := by
      rw [← pow_pred_mul_zpow_sub hcount place] at hlt hlow ⊢
      rcases Nat.lt_or_ge (10 ^ (count - 1)) n with hmore | hless
      · have := mul_add_step_le hstep hmore
        linarith
      · refine le_antisymm (mul_le_mul_of_nonneg_right ?_ (le_of_lt hstep)) hlow
        exact_mod_cast hless
    rw [hpower]
    exact nearestDecimal_pow_of_lt hcount hlt (hbelow hlt hpower)
  · rcases lt_or_ge q (10 ^ place) with hlt | htop
    · exact .nearest place n hge hlt hnear heven
    · have hpower : n * (10 : Rat) ^ (place - count) = 10 ^ place := by
        rw [← pow_mul_zpow_sub count place] at htop hhigh ⊢
        rcases Nat.lt_or_ge n (10 ^ count) with hless | hmore
        · have := mul_add_step_le hstep hless
          linarith
        · refine le_antisymm hhigh (mul_le_mul_of_nonneg_right ?_ (le_of_lt hstep))
          exact_mod_cast hmore
      rw [hpower] at hnear ⊢
      refine nearestDecimal_pow_of_le hcount htop (lt_of_le_of_lt hnear ?_)
      rw [zpow_step]
      linarith

namespace Decimal

/-! ### The decimal of a floating point number -/

/-- The decimal of a floating point number is the normal form of the nearest one. -/
theorem ofBinary64_eq {d : Decimal} (hd : Normalised d) {x : Binary64}
    (h : NearestDecimal shownDigits x.abs.toRat d.toRat) : ofBinary64 x = d :=
  (normalised_ofBinary64 x).eq_of_toRat_eq hd ((nearestDecimal_ofBinary64 x).unique h)

/-- What is rounded to zero is shown from zero. -/
theorem ofBinary64_of_toRat_eq_zero {x : Binary64} (h : x.toRat = 0) : ofBinary64 x = zero := by
  refine ofBinary64_eq normalised_zero ?_
  rw [Binary64.abs_toRat_eq, h, abs_zero, toRat_of_isZero rfl]
  exact .zero

/-- The decimal of a number is zero only for zero. -/
theorem isZero_ofBinary64_iff {x : Binary64} : (ofBinary64 x).isZero = true ↔ x.toRat = 0 := by
  constructor
  · intro hzero
    have hnearest := nearestDecimal_ofBinary64 x
    rw [toRat_of_isZero hzero, Binary64.abs_toRat_eq] at hnearest
    exact abs_eq_zero.mp (hnearest.eq_zero (by decide))
  · intro hvalue
    rw [ofBinary64_of_toRat_eq_zero hvalue]
    rfl

/-- The decimal of a floating point number has at most fifteen digits. -/
theorem length_digits_ofBinary64_le (x : Binary64) :
    (ofBinary64 x).digits.length ≤ shownDigits := by
  have hdecimal := nearestDecimal_ofBinary64 x
  generalize hvalue : (ofBinary64 x).toRat = value at hdecimal
  generalize x.abs.toRat = magnitude at hdecimal
  cases hdecimal with
  | zero =>
    rw [toRat_eq_zero_iff (normalised_ofBinary64 x), isZero_iff] at hvalue
    rw [hvalue]
    exact Nat.zero_le _
  | nearest place n hlow hhigh hnear _ =>
    refine (normalised_ofBinary64 x).length_digits_le (by decide) hvalue ?_
    have htop := (multiple_bounds (by decide) hlow hhigh hnear).2
    rw [← pow_mul_zpow_sub shownDigits place] at htop
    exact_mod_cast le_of_mul_le_mul_right htop (by positivity)

end Decimal

namespace Binary64

/-! ### The error beside a power of ten -/

theorem leastNormal_pos : 0 < leastNormal := by
  have hpos : (0 : Rat) < unitsInOne := by exact_mod_cast unitsInOne_pos
  exact div_pos (by norm_num) hpos

/-- In the range of 53 places the error is a small part of the fifteenth digit. -/
theorem distance_lt_of_leastNormal_le {q : Rat} (h : (ofRat q).isFinite = true)
    (hlow : leastNormal ≤ |q|) {place : Int} (hhigh : |q| ≤ 10 ^ place) :
    |(|(ofRat q).toRat|) - (|q|)| < 10 ^ (place - 15) / 2 := by
  have hdistance := distance_ofRat_max h
  rw [max_eq_left hlow] at hdistance
  have hsplit := pow_mul_zpow_sub 15 place
  push_cast at hsplit
  have hpos : (0 : Rat) < 10 ^ (place - 15) := by positivity
  calc |(|(ofRat q).toRat|) - (|q|)| ≤ |(ofRat q).toRat - q| := abs_abs_sub_abs_le _ _
    _ ≤ |q| / 2 ^ 53 := hdistance
    _ ≤ 10 ^ place / 2 ^ 53 := div_le_div_of_nonneg_right hhigh (by norm_num)
    _ = 10 ^ (place - 15) * (10 ^ 15 / 2 ^ 53) := by
      rw [← hsplit]
      ring
    _ < 10 ^ (place - 15) * (1 / 2) := mul_lt_mul_of_pos_left (by norm_num) hpos
    _ = 10 ^ (place - 15) / 2 := by ring

/-- Below the range of 53 places the error is half a unit. -/
theorem distance_le_half_unit {q : Rat} (h : (ofRat q).isFinite = true)
    (hhigh : |q| ≤ leastNormal) :
    |(|(ofRat q).toRat|) - (|q|)| ≤ 1 / unitsInOne / 2 := by
  have hdistance := distance_ofRat_max h
  rw [max_eq_right hhigh, leastNormal] at hdistance
  calc |(|(ofRat q).toRat|) - (|q|)| ≤ |(ofRat q).toRat - q| := abs_abs_sub_abs_le _ _
    _ ≤ 2 ^ 52 / unitsInOne / 2 ^ 53 := hdistance
    _ = 1 / unitsInOne / 2 := by ring

/-- Different magnitudes are a unit apart. -/
theorem unit_le_sub {x y : Binary64} (hx : x.isFinite = true) (hy : y.isFinite = true)
    (h : |y.toRat| < |x.toRat|) : 1 / unitsInOne ≤ |x.toRat| - |y.toRat| := by
  have hpos : (0 : Rat) < unitsInOne := by exact_mod_cast unitsInOne_pos
  obtain ⟨m, -, hm⟩ := exists_units hx
  obtain ⟨n, -, hn⟩ := exists_units hy
  rw [hm, hn, div_lt_div_iff_of_pos_right hpos] at h
  rw [hm, hn, ← sub_div, div_le_div_iff_of_pos_right hpos]
  have hlt : n < m := by exact_mod_cast h
  have hle : ((n + 1 : Nat) : Rat) ≤ m := by exact_mod_cast hlt
  push_cast at hle
  linarith

/-- A unit lies between two powers of ten. -/
theorem unit_bounds : (10 : Rat) ^ (-324 : Int) < 1 / unitsInOne ∧
    1 / (unitsInOne : Rat) ≤ 10 ^ (-323 : Int) := by
  obtain ⟨k, hk, hlow, hhigh⟩ : ∃ k : Nat, k = 323 ∧ 10 ^ k ≤ unitsInOne ∧
      unitsInOne < 10 ^ (k + 1) := by
    refine ⟨323, rfl, ?_⟩
    unfold unitsInOne
    decide +kernel
  have hpos : (0 : Rat) < unitsInOne := by exact_mod_cast unitsInOne_pos
  have hplace : (-323 : Int) = -(k : Int) := by omega
  have hnext : (-324 : Int) = -((k + 1 : Nat) : Int) := by omega
  rw [hplace, hnext, zpow_neg, zpow_neg, zpow_natCast, zpow_natCast, ← one_div, ← one_div]
  constructor
  · refine one_div_lt_one_div_of_lt hpos ?_
    exact_mod_cast hhigh
  · refine one_div_le_one_div_of_le (by positivity) ?_
    exact_mod_cast hlow

/-- The one power of ten below the range of 53 places that is within a unit of the next
one is rounded up. -/
theorem pow_le_ofRat_pow {q : Rat} (h : |q| = 10 ^ (-309 : Int)) :
    10 ^ (-309 : Int) ≤ |(ofRat q).toRat| := by
  rcases (abs_eq (by positivity)).mp h with rfl | rfl
  · decide +kernel
  · decide +kernel

/-- Beside a power of ten that a number is shown as, the number that this power is
rounded to lies within half of the fifteenth digit below it. -/
theorem distance_ofRat_below {x : Binary64} (hx : x.isFinite = true) {q : Rat}
    (h : (ofRat q).isFinite = true) {place : Int} (hq : |q| = 10 ^ place)
    (hnear : |x.toRat| - 10 ^ place ≤ 10 ^ (place + 1 - 15) / 2)
    (hleast : |(|(ofRat q).toRat|) - (|q|)| ≤ |x.toRat| - 10 ^ place)
    (hbelow : |(ofRat q).toRat| < 10 ^ place) :
    |(|(ofRat q).toRat|) - (|q|)| ≤ 10 ^ (place - 15) / 2 := by
  rcases le_total leastNormal (|q|) with hnormal | hsubnormal
  · exact le_of_lt (distance_lt_of_leastNormal_le h hnormal (le_of_eq hq))
  · obtain ⟨hunitLow, hunitHigh⟩ := unit_bounds
    have hdown : 10 ^ place - |(ofRat q).toRat| ≤ |x.toRat| - 10 ^ place := by
      rw [hq] at hleast
      linarith [neg_abs_le (|(ofRat q).toRat| - 10 ^ place)]
    have hunit : (1 : Rat) / unitsInOne ≤ 10 ^ (place + 1 - 15) := by
      have hstep := unit_le_sub hx h (by linarith)
      linarith
    -- A unit is more than ten times the smallest places that are left.
    have hlow : -309 ≤ place := by
      have hlt := (zpow_lt_zpow_iff_right₀ (by norm_num : (1 : Rat) < 10)).mp
        (lt_of_lt_of_le hunitLow hunit)
      omega
    have hne : place ≠ -309 := by
      rintro rfl
      exact absurd (pow_le_ofRat_pow hq) (not_le.mpr hbelow)
    calc |(|(ofRat q).toRat|) - (|q|)| ≤ 1 / unitsInOne / 2 := distance_le_half_unit h hsubnormal
      _ ≤ 10 ^ (-323 : Int) / 2 := div_le_div_of_nonneg_right hunitHigh (by norm_num)
      _ ≤ 10 ^ (place - 15) / 2 := div_le_div_of_nonneg_right
        (zpow_le_zpow_right₀ (by norm_num) (by omega)) (by norm_num)

end Binary64

namespace Decimal

/-! ### Decimals that survive -/

/-- **A decimal in the range of 53 places survives rounding.** -/
theorem ofBinary64_ofRat_of_leastNormal_le {d : Decimal} (hd : Normalised d)
    (hlength : d.digits.length ≤ shownDigits) {q : Rat} (hq : |q| = d.toRat)
    (hlow : Binary64.leastNormal ≤ d.toRat) (h : (Binary64.ofRat q).isFinite = true) :
    ofBinary64 (Binary64.ofRat q) = d := by
  have hne : d.isZero = false := by
    rw [Bool.eq_false_iff, Ne, ← toRat_eq_zero_iff hd]
    exact ne_of_gt (lt_of_lt_of_le Binary64.leastNormal_pos hlow)
  have hbottom := hd.pow_le_toRat hne
  have htop := le_of_lt (toRat_lt hd.digit_lt)
  obtain ⟨n, hn⟩ := exists_multiple hlength
  refine ofBinary64_eq hd ?_
  rw [Binary64.abs_toRat_eq]
  rw [← hq] at hlow hbottom htop hn ⊢
  have hnear := Binary64.distance_lt_of_leastNormal_le h hlow htop
  rw [hn] at hbottom htop hnear ⊢
  refine nearestDecimal_of_near (by decide) hbottom htop (le_of_lt hnear)
    (fun heq => absurd heq (ne_of_lt hnear)) fun _ hpower => ?_
  rw [← hn] at hpower
  rw [← hpower]
  exact le_of_lt (Binary64.distance_lt_of_leastNormal_le h hlow (le_of_eq hpower))

/-- **The decimal of a number survives rounding**, whatever its range. -/
theorem ofBinary64_ofRat_ofBinary64 {x : Binary64} (hx : x.isFinite = true) {q : Rat}
    (hq : |q| = (ofBinary64 x).toRat) (hsign : |x.toRat - q| = |(|x.toRat|) - (|q|)|)
    (h : (Binary64.ofRat q).isFinite = true) :
    ofBinary64 (Binary64.ofRat q) = ofBinary64 x := by
  have hdecimal := nearestDecimal_ofBinary64 x
  have hleast : |(|(Binary64.ofRat q).toRat|) - (|q|)| ≤ |(|x.toRat|) - (|q|)| := by
    rw [← hsign]
    exact le_trans (abs_abs_sub_abs_le _ _) ((Binary64.isNearest_ofRat h).le_distance x hx)
  refine ofBinary64_eq (normalised_ofBinary64 x) ?_
  rw [Binary64.abs_toRat_eq] at hdecimal ⊢
  rw [← hq] at hdecimal ⊢
  generalize hv : |x.toRat| = v at hdecimal hleast
  generalize hp : |q| = p at hdecimal hleast
  cases hdecimal with
  | zero =>
    rw [sub_zero, sub_zero, abs_zero, abs_abs, abs_nonpos_iff] at hleast
    rw [hleast, abs_zero]
    exact .zero
  | nearest place n hlow hhigh hnear heven =>
    obtain ⟨hbottom, htop⟩ := multiple_bounds (by decide) hlow hhigh hnear
    refine nearestDecimal_of_near (by decide) hbottom htop (le_trans hleast hnear)
      (fun heq => heven (le_antisymm hnear (heq ▸ hleast))) fun hbelow hpower => ?_
    rw [hpower] at hp hleast
    rw [abs_of_nonneg (sub_nonneg.mpr hlow)] at hleast
    rw [hpower, abs_of_nonneg (sub_nonneg.mpr hlow)] at hnear
    have hplace : place - 1 + 1 - 15 = place - 15 := by ring
    rw [← hp]
    refine Binary64.distance_ofRat_below hx h hp ?_ ?_ hbelow
    · rw [hv, hplace]
      exact hnear
    · rw [hv, hp]
      exact hleast

end Decimal

end Spreadsheet
