/-
# Rounding is to the nearest number

Of all finite floating point numbers the one that a rational number is rounded to is the
nearest; of two that are equally near it is the one whose last place is zero.

* `Binary64.isNearest_ofRat` — rounding finds the nearest number.
* `Binary64.le_toRat_ofRat`, `Binary64.toRat_ofRat_mono` — rounding keeps the order.
* `Binary64.isFinite_ofRat` — numbers up to the greatest finite one stay finite.
* `Binary64.distance_ofRat_max` — the error, relative to the number or to the least
  magnitude of 53 places.
-/

import Spreadsheet.Proofs.Binary64Rounding

namespace Spreadsheet

-- A power of a natural number is core's, whatever other instances are in scope.
attribute [local instance (high)] instPowNat

/-! ### Whole numbers -/

/-- A whole number that is at most a half away, and by a half only if it is even, is the
nearest one. -/
theorem le_distance_of_near {q : Rat} {m : Nat} (hnear : |q - m| ≤ 1 / 2)
    (heven : |q - m| = 1 / 2 → m % 2 = 0) (k : Nat) :
    |q - m| ≤ |q - k| ∧ (|q - k| = |q - m| → k = m ∨ m % 2 = 0) := by
  by_cases hk : k = m
  · subst hk
    exact ⟨le_refl _, fun _ => Or.inl rfl⟩
  · have hapart : (1 : Rat) ≤ |(k : Rat) - m| := by
      have hint : (1 : Int) ≤ |(k : Int) - m| := Int.one_le_abs (by omega)
      exact_mod_cast hint
    have hsum : |(k : Rat) - m| ≤ |q - m| + |q - k| := by
      rw [abs_sub_comm q k, add_comm]
      exact abs_sub_le (k : Rat) q m
    refine ⟨by linarith, fun heq => Or.inr (heven ?_)⟩
    linarith

/-! ### Fifty-three places -/

/-- The last of the 53 places of a magnitude is zero. -/
def EvenLastPlace (units : Nat) : Prop :=
  units / 2 ^ (units.log2 - 52) % 2 = 0

/-- A number of 53 places is a multiple of a last place, or it lies below all numbers
that have this last place. -/
theorem multiple_or_lt_of_significant {z : Nat} (h : Significant53 z) (shift : Nat) :
    (∃ k, z = k * 2 ^ shift) ∨ 0 < shift ∧ z < 2 ^ (52 + shift) := by
  by_cases hplaces : shift ≤ z.log2 - 52
  · have hdvd := Nat.dvd_trans (Nat.pow_dvd_pow 2 hplaces) (Nat.dvd_of_mod_eq_zero h)
    exact Or.inl ⟨z / 2 ^ shift, (Nat.div_mul_cancel hdvd).symm⟩
  · refine Or.inr ⟨by omega, ?_⟩
    by_cases hzero : z = 0
    · subst hzero
      exact Nat.two_pow_pos _
    · exact (Nat.log2_lt hzero).mp (by omega)

/-- The 53 places of a number are those it is made of. -/
theorem div_places_mul_pow {m shift : Nat} (hlow : 0 < shift → 2 ^ (52 : Nat) ≤ m)
    (hhigh : m < 2 ^ (53 : Nat)) :
    m * 2 ^ shift / 2 ^ ((m * 2 ^ shift).log2 - 52) = m := by
  by_cases hshift : shift = 0
  · subst hshift
    rw [Nat.pow_zero, Nat.mul_one]
    by_cases hzero : m = 0
    · subst hzero
      rfl
    · have hlog := (Nat.log2_lt hzero).mpr hhigh
      rw [Nat.sub_eq_zero_of_le (by omega), Nat.pow_zero, Nat.div_one]
  · have hm := hlow (by omega)
    have hlog : (m * 2 ^ shift).log2 = 52 + shift := by
      have hpos : m * 2 ^ shift ≠ 0 :=
        Nat.mul_ne_zero (by omega) (Nat.ne_of_gt (Nat.two_pow_pos shift))
      refine (Nat.log2_eq_iff hpos).mpr ⟨?_, ?_⟩
      · rw [Nat.pow_add]
        exact Nat.mul_le_mul_right _ hm
      · rw [Nat.add_right_comm, Nat.pow_add]
        exact Nat.mul_lt_mul_of_pos_right hhigh (Nat.two_pow_pos shift)
    rw [hlog, Nat.add_sub_cancel_left, Nat.mul_div_cancel _ (Nat.two_pow_pos shift)]

/-- The last place of a number of 53 places, or of the power of two above them. -/
theorem evenLastPlace_mul_pow {m shift : Nat} (hlow : 0 < shift → 2 ^ (52 : Nat) ≤ m)
    (hhigh : m ≤ 2 ^ (53 : Nat)) (heven : m % 2 = 0) : EvenLastPlace (m * 2 ^ shift) := by
  unfold EvenLastPlace
  by_cases hmax : m = 2 ^ (53 : Nat)
  · subst hmax
    rw [← Nat.pow_add, Nat.log2_two_pow, Nat.pow_div (by omega) (by decide)]
    have hplaces : 53 + shift - (53 + shift - 52) = 52 := by omega
    rw [hplaces]
  · rw [div_places_mul_pow hlow (by omega)]
    exact heven

/-- Among the multiples of a last place, the rounded quotient is the nearest. -/
theorem le_distance_multiple {q : Rat} {m shift : Nat} (hnear : |q / 2 ^ shift - m| ≤ 1 / 2)
    (heven : |q / 2 ^ shift - m| = 1 / 2 → m % 2 = 0) (k : Nat) :
    |((m * 2 ^ shift : Nat) : Rat) - q| ≤ |((k * 2 ^ shift : Nat) : Rat) - q| ∧
      (|((k * 2 ^ shift : Nat) : Rat) - q| = |((m * 2 ^ shift : Nat) : Rat) - q| →
        k * 2 ^ shift = m * 2 ^ shift ∨ m % 2 = 0) := by
  have hstep : (0 : Rat) < 2 ^ shift := by positivity
  have hscale : ∀ n : Nat, |((n * 2 ^ shift : Nat) : Rat) - q| =
      |q / 2 ^ shift - n| * 2 ^ shift := by
    intro n
    have hdifference : q - ((n * 2 ^ shift : Nat) : Rat) = (q / 2 ^ shift - n) * 2 ^ shift := by
      push_cast
      rw [sub_mul, div_mul_cancel₀ _ (ne_of_gt hstep)]
    rw [abs_sub_comm, hdifference, abs_mul, abs_of_pos hstep]
  obtain ⟨hk, hkEven⟩ := le_distance_of_near hnear heven k
  rw [hscale, hscale]
  refine ⟨mul_le_mul_of_nonneg_right hk (le_of_lt hstep), fun heq => ?_⟩
  rcases hkEven (mul_right_cancel₀ (ne_of_gt hstep) heq) with rfl | hmod
  · exact Or.inl rfl
  · exact Or.inr hmod

/-- When places are cut off, 53 places are left. -/
theorem pow_le_of_shift {n : Nat} (h : 0 < n.log2 - 52) : 2 ^ (52 + (n.log2 - 52)) ≤ n := by
  have hne : n ≠ 0 := by
    rintro rfl
    exact absurd h (by decide)
  have hplaces : 52 + (n.log2 - 52) = n.log2 := by omega
  rw [hplaces]
  exact Nat.log2_self_le hne

/-- **Rounding to 53 places finds the nearest number of 53 places**, and of two that are
equally near the one whose last place is zero. -/
theorem le_distance_nearestMagnitude {num den : Nat} (hden : 0 < den) {z : Nat}
    (hz : Significant53 z) :
    |(nearestMagnitude num den : Rat) - num / den| ≤ |(z : Rat) - num / den| ∧
      (|(z : Rat) - num / den| = |(nearestMagnitude num den : Rat) - num / den| →
        z = nearestMagnitude num den ∨ EvenLastPlace (nearestMagnitude num den)) := by
  have hfloor : ((num / den : Nat) : Rat) ≤ num / den := by
    rw [le_div_iff₀ (by exact_mod_cast hden)]
    exact_mod_cast Nat.div_mul_le_self num den
  have hbottom := pow_le_of_shift (n := num / den)
  have hhigh := div_scaled_lt num den
  rw [nearestMagnitude]
  generalize (num / den).log2 - 52 = shift at hbottom hhigh
  obtain ⟨hnear, heven⟩ := distance_nearestEven num (Nat.mul_pos hden (Nat.two_pow_pos shift))
  have hle := nearestEven_le num (den * 2 ^ shift)
  have hge := le_nearestEven num (den * 2 ^ shift)
  have hquotient : (num : Rat) / (den * 2 ^ shift : Nat) = num / den / 2 ^ shift := by
    push_cast
    rw [div_div]
  rw [hquotient] at hnear heven
  generalize nearestEven num (den * 2 ^ shift) = m at hnear heven hle hge
  have hlow : 0 < shift → 2 ^ (52 : Nat) ≤ m := by
    intro hpos
    refine Nat.le_trans ?_ hge
    rw [← Nat.div_div_eq_div_mul, Nat.le_div_iff_mul_le (Nat.two_pow_pos shift), ← Nat.pow_add]
    exact hbottom hpos
  have hmultiple := le_distance_multiple hnear heven
  rcases multiple_or_lt_of_significant hz shift with ⟨k, rfl⟩ | ⟨hpos, hlt⟩
  · obtain ⟨hdistance, htie⟩ := hmultiple k
    exact ⟨hdistance, fun heq => (htie heq).imp_right (evenLastPlace_mul_pow hlow (by omega))⟩
  · -- Below its binade a number is farther away than the power of two at the bottom.
    have hdistance := (hmultiple (2 ^ (52 : Nat))).1
    rw [← Nat.pow_add] at hdistance
    have hpower : ((2 ^ (52 + shift) : Nat) : Rat) ≤ num / den :=
      le_trans (by exact_mod_cast hbottom hpos) hfloor
    have hbelow : (z : Rat) < (2 ^ (52 + shift) : Nat) := by exact_mod_cast hlt
    rw [abs_of_nonpos (by linarith : ((2 ^ (52 + shift) : Nat) : Rat) - num / den ≤ 0)]
      at hdistance
    rw [abs_of_nonpos (by linarith : (z : Rat) - num / den ≤ 0)]
    exact ⟨by linarith, fun heq => by linarith⟩

/-! ### Floating point numbers -/

namespace Binary64

/-- The number is the nearest finite one to a rational number, and if another one is
equally near, its own last place is zero. -/
structure IsNearest (q : Rat) (x : Binary64) : Prop where
  isFinite : x.isFinite = true
  le_distance : ∀ y : Binary64, y.isFinite = true → |x.toRat - q| ≤ |y.toRat - q|
  evenLastPlace : ∀ y : Binary64, y.isFinite = true → y.toRat ≠ x.toRat →
    |y.toRat - q| = |x.toRat - q| → EvenLastPlace x.signedUnits.natAbs

/-- The magnitude of a finite number, from its number of units. -/
theorem abs_toRat_finite (negative : Bool) (units : Nat) (h : Representable units) :
    |(finite negative units h).toRat| = (units : Rat) / unitsInOne := by
  have hnonneg : (0 : Rat) ≤ (units : Rat) / unitsInOne :=
    div_nonneg (Nat.cast_nonneg _) (Nat.cast_nonneg _)
  rw [toRat_finite, abs_mul, abs_of_nonneg hnonneg]
  cases negative <;> simp

theorem natAbs_signedUnits_finite (negative : Bool) (units : Nat) (h : Representable units) :
    (finite negative units h).signedUnits.natAbs = units := by
  rw [signedUnits]
  cases negative <;> simp

/-- Only finite numbers have a value other than zero. -/
theorem isFinite_of_toRat_ne_zero {x : Binary64} (h : x.toRat ≠ 0) : x.isFinite = true := by
  cases x with
  | finite _ _ _ => rfl
  | infinite _ => exact absurd (Rat.zero_mkRat _) h
  | nan => exact absurd (Rat.zero_mkRat _) h

/-- The value of both zeros. -/
theorem toRat_zero (negative : Bool) : (zero negative).toRat = 0 :=
  (toRat_finite negative 0 _).trans (by simp)

/-- The magnitude of a finite number is a number of units of 53 places. -/
theorem exists_units {y : Binary64} (h : y.isFinite = true) :
    ∃ units : Nat, Representable units ∧ |y.toRat| = (units : Rat) / unitsInOne := by
  cases y with
  | finite negative units hunits => exact ⟨units, hunits, abs_toRat_finite negative units hunits⟩
  | infinite _ => exact absurd h Bool.false_ne_true
  | nan => exact absurd h Bool.false_ne_true

/-- A rational number is rounded to a number with its sign and the nearest magnitude. -/
theorem toRat_ofRat_units {q : Rat} (h : (ofRat q).isFinite = true) :
    ∃ units : Nat, nearestMagnitude (q.num.natAbs * unitsInOne) q.den = units ∧
      (ofRat q).toRat = (if q < 0 then -1 else 1) * ((units : Rat) / unitsInOne) ∧
      (ofRat q).signedUnits.natAbs = units := by
  obtain ⟨units, hunits⟩ : ∃ units, nearestMagnitude (q.num.natAbs * unitsInOne) q.den = units :=
    ⟨_, rfl⟩
  by_cases hlimit : units < unitLimit
  · refine ⟨units, hunits, (toRat_ofRat_of_lt hunits hlimit).2, ?_⟩
    subst hunits
    have hround : ofRat q =
        .finite (decide (q < 0)) _ ⟨nearestMagnitude_significant _ _, hlimit⟩ := dif_pos hlimit
    rw [hround]
    exact natAbs_signedUnits_finite _ _ _
  · subst hunits
    have hround : ofRat q = .infinite (decide (q < 0)) := dif_neg hlimit
    rw [hround] at h
    exact absurd h Bool.false_ne_true

/-- A sign that two numbers have in common does not count in their distance. -/
theorem abs_sign_mul_sub (q magnitude : Rat) :
    |(if q < 0 then -1 else 1) * magnitude - q| = |magnitude - (|q|)| := by
  have hsign : (if q < 0 then -1 else 1) * magnitude - q =
      (if q < 0 then -1 else 1) * (magnitude - |q|) := by
    rw [mul_sub, sign_mul_abs]
  rw [hsign, abs_mul, abs_sign, one_mul]

/-- A distance from a number of units, in units. -/
theorem abs_units_sub (units : Nat) (magnitude : Rat) :
    |(units : Rat) / unitsInOne - magnitude| =
      |(units : Rat) - magnitude * unitsInOne| / unitsInOne := by
  have hpos : (0 : Rat) < unitsInOne := by exact_mod_cast unitsInOne_pos
  have hunits : (units : Rat) / unitsInOne - magnitude =
      ((units : Rat) - magnitude * unitsInOne) / unitsInOne := by
    rw [sub_div, mul_div_cancel_right₀ _ (ne_of_gt hpos)]
  rw [hunits, abs_div, abs_of_pos hpos]

/-- No number of units that has 53 places is nearer to a magnitude than the rounded one. -/
theorem le_distance_units (q : Rat) {z : Nat} (hz : Significant53 z) :
    |(nearestMagnitude (q.num.natAbs * unitsInOne) q.den : Rat) - |q| * unitsInOne| ≤
        |(z : Rat) - |q| * unitsInOne| ∧
      (|(z : Rat) - |q| * unitsInOne| =
          |(nearestMagnitude (q.num.natAbs * unitsInOne) q.den : Rat) - |q| * unitsInOne| →
        z = nearestMagnitude (q.num.natAbs * unitsInOne) q.den ∨
          EvenLastPlace (nearestMagnitude (q.num.natAbs * unitsInOne) q.den)) := by
  rw [← units_of_parts]
  exact le_distance_nearestMagnitude q.den_pos hz

/-- Signs apart, no finite number is nearer than the rounded one. -/
theorem le_distance_magnitude {q : Rat} (h : (ofRat q).isFinite = true) {y : Binary64}
    (hy : y.isFinite = true) :
    |(ofRat q).toRat - q| ≤ |(|y.toRat|) - (|q|)| ∧
      (|(|y.toRat|) - (|q|)| = |(ofRat q).toRat - q| →
        |y.toRat| = |(ofRat q).toRat| ∨ EvenLastPlace (ofRat q).signedUnits.natAbs) := by
  have hpos : (0 : Rat) < unitsInOne := by exact_mod_cast unitsInOne_pos
  obtain ⟨units, hnearest, hvalue, hmagnitude⟩ := toRat_ofRat_units h
  obtain ⟨z, hz, hyUnits⟩ := exists_units hy
  obtain ⟨hle, htie⟩ := le_distance_units q hz.1
  rw [hnearest] at hle htie
  have hunits : |(ofRat q).toRat| = (units : Rat) / unitsInOne := by
    rw [hvalue, abs_mul, abs_sign, one_mul, abs_of_nonneg (by positivity)]
  rw [hmagnitude, hunits, hvalue, abs_sign_mul_sub, hyUnits, abs_units_sub, abs_units_sub]
  refine ⟨div_le_div_of_nonneg_right hle (le_of_lt hpos), fun heq => ?_⟩
  refine (htie ((div_left_inj' (ne_of_gt hpos)).mp heq)).imp_left fun hsame => ?_
  rw [hsame]

/-- **A rational number is rounded to the nearest finite number**, if that is what the
result is. -/
theorem isNearest_ofRat {q : Rat} (h : (ofRat q).isFinite = true) : (ofRat q).IsNearest q := by
  refine ⟨h, fun y hy => ?_, fun y hy hne heq => ?_⟩
  · exact le_trans (le_distance_magnitude h hy).1 (abs_abs_sub_abs_le y.toRat q)
  · obtain ⟨hle, htie⟩ := le_distance_magnitude h hy
    have hapart := abs_abs_sub_abs_le y.toRat q
    rw [heq] at hapart
    refine (htie (le_antisymm hapart hle)).resolve_left fun hsame => ?_
    -- The other sign is as near only to zero, and zero is rounded to zero.
    have hneg : y.toRat = -(ofRat q).toRat := (abs_eq_abs.mp hsame).resolve_left hne
    rw [hneg] at hne heq
    rcases abs_eq_abs.mp heq with hdifference | hdifference
    · exact hne (by linarith)
    · have hzero : q = 0 := by linarith
      have horigin := (le_distance_magnitude h (y := zero false) rfl).1
      rw [toRat_zero, hzero, sub_zero, abs_zero, sub_zero, abs_zero, abs_nonpos_iff] at horigin
      rw [hzero] at hne
      rw [horigin, neg_zero] at hne
      exact hne rfl

/-- Both zeros are the nearest numbers to zero. -/
theorem isNearest_zero (negative : Bool) : (zero negative).IsNearest 0 := by
  constructor
  · rfl
  · intro y _
    rw [toRat_zero, sub_zero, abs_zero]
    exact abs_nonneg _
  · intro y _ _ _
    have hunits : (zero negative).signedUnits.natAbs = 0 := natAbs_signedUnits_finite _ _ _
    rw [hunits]
    rfl

/-! ### Rounding keeps the order -/

section Order

variable {q : Rat} (hq : (ofRat q).isFinite = true) {y : Binary64} (hy : y.isFinite = true)
include hq hy

/-- Rounding does not cross a floating point number. -/
theorem le_toRat_ofRat (h : y.toRat ≤ q) : y.toRat ≤ (ofRat q).toRat := by
  have hnear := (isNearest_ofRat hq).le_distance y hy
  rw [abs_of_nonpos (sub_nonpos.mpr h)] at hnear
  linarith [(abs_le.mp hnear).1]

theorem toRat_ofRat_le (h : q ≤ y.toRat) : (ofRat q).toRat ≤ y.toRat := by
  have hnear := (isNearest_ofRat hq).le_distance y hy
  rw [abs_of_nonneg (sub_nonneg.mpr h)] at hnear
  linarith [(abs_le.mp hnear).2]

/-- What lies nearer to a floating point number than to a bound above it is rounded to less than
the bound. -/
theorem toRat_ofRat_lt {bound : Rat} (hbound : y.toRat < bound) (h : q < (y.toRat + bound) / 2) :
    (ofRat q).toRat < bound := by
  by_contra hreached
  have hnear := (isNearest_ofRat hq).le_distance y hy
  have hfar := le_abs_self ((ofRat q).toRat - q)
  rcases le_total y.toRat q with hle | hle
  · rw [abs_of_nonpos (sub_nonpos.mpr hle)] at hnear
    linarith
  · rw [abs_of_nonneg (sub_nonneg.mpr hle)] at hnear
    linarith

end Order

/-- Greater numbers are not rounded to less. -/
theorem toRat_ofRat_mono {q r : Rat} (hq : (ofRat q).isFinite = true)
    (hr : (ofRat r).isFinite = true) (h : q ≤ r) : (ofRat q).toRat ≤ (ofRat r).toRat := by
  rcases eq_or_lt_of_le h with rfl | hlt
  · exact le_refl _
  · by_contra hcrossed
    have hlow := (isNearest_ofRat hq).le_distance _ hr
    have hhigh := (isNearest_ofRat hr).le_distance _ hq
    rcases abs_cases ((ofRat q).toRat - q) with hx | hx <;>
      rcases abs_cases ((ofRat r).toRat - q) with hy | hy <;>
      rcases abs_cases ((ofRat r).toRat - r) with hz | hz <;>
      rcases abs_cases ((ofRat q).toRat - r) with hw | hw <;> linarith

/-- What is rounded to a bound or more, when the middle between the bound and a floating point
number below it is rounded to the bound. -/
theorem le_toRat_ofRat_iff {q middle : Rat} {y : Binary64} (hq : (ofRat q).isFinite = true)
    (hmiddle : (ofRat middle).isFinite = true) (hy : y.isFinite = true)
    (hbound : y.toRat < (ofRat middle).toRat)
    (hhalf : middle = (y.toRat + (ofRat middle).toRat) / 2) :
    (ofRat middle).toRat ≤ (ofRat q).toRat ↔ middle ≤ q := by
  refine ⟨fun hreached => ?_, toRat_ofRat_mono hmiddle hq⟩
  by_contra hbelow
  rw [hhalf] at hbelow
  exact absurd hreached (not_le.mpr (toRat_ofRat_lt hq hy hbound (not_le.mp hbelow)))

/-! ### The range and the error -/

/-- The units of the greatest finite magnitude. -/
@[irreducible] def greatestUnits : Nat := (2 ^ (53 : Nat) - 1) * 2 ^ (2045 : Nat)

/-- The greatest finite magnitude. -/
def greatestFinite : Rat := greatestUnits / unitsInOne

/-- The least magnitude that has 53 places. -/
def leastNormal : Rat := 2 ^ 52 / unitsInOne

theorem representable_greatestUnits : Representable greatestUnits := by
  have hsum : 2 ^ (53 : Nat) - 1 = 2 ^ (52 : Nat) + (2 ^ (52 : Nat) - 1) := by decide
  unfold greatestUnits
  rw [hsum]
  exact representable_normal (by decide) (by decide)

theorem le_greatestUnits {units : Nat} (h : Representable units) : units ≤ greatestUnits := by
  have hunits : ∃ m shift, m ≤ 2 ^ (53 : Nat) - 1 ∧ shift ≤ 2045 ∧ units = m * 2 ^ shift := by
    rcases units_cases h with ⟨hsmall, -⟩ | ⟨m, shift, hm, -, hshift, hunits, -⟩
    · exact ⟨units, 0, by omega, by decide, by rw [Nat.pow_zero, Nat.mul_one]⟩
    · exact ⟨_, shift, by omega, by omega, hunits⟩
  obtain ⟨m, shift, hm, hshift, rfl⟩ := hunits
  unfold greatestUnits
  exact Nat.mul_le_mul hm (Nat.pow_le_pow_right (by decide) hshift)

/-- No finite number has a greater magnitude. -/
theorem abs_toRat_le_greatestFinite {y : Binary64} (h : y.isFinite = true) :
    |y.toRat| ≤ greatestFinite := by
  obtain ⟨units, hunits, hmagnitude⟩ := exists_units h
  rw [hmagnitude, greatestFinite]
  refine div_le_div_of_nonneg_right ?_ (Nat.cast_nonneg _)
  exact_mod_cast le_greatestUnits hunits

/-- **Up to the greatest finite magnitude, rounding gives a finite number.** -/
theorem isFinite_ofRat {q : Rat} (h : |q| ≤ greatestFinite) : (ofRat q).isFinite = true := by
  have hpos : (0 : Rat) < unitsInOne := by exact_mod_cast unitsInOne_pos
  have hbelow : |q| * unitsInOne ≤ greatestUnits := by
    rwa [greatestFinite, le_div_iff₀ hpos] at h
  have hnear := (le_distance_units q representable_greatestUnits.1).1
  rw [abs_of_nonneg (sub_nonneg.mpr hbelow)] at hnear
  generalize hunits : nearestMagnitude (q.num.natAbs * unitsInOne) q.den = units at hnear
  by_cases hlimit : units < unitLimit
  · exact (toRat_ofRat_of_lt hunits hlimit).1
  · -- What is above the limit is farther away than the greatest finite magnitude.
    have hgreater : (greatestUnits : Rat) < units := by
      exact_mod_cast Nat.lt_of_lt_of_le representable_greatestUnits.2 (not_lt.mp hlimit)
    have hfar := le_abs_self ((units : Rat) - |q| * unitsInOne)
    linarith

/-- So a reader that takes finite numbers only takes the nearest one. -/
theorem filter_ofRat_of_le {q : Rat} (h : |q| ≤ greatestFinite) :
    (some (ofRat q)).filter isFinite = some (ofRat q) ∧ (ofRat q).IsNearest q := by
  have hfinite := isFinite_ofRat h
  rw [Option.filter_some, if_pos hfinite]
  exact ⟨rfl, isNearest_ofRat hfinite⟩

/-- **Rounding errs by one part in `2 ^ 53`** of the number, or of the least magnitude
that has 53 places. -/
theorem distance_ofRat_max {q : Rat} (h : (ofRat q).isFinite = true) :
    |(ofRat q).toRat - q| ≤ max (|q|) leastNormal / 2 ^ 53 := by
  have hpos : (0 : Rat) < unitsInOne := by exact_mod_cast unitsInOne_pos
  obtain ⟨units, hnearest, hvalue, -⟩ := toRat_ofRat_units h
  have hbound : |q| * unitsInOne ≤ max (|q|) leastNormal * unitsInOne :=
    mul_le_mul_of_nonneg_right (le_max_left _ _) (le_of_lt hpos)
  have hlow : (2 : Rat) ^ 52 ≤ max (|q|) leastNormal * unitsInOne := by
    rw [← div_le_iff₀ hpos]
    exact le_max_right _ _
  have hnear := distance_nearestMagnitude q.den_pos
    (by rw [units_of_parts]; exact hbound) hlow
  rw [units_of_parts, hnearest] at hnear
  rw [hvalue, abs_sign_mul_sub, abs_units_sub, div_le_iff₀ hpos, div_mul_eq_mul_div]
  exact hnear

end Binary64

end Spreadsheet
