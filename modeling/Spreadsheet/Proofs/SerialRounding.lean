/-
# How serial numbers are rounded to milliseconds

The product of a serial number and the milliseconds of a day is rounded to a floating point
number, a half is added, and the sum is rounded again and cut. From two on, the sum is exact where
it matters: the result is the product rounded half away from zero.

* `Binary64.toRat_ofRat_dyadic` — a whole number over a power of two is exact.
* `Binary64.toRat_ofRat_add_half_lt` — adding a half does not reach a whole number from below.
* `serialMilliseconds_neg` — opposite serial numbers have opposite milliseconds.
* `le_serialMilliseconds_iff` — a half goes away from zero.
* `distance_serialMilliseconds` — two roundings and a cut err by less than a millisecond.
-/

import Spreadsheet.Proofs.NearestBinary64
import Spreadsheet.Proofs.SerialRoundTrip

namespace Spreadsheet

-- A power of a natural number is core's, whatever other instances are in scope.
attribute [local instance (high)] instPowNat

namespace Binary64

/-! ### Numbers over a power of two -/

/-- The units of a half. -/
@[irreducible] def unitsInHalf : Nat := 2 ^ (1073 : Nat)

/-- Both units are powers of two, the places kept apart from their numerals. -/
theorem units_eq_pow : ∃ place next : Nat, next = place + 1 ∧ place = 1073 ∧
    unitsInHalf = 2 ^ place ∧ unitsInOne = 2 ^ next := by
  refine ⟨1073, 1074, rfl, rfl, ?_, ?_⟩
  · unfold unitsInHalf
    rfl
  · unfold unitsInOne
    rfl

theorem unitsInOne_eq_two_mul : unitsInOne = 2 * unitsInHalf := by
  obtain ⟨place, _, rfl, -, hhalf, hone⟩ := units_eq_pow
  rw [hhalf, hone, Nat.pow_succ']

/-- Whole numbers of at most 53 bits over a power of two are exact. -/
theorem toRat_ofRat_dyadic {n : Int} (h : n.natAbs ≤ 2 ^ 53) {places : Nat}
    (hplaces : places ≤ 1074) : (ofRat (n / 2 ^ places)).isFinite = true ∧
      (ofRat (n / 2 ^ places)).toRat = n / 2 ^ places := by
  obtain ⟨place, next, rfl, hplace, -, hone⟩ := units_eq_pow
  obtain ⟨rest, hrest⟩ := Nat.exists_eq_add_of_le (show places ≤ place + 1 by omega)
  rw [hrest] at hone
  have hunits : Representable (n.natAbs * 2 ^ rest) := by
    refine ⟨significant53_mul_pow h rest, ?_⟩
    have hwhole := (representable_mul_unitsInOne h).2
    rw [hone] at hwhole
    have hpow : 2 ^ rest ≤ 2 ^ (places + rest) := Nat.pow_le_pow_right (by decide) (by omega)
    exact Nat.lt_of_le_of_lt (Nat.mul_le_mul_left _ hpow) hwhole
  have hpos : (0 : Rat) < 2 ^ places := by positivity
  refine toRat_ofRat hunits ?_
  rw [abs_div, abs_of_pos hpos, hone, ← Int.cast_abs, Int.abs_eq_natAbs, Int.cast_natCast]
  push_cast
  rw [pow_add, ← mul_assoc, div_mul_cancel₀ _ (ne_of_gt hpos)]

/-- Between two whole numbers a number of 53 places and a half more have the same places. -/
theorem representable_add_half {units n : Nat} (h : Representable units) (hn : 1 ≤ n)
    (hmax : n < 2 ^ 52) (hlow : n * unitsInOne ≤ units)
    (hhigh : units + unitsInHalf < (n + 1) * unitsInOne) : Representable (units + unitsInHalf) := by
  obtain ⟨place, _, rfl, hplace, hhalf, hone⟩ := units_eq_pow
  -- both have their first place where the whole number has it
  have hlog : ∀ m, n * unitsInOne ≤ m → m < (n + 1) * unitsInOne →
      m.log2 = n.log2 + (place + 1) := by
    intro m hbelow habove
    have hfirst : 2 ^ n.log2 ≤ n := Nat.log2_self_le (by omega)
    have hlast : n + 1 ≤ 2 ^ (n.log2 + 1) := (Nat.log2_lt (by omega)).mp (Nat.lt_succ_self _)
    have hpos := unitsInOne_pos
    have hne : m ≠ 0 := by
      have := Nat.mul_le_mul hn hpos
      omega
    rw [Nat.log2_eq_iff hne, Nat.add_right_comm, Nat.pow_add, Nat.pow_add _ (n.log2 + 1), ← hone]
    exact ⟨Nat.le_trans (Nat.mul_le_mul_right _ hfirst) hbelow,
      Nat.lt_of_lt_of_le habove (Nat.mul_le_mul_right _ hlast)⟩
  have hlogUnits := hlog units hlow (by omega)
  have hlogSum := hlog (units + unitsInHalf) (by omega) hhigh
  have hplaces : n.log2 < 52 := (Nat.log2_lt (by omega)).mpr hmax
  refine ⟨?_, ?_⟩
  · have hdvd : 2 ^ (n.log2 + (place + 1) - 52) ∣ unitsInHalf := by
      rw [hhalf]
      exact Nat.pow_dvd_pow 2 (by omega)
    have hkept : units % 2 ^ (units.log2 - 52) = 0 := h.1
    rw [hlogUnits] at hkept
    rw [Significant53, hlogSum]
    exact Nat.mod_eq_zero_of_dvd (Nat.dvd_add (Nat.dvd_of_mod_eq_zero hkept) hdvd)
  · have hwhole := representable_mul_unitsInOne (n := n + 1) (by omega)
    exact Nat.lt_trans hhigh hwhole.2

/-- **Adding a half does not reach a whole number from below.** From two on, what lies more than a
half below a whole number stays below it when the sum is rounded. -/
theorem toRat_ofRat_add_half_lt {x : Binary64} (hx : x.isFinite = true) (hnonneg : 0 ≤ x.toRat)
    {n : Nat} (hn : 2 ≤ n) (hmax : n ≤ 2 ^ 52) (h : x.toRat < n - 1 / 2) :
    (ofRat (x.toRat + 1 / 2)).toRat < n := by
  have hcast : (n : Rat) ≤ 2 ^ 52 := by exact_mod_cast hmax
  have hfinite : (ofRat (x.toRat + 1 / 2)).isFinite = true := by
    refine (distance_ofRat (by decide : 52 ≤ 1023) ?_).1
    rw [abs_of_nonneg (by linarith)]
    linarith
  rcases le_or_gt x.toRat (n - 1) with hfar | hnear
  · -- the number of halves below is between them
    obtain ⟨hhalfFinite, hhalf⟩ := toRat_ofRat_dyadic (n := 2 * n - 1) (by omega)
      (by decide : 1 ≤ 1074)
    have hle := toRat_ofRat_le hfinite hhalfFinite (by rw [hhalf]; push_cast; linarith)
    rw [hhalf] at hle
    push_cast at hle
    linarith
  · -- the sum has as many places as the number, and is exact
    obtain ⟨units, hunits, hvalue⟩ := exists_units hx
    rw [abs_of_nonneg hnonneg] at hvalue
    have hpos : (0 : Rat) < unitsInOne := by exact_mod_cast unitsInOne_pos
    have hone : (unitsInOne : Rat) = 2 * unitsInHalf := by exact_mod_cast unitsInOne_eq_two_mul
    have hscaled : (units : Rat) = x.toRat * unitsInOne := by
      rw [hvalue, div_mul_cancel₀ _ (ne_of_gt hpos)]
    obtain ⟨m, rfl⟩ := Nat.exists_eq_add_of_le' (show 1 ≤ n by omega)
    push_cast at h hnear
    have hlow : m * unitsInOne ≤ units := by
      have hle : (m : Rat) * unitsInOne ≤ units := by
        rw [hscaled]
        exact mul_le_mul_of_nonneg_right (by linarith) (le_of_lt hpos)
      exact_mod_cast hle
    have hhigh : units + unitsInHalf < (m + 1) * unitsInOne := by
      have hlt : (units : Rat) + unitsInHalf < (m + 1) * unitsInOne := by
        have hproduct := mul_lt_mul_of_pos_right h hpos
        rw [← hscaled] at hproduct
        linarith
      exact_mod_cast hlt
    have hsum := representable_add_half hunits (by omega) (by omega) hlow hhigh
    obtain ⟨-, hexact⟩ := toRat_ofRat (q := x.toRat + 1 / 2) hsum (by
      rw [abs_of_nonneg (by linarith), add_mul, ← hscaled, hone]
      push_cast
      ring)
    rw [hexact]
    push_cast
    linarith

end Binary64

/-! ### The whole part -/

/-- A number that is not negative reaches the whole numbers up to its whole part. -/
theorem le_truncate_iff {q : Rat} (hq : 0 ≤ q) {n : Int} : n ≤ truncate q ↔ (n : Rat) ≤ q := by
  rw [truncate, Int.tdiv_eq_ediv_of_nonneg (Rat.num_nonneg.mpr hq), ← Rat.floor_def]
  exact Rat.le_floor_iff

/-- The whole part is at most the number, which is less than one more. -/
theorem truncate_bounds {q : Rat} (hq : 0 ≤ q) :
    0 ≤ truncate q ∧ (truncate q : Rat) ≤ q ∧ q < truncate q + 1 := by
  refine ⟨(le_truncate_iff hq).mpr (by exact_mod_cast hq), (le_truncate_iff hq).mp (le_refl _), ?_⟩
  have hnext : ¬truncate q + 1 ≤ truncate q := by omega
  rw [le_truncate_iff hq] at hnext
  push_cast at hnext
  exact not_le.mp hnext

/-! ### Serial milliseconds -/

/-- The floating point product of a serial number and the milliseconds of a day. -/
def serialProduct (serial : Rat) : Rat :=
  (Binary64.ofRat (serial * millisecondsPerDay)).toRat

theorem serialProduct_neg (serial : Rat) : serialProduct (-serial) = -serialProduct serial := by
  rw [serialProduct, neg_mul, Binary64.toRat_ofRat_neg]
  rfl

/-- From the origin on, a half is added to the product. -/
theorem serialMilliseconds_of_nonneg {serial : Rat} (h : 0 ≤ serial) :
    serialMilliseconds serial =
      truncate (Binary64.ofRat (serialProduct serial + 1 / 2)).toRat := by
  have hhalf : mkRat 1 2 = 1 / 2 := by norm_num [Rat.mkRat_eq_div]
  rw [serialMilliseconds, if_pos h, hhalf]
  rfl

/-- **Opposite serial numbers have opposite milliseconds.** -/
theorem serialMilliseconds_neg {serial : Rat} (h : 0 < serial) :
    serialMilliseconds (-serial) = -serialMilliseconds serial := by
  have hhalf : mkRat (-1) 2 = -(1 / 2) := by norm_num [Rat.mkRat_eq_div]
  have hsum : serialProduct (-serial) + -(1 / 2) = -(serialProduct serial + 1 / 2) := by
    rw [serialProduct_neg]
    ring
  rw [serialMilliseconds_of_nonneg (le_of_lt h), ← truncate_neg, ← Binary64.toRat_ofRat_neg,
    ← hsum, serialMilliseconds, if_neg (by linarith), hhalf]
  rfl

theorem serialMilliseconds_of_neg {serial : Rat} (h : serial < 0) :
    serialMilliseconds serial = -serialMilliseconds (-serial) := by
  rw [← serialMilliseconds_neg (by linarith), neg_neg]

section Magnitude

variable {serial : Rat} (hserial : 0 ≤ serial) (hmax : serial * millisecondsPerDay ≤ 2 ^ 48)
include hserial hmax

/-- The product is not negative and errs by little. -/
theorem serialProduct_spec : 0 ≤ serialProduct serial ∧
    |serialProduct serial - serial * millisecondsPerDay| ≤ 1 / 32 ∧
      (Binary64.ofRat (serial * millisecondsPerDay)).isFinite = true := by
  have hproduct : 0 ≤ serial * millisecondsPerDay := by
    rw [cast_millisecondsPerDay]
    positivity
  obtain ⟨hfinite, hnear⟩ := Binary64.distance_ofRat (by decide : 48 ≤ 1023)
    (by rwa [abs_of_nonneg hproduct] : |serial * millisecondsPerDay| ≤ 2 ^ 48)
  have hzero := Binary64.le_toRat_ofRat hfinite (y := .zero false) rfl
    (by rwa [Binary64.toRat_zero])
  rw [Binary64.toRat_zero] at hzero
  refine ⟨hzero, le_trans hnear (by norm_num), hfinite⟩

/-- So does the sum. -/
theorem serialSum_spec : (Binary64.ofRat (serialProduct serial + 1 / 2)).isFinite = true ∧
    0 ≤ (Binary64.ofRat (serialProduct serial + 1 / 2)).toRat ∧
      |(Binary64.ofRat (serialProduct serial + 1 / 2)).toRat - (serialProduct serial + 1 / 2)| ≤
        1 / 16 := by
  obtain ⟨hzero, hnear, -⟩ := serialProduct_spec hserial hmax
  have hnear := abs_le.mp hnear
  obtain ⟨hfinite, hsum⟩ := Binary64.distance_ofRat (by decide : 49 ≤ 1023)
    (abs_le.mpr ⟨by linarith, by linarith⟩ : |serialProduct serial + 1 / 2| ≤ 2 ^ 49)
  have hsumZero := Binary64.le_toRat_ofRat hfinite (y := .zero false) rfl
    (by rw [Binary64.toRat_zero]; linarith)
  rw [Binary64.toRat_zero] at hsumZero
  exact ⟨hfinite, hsumZero, le_trans hsum (by norm_num)⟩

/-- **The product is rounded half away from zero**, as far as whole numbers from two on are
concerned. -/
theorem le_serialMilliseconds_iff {n : Nat} (hn : 2 ≤ n) (hbound : n ≤ 2 ^ 52) :
    (n : Int) ≤ serialMilliseconds serial ↔ (n : Rat) - 1 / 2 ≤ serialProduct serial := by
  obtain ⟨hzero, -, hproductFinite⟩ := serialProduct_spec hserial hmax
  obtain ⟨hfinite, hsumZero, -⟩ := serialSum_spec hserial hmax
  rw [serialMilliseconds_of_nonneg hserial, le_truncate_iff hsumZero, Int.cast_natCast]
  constructor
  · intro hreached
    by_contra hbelow
    have hlt := Binary64.toRat_ofRat_add_half_lt hproductFinite hzero hn hbound (not_le.mp hbelow)
    exact absurd hreached (not_le.mpr hlt)
  · intro hhalf
    obtain ⟨hwhole, hvalue⟩ := Binary64.toRat_ofInt (n := n) (by omega)
    have hle := Binary64.le_toRat_ofRat hfinite hwhole (by rw [hvalue, Int.cast_natCast]; linarith)
    rwa [hvalue, Int.cast_natCast] at hle

/-- So it does not pass a whole number. -/
theorem serialMilliseconds_le {n : Nat} (hn : 1 ≤ n) (hbound : n < 2 ^ 52)
    (h : serial * millisecondsPerDay ≤ n) : serialMilliseconds serial ≤ n := by
  obtain ⟨-, -, hfinite⟩ := serialProduct_spec hserial hmax
  obtain ⟨hwhole, hvalue⟩ := Binary64.toRat_ofInt (n := n) (by omega)
  have hproduct := Binary64.toRat_ofRat_le hfinite hwhole (by rwa [hvalue, Int.cast_natCast])
  rw [hvalue, Int.cast_natCast] at hproduct
  have hnext := le_serialMilliseconds_iff hserial hmax (n := n + 1) (by omega) (by omega)
  have hbelow : ¬((n + 1 : Nat) : Rat) - 1 / 2 ≤ serialProduct serial := by
    push_cast
    rw [serialProduct]
    linarith
  rw [← hnext] at hbelow
  omega

/-- The milliseconds of a serial number are less than a millisecond from the exact product. -/
theorem distance_serialMilliseconds : 0 ≤ serialMilliseconds serial ∧
    |(serialMilliseconds serial : Rat) - serial * millisecondsPerDay| ≤ 19 / 32 := by
  obtain ⟨-, hnear, -⟩ := serialProduct_spec hserial hmax
  obtain ⟨-, hsumZero, hsum⟩ := serialSum_spec hserial hmax
  have hnear := abs_le.mp hnear
  have hsum := abs_le.mp hsum
  rw [serialMilliseconds_of_nonneg hserial]
  obtain ⟨hwhole, hlow, hhigh⟩ := truncate_bounds hsumZero
  exact ⟨hwhole, abs_le.mpr ⟨by linarith, by linarith⟩⟩

end Magnitude

end Spreadsheet
