/-
# The nearest fraction

The walk down the tree of mediants keeps two neighbours around the number: fractions between
which every other one has a greater denominator than both together. When it stops because the
next denominator is too large, one of the two is the best there is. When it stops because it is
near enough, no other fraction with so small a denominator is as near.

* `Fraction.Neighbours.le_or_ge` — what lies between neighbours has a large denominator.
* `Fraction.outcome_of_reaches` — the number stays between the neighbours on the whole walk.
* `Fraction.isBest_nearest` — the fraction that is found is the best one, up to the rounding of
  the distances that are compared.
-/

import Mathlib.Tactic.Linarith
import Spreadsheet.Format.Fraction
import Spreadsheet.Proofs.NumeralRounding
import Spreadsheet.Proofs.SignificantDigits

namespace Spreadsheet

-- A power of a natural number is core's, whatever other instances are in scope.
attribute [local instance (high)] instPowNat

namespace Fraction

/-- The rational number that the fraction is. -/
def value (f : Fraction) : Rat :=
  (f.num : Rat) / f.den

theorem den_pos_rat (f : Fraction) : (0 : Rat) < f.den := by
  exact_mod_cast f.den_pos

/-! ### Neighbours in the tree -/

/-- Two fractions whose cross products are one apart, the lower one first. -/
def Neighbours (low high : Fraction) : Prop :=
  high.num * low.den = low.num * high.den + 1

section Neighbours

variable {low high : Fraction}

/-- The mediant is a neighbour of both. -/
theorem Neighbours.mediant_high (h : Neighbours low high) : Neighbours (mediant low high) high := by
  unfold Neighbours mediant at *
  dsimp only
  linarith

@[inherit_doc Neighbours.mediant_high]
theorem Neighbours.low_mediant (h : Neighbours low high) : Neighbours low (mediant low high) := by
  unfold Neighbours mediant at *
  dsimp only
  linarith

/-- Neighbours are in lowest terms: a common divisor divides two numbers that are one apart. -/
theorem Neighbours.coprime (h : Neighbours low high) :
    low.num.Coprime low.den ∧ high.num.Coprime high.den := by
  have hcommon : ∀ {d : Nat}, d ∣ low.num * high.den → d ∣ high.num * low.den → d = 1 := by
    intro d hleft hright
    rw [h] at hright
    exact Nat.dvd_one.mp ((Nat.dvd_add_right hleft).mp hright)
  exact ⟨hcommon ((Nat.gcd_dvd_left _ _).mul_right _) ((Nat.gcd_dvd_right _ _).mul_left _),
    hcommon ((Nat.gcd_dvd_right _ _).mul_left _) ((Nat.gcd_dvd_left _ _).mul_right _)⟩

/-- A fraction between neighbours has at least the denominators of both together. -/
theorem Neighbours.le_or_ge (h : Neighbours low high) (p : Int) {q : Nat} (hpos : 0 < q)
    (hq : q < low.den + high.den) : (p : Rat) / q ≤ low.value ∨ high.value ≤ (p : Rat) / q := by
  by_contra hbetween
  rw [not_or, not_le, not_le, value, value,
    div_lt_div_iff₀ low.den_pos_rat (by exact_mod_cast hpos),
    div_lt_div_iff₀ (by exact_mod_cast hpos) high.den_pos_rat] at hbetween
  have habove : (1 : Int) ≤ p * low.den - low.num * q := by
    have hlow : (low.num * q : Int) < p * low.den := by exact_mod_cast hbetween.1
    omega
  have hbelow : (1 : Int) ≤ high.num * q - p * high.den := by
    have hhigh : (p * high.den : Int) < high.num * q := by exact_mod_cast hbetween.2
    omega
  have hcross : (high.num * low.den - low.num * high.den : Int) = 1 := by
    have hneighbours : (high.num * low.den : Int) = low.num * high.den + 1 := by exact_mod_cast h
    omega
  -- each denominator is counted once for every step to the fraction from the other side
  have hsum : (q : Int) = high.den * (p * low.den - low.num * q) +
      low.den * (high.num * q - p * high.den) := by
    calc (q : Int) = q * (high.num * low.den - low.num * high.den) := by rw [hcross, mul_one]
      _ = _ := by ring
  have hhighDen := mul_le_mul_of_nonneg_left habove (Int.natCast_nonneg high.den)
  have hlowDen := mul_le_mul_of_nonneg_left hbelow (Int.natCast_nonneg low.den)
  rw [mul_one] at hhighDen hlowDen
  omega

end Neighbours

/-! ### Walks -/

/-- `Reaches limit side low high outcome`: finitely many steps of the walk lead from the two
neighbours to the outcome. -/
inductive Reaches (limit : Nat) (side : Fraction → Ordering) : Fraction → Fraction → Walk → Prop
  | between {low high : Fraction} : limit < (mediant low high).den →
      Reaches limit side low high (.between low high)
  | found {low high : Fraction} : (mediant low high).den ≤ limit →
      side (mediant low high) = .eq → Reaches limit side low high (.found (mediant low high))
  | right {low high : Fraction} {outcome : Walk} : (mediant low high).den ≤ limit →
      side (mediant low high) = .lt → Reaches limit side (mediant low high) high outcome →
        Reaches limit side low high outcome
  | left {low high : Fraction} {outcome : Walk} : (mediant low high).den ≤ limit →
      side (mediant low high) = .gt → Reaches limit side low (mediant low high) outcome →
        Reaches limit side low high outcome

/-- The walk ends. -/
theorem reaches_walk (limit : Nat) (side : Fraction → Ordering) (low high : Fraction) :
    Reaches limit side low high (walk limit side low high) := by
  fun_induction walk limit side low high with
  | case1 low high hlimit => exact .between hlimit
  | case2 low high hlimit hside => exact .found (not_lt.mp hlimit) hside
  | case3 low high hlimit hside ih => exact .right (not_lt.mp hlimit) hside ih
  | case4 low high hlimit hside ih => exact .left (not_lt.mp hlimit) hside ih

/-- The number lies between two neighbours from 0 to 1 with denominators up to the limit. -/
structure Brackets (limit : Nat) (x : Rat) (low high : Fraction) : Prop where
  neighbours : Neighbours low high
  low_den_le : low.den ≤ limit
  high_den_le : high.den ≤ limit
  high_num_le : high.num ≤ high.den
  low_num_le : low.num ≤ low.den
  low_le : low.value ≤ x
  le_high : x ≤ high.value

section Walks

variable {limit : Nat} {x : Rat} {low high : Fraction}

theorem brackets_start (hlimit : 1 ≤ limit) (hx : 0 ≤ x) (hone : x ≤ 1) :
    Brackets limit x zero one where
  neighbours := rfl
  low_den_le := hlimit
  high_den_le := hlimit
  high_num_le := le_refl 1
  low_num_le := Nat.zero_le 1
  low_le := by simpa [value, zero] using hx
  le_high := by simpa [value, one] using hone

theorem Brackets.mediant_num_le (h : Brackets limit x low high) :
    (mediant low high).num ≤ (mediant low high).den :=
  Nat.add_le_add h.low_num_le h.high_num_le

/-- A mediant below the number takes the place of the lower neighbour. -/
theorem Brackets.above (h : Brackets limit x low high) (hden : (mediant low high).den ≤ limit)
    (hle : (mediant low high).value ≤ x) : Brackets limit x (mediant low high) high where
  neighbours := h.neighbours.mediant_high
  low_den_le := hden
  high_den_le := h.high_den_le
  high_num_le := h.high_num_le
  low_num_le := h.mediant_num_le
  low_le := hle
  le_high := h.le_high

/-- A mediant above it takes the place of the higher one. -/
theorem Brackets.below (h : Brackets limit x low high) (hden : (mediant low high).den ≤ limit)
    (hle : x ≤ (mediant low high).value) : Brackets limit x low (mediant low high) where
  neighbours := h.neighbours.low_mediant
  low_den_le := h.low_den_le
  high_den_le := hden
  high_num_le := h.mediant_num_le
  low_num_le := h.low_num_le
  low_le := h.low_le
  le_high := hle

/-- What a walk ends with: a fraction in lowest terms that is taken for the number, or two
neighbours around it with nothing in between. -/
def Outcome (limit : Nat) (x : Rat) (side : Fraction → Ordering) : Walk → Prop
  | .found f => side f = .eq ∧ f.num.Coprime f.den ∧ f.den ≤ limit ∧ f.num ≤ f.den
  | .between low high => Brackets limit x low high ∧ limit < low.den + high.den

/-- The number stays between the neighbours on the whole walk, when no fraction is taken to be
on the wrong side. -/
theorem outcome_of_reaches {side : Fraction → Ordering} {outcome : Walk}
    (hlow : ∀ f : Fraction, f.num ≤ f.den → side f = .lt → f.value ≤ x)
    (hhigh : ∀ f : Fraction, f.num ≤ f.den → side f = .gt → x ≤ f.value)
    (hreaches : Reaches limit side low high outcome) (h : Brackets limit x low high) :
    Outcome limit x side outcome := by
  induction hreaches with
  | between hlimit => exact ⟨h, hlimit⟩
  | found hden hside =>
    exact ⟨hside, h.neighbours.mediant_high.coprime.1, hden, h.mediant_num_le⟩
  | right hden hside _ ih => exact ih (h.above hden (hlow _ h.mediant_num_le hside))
  | left hden hside _ ih => exact ih (h.below hden (hhigh _ h.mediant_num_le hside))

end Walks

/-! ### Readings of fractions -/

/-- The side of a number on which a fraction lies, from a reading of its quotient and of its
distance from the number. -/
def sideOf (quotient distance : Fraction → Rat) (x : Rat) (f : Fraction) : Ordering :=
  if distance f < tolerance then .eq else if quotient f < x then .lt else .gt

/-- The nearest fraction, as the walk finds it with these readings. -/
def nearestOf (quotient distance : Fraction → Rat) (limit : Nat) (x : Rat) : Fraction :=
  if x ≤ 0 then zero
  else
    match walk (max limit 1) (sideOf quotient distance x) zero one with
    | .found f => f
    | .between low high => if distance low ≤ distance high then low else high

/-- The search reads quotients and distances as floating point numbers. -/
theorem nearest_eq_nearestOf (limit : Nat) (x : Rat) :
    nearest limit x = nearestOf quotient (·.distance x) limit x :=
  rfl

/-- The distance as a rational number. -/
def exactDistance (x : Rat) (f : Fraction) : Rat :=
  |f.value - x|

/-- The nearest fraction, when quotients and distances are rational numbers. -/
def nearestExact (limit : Nat) (x : Rat) : Fraction :=
  nearestOf value (exactDistance x) limit x

/-- Readings that leave the fractions from 0 to 1 on their side of a number, and that err in the
distance by no more than `slack`. -/
structure Reads (x slack : Rat) (quotient distance : Fraction → Rat) : Prop where
  quotient_le : ∀ f : Fraction, f.num ≤ f.den → f.value ≤ x → quotient f ≤ x
  le_quotient : ∀ f : Fraction, f.num ≤ f.den → x ≤ f.value → x ≤ quotient f
  distance_lt : ∀ f : Fraction, quotient f = x → distance f < tolerance
  near : ∀ f : Fraction, f.num ≤ f.den → |distance f - exactDistance x f| ≤ slack

/-- The tolerance is next to 10⁻¹². -/
theorem tolerance_bounds : 0 < tolerance ∧ tolerance ≤ 1 / 10 ^ 11 := by
  have hround : tolerance = (Binary64.ofRat (1 / 1000000000000)).toRat := by
    rw [tolerance, Binary64.ofQuotient_eq_ofRat (by decide) (.inr rfl)]
    norm_num
  have hsize : |(1 / 1000000000000 : Rat)| ≤ 2 ^ 0 := by norm_num [abs_of_pos]
  have herror := abs_le.mp (Binary64.distance_ofRat (by decide) hsize).2
  rw [← hround] at herror
  constructor <;> norm_num at herror ⊢ <;> linarith

/-! ### The best fraction -/

/-- The fraction is in lowest terms, lies between 0 and 1, has a denominator of at most
`limit`, and no fraction with such a denominator is nearer to the number by more than
`slack`. -/
structure IsBest (limit : Nat) (x slack : Rat) (f : Fraction) : Prop where
  coprime : f.num.Coprime f.den
  den_le : f.den ≤ limit
  num_le : f.num ≤ f.den
  le_distance : ∀ (p : Int) {q : Nat}, 0 < q → q ≤ limit →
    |f.value - x| ≤ |(p : Rat) / q - x| + slack

/-- With a larger slack it is still the best one. -/
theorem IsBest.mono {limit : Nat} {x slack slack' : Rat} {f : Fraction}
    (h : IsBest limit x slack f) (hle : slack ≤ slack') : IsBest limit x slack' f where
  coprime := h.coprime
  den_le := h.den_le
  num_le := h.num_le
  le_distance p _ hpos hq := le_trans (h.le_distance p hpos hq) (add_le_add_right hle _)

/-- Two different fractions are apart by one part in the product of their denominators. -/
theorem apart (f : Fraction) (p : Int) {q limit : Nat} (hpos : 0 < q) (hq : q ≤ limit)
    (hden : f.den ≤ limit) (hne : f.value ≠ (p : Rat) / q) :
    1 / (limit * limit : Rat) ≤ |f.value - (p : Rat) / q| := by
  have hqRat : (0 : Rat) < q := by exact_mod_cast hpos
  have hfRat := f.den_pos_rat
  have hcross : (f.num * q - f.den * p : Int) ≠ 0 := by
    intro hzero
    refine hne ((div_eq_div_iff (ne_of_gt hfRat) (ne_of_gt hqRat)).mpr ?_)
    have hequal : (f.num * q : Int) = p * f.den := by linarith
    exact_mod_cast hequal
  have hone : (1 : Rat) ≤ |(f.num * q - f.den * p : Rat)| := by
    exact_mod_cast Int.one_le_abs hcross
  have hproduct : (f.den * q : Rat) ≤ limit * limit := by
    exact_mod_cast Nat.mul_le_mul hden hq
  rw [value, div_sub_div _ _ (ne_of_gt hfRat) (ne_of_gt hqRat), abs_div,
    abs_of_pos (mul_pos hfRat hqRat)]
  exact div_le_div₀ (abs_nonneg _) hone (mul_pos hfRat hqRat) hproduct

section Best

variable {limit : Nat} {x slack : Rat} {quotient distance : Fraction → Rat}

/-- A fraction that is taken for the number is the best one: all others are farther away than
the tolerance, by far. -/
theorem isBest_found (hreads : Reads x slack quotient distance) (hmax : limit ≤ 9999)
    (hslack : slack ≤ 1 / 2 ^ 51) {f : Fraction}
    (houtcome : Outcome limit x (sideOf quotient distance x) (.found f)) :
    IsBest limit x (2 * slack) f := by
  obtain ⟨hside, hcoprime, hden, hnum⟩ := houtcome
  have hdistance : distance f < tolerance := by
    by_contra hfar
    rw [sideOf, if_neg hfar] at hside
    split at hside <;> cases hside
  have hreading := abs_le.mp (hreads.near f hnum)
  have hnonneg : 0 ≤ slack := le_trans (abs_nonneg _) (hreads.near f hnum)
  have hnear : |f.value - x| ≤ 1 / 10 ^ 10 := by
    have htolerance := tolerance_bounds.2
    rw [exactDistance] at hreading
    norm_num at htolerance hslack ⊢
    linarith
  refine ⟨hcoprime, hden, hnum, fun p q hpos hq => ?_⟩
  by_cases hsame : f.value = (p : Rat) / q
  · rw [hsame]
    linarith
  · have hlimit : (1 : Rat) / (9999 * 9999) ≤ 1 / (limit * limit) := by
      have hlimitPos : (0 : Rat) < limit := by exact_mod_cast Nat.lt_of_lt_of_le hpos hq
      have hlimitLe : (limit : Rat) ≤ 9999 := by exact_mod_cast hmax
      exact one_div_le_one_div_of_le (by positivity)
        (mul_le_mul hlimitLe hlimitLe (le_of_lt hlimitPos) (by norm_num))
    have hapart := apart f p hpos hq hden hsame
    have htriangle := abs_sub_le f.value x ((p : Rat) / q)
    rw [abs_sub_comm x] at htriangle
    linarith

/-- Nothing with a denominator up to the limit is nearer than the nearer one of the two
neighbours at which the walk stops. -/
theorem Brackets.min_le {low high : Fraction} (h : Brackets limit x low high)
    (hlimit : limit < low.den + high.den) (p : Int) {q : Nat} (hpos : 0 < q) (hq : q ≤ limit) :
    exactDistance x low ≤ |(p : Rat) / q - x| ∨ exactDistance x high ≤ |(p : Rat) / q - x| := by
  have hlow := h.low_le
  have hhigh := h.le_high
  rw [exactDistance, exactDistance, abs_of_nonpos (by linarith : low.value - x ≤ 0),
    abs_of_nonneg (by linarith : 0 ≤ high.value - x)]
  rcases h.neighbours.le_or_ge p hpos (by omega) with hbelow | habove
  · exact Or.inl (le_trans (by linarith) (neg_le_abs _))
  · exact Or.inr (le_trans (by linarith) (le_abs_self _))

/-- The neighbour that is read as the nearer one is the best fraction, up to two errors of the
reading. -/
theorem isBest_between (hreads : Reads x slack quotient distance) {low high : Fraction}
    (houtcome : Outcome limit x (sideOf quotient distance x) (.between low high)) :
    IsBest limit x (2 * slack) (if distance low ≤ distance high then low else high) := by
  obtain ⟨hbrackets, hlimit⟩ := houtcome
  have hlow := abs_le.mp (hreads.near low hbrackets.low_num_le)
  have hhigh := abs_le.mp (hreads.near high hbrackets.high_num_le)
  have hbest := hbrackets.min_le hlimit
  by_cases hle : distance low ≤ distance high
  · rw [if_pos hle]
    refine ⟨hbrackets.neighbours.coprime.1, hbrackets.low_den_le, hbrackets.low_num_le,
      fun p q hpos hq => ?_⟩
    change exactDistance x low ≤ _
    rcases hbest p hpos hq with hmin | hmin <;> linarith
  · rw [if_neg hle]
    refine ⟨hbrackets.neighbours.coprime.2, hbrackets.high_den_le, hbrackets.high_num_le,
      fun p q hpos hq => ?_⟩
    change exactDistance x high ≤ _
    rcases hbest p hpos hq with hmin | hmin <;> linarith

/-- **The walk finds the best fraction**, up to two errors of the reading of distances. -/
theorem isBest_nearestOf (hreads : Reads x slack quotient distance) (hslack : slack ≤ 1 / 2 ^ 51)
    (hlimit : 1 ≤ limit) (hmax : limit ≤ 9999) (hpos : 0 < x) (hone : x < 1) :
    IsBest limit x (2 * slack) (nearestOf quotient distance limit x) := by
  have hlow : ∀ f : Fraction, f.num ≤ f.den → sideOf quotient distance x f = .lt →
      f.value ≤ x := by
    intro f hnum hside
    by_contra habove
    rw [sideOf, if_neg (not_lt.mpr (hreads.le_quotient f hnum (le_of_lt (not_le.mp habove))))]
      at hside
    split at hside <;> cases hside
  have hhigh : ∀ f : Fraction, f.num ≤ f.den → sideOf quotient distance x f = .gt →
      x ≤ f.value := by
    intro f hnum hside
    by_contra hbelow
    -- a quotient that is rounded up to the number itself has ended the walk
    rcases lt_or_eq_of_le (hreads.quotient_le f hnum (le_of_lt (not_le.mp hbelow))) with hlt | heq
    · rw [sideOf, if_pos hlt] at hside
      split at hside <;> cases hside
    · rw [sideOf, if_pos (hreads.distance_lt f heq)] at hside
      cases hside
  have houtcome := outcome_of_reaches hlow hhigh
    (reaches_walk limit (sideOf quotient distance x) zero one)
    (brackets_start hlimit (le_of_lt hpos) (le_of_lt hone))
  rw [nearestOf, if_neg (not_le.mpr hpos), max_eq_left hlimit]
  generalize walk limit (sideOf quotient distance x) zero one = outcome at houtcome
  cases outcome with
  | found f => exact isBest_found hreads hmax hslack houtcome
  | between low high => exact isBest_between hreads houtcome

end Best

/-! ### Rational and floating point readings -/

/-- Rational quotients and distances do not err. -/
theorem reads_exact (x : Rat) : Reads x 0 value (exactDistance x) where
  quotient_le _ _ h := h
  le_quotient _ _ h := h
  distance_lt f h := by
    rw [exactDistance, h, sub_self, abs_zero]
    exact tolerance_bounds.1
  near f _ := by rw [sub_self, abs_zero]

section FloatingPoint

variable {f : Fraction}

theorem value_bounds (hnum : f.num ≤ f.den) : 0 ≤ f.value ∧ f.value ≤ 1 := by
  refine ⟨div_nonneg (Nat.cast_nonneg _) (Nat.cast_nonneg _), ?_⟩
  rw [value, div_le_one f.den_pos_rat]
  exact_mod_cast hnum

theorem quotient_eq (f : Fraction) : f.quotient = (Binary64.ofRat f.value).toRat := by
  rw [quotient, Binary64.ofQuotient_eq_ofRat f.den_pos (.inr rfl), if_neg Bool.false_ne_true,
    one_mul, value]

/-- The quotient is the nearest floating point number, and it errs by 2⁻⁵³ at most. -/
theorem isNearest_quotient (hnum : f.num ≤ f.den) :
    (Binary64.ofRat f.value).IsNearest f.value ∧ |f.quotient - f.value| ≤ 1 / 2 ^ 53 := by
  obtain ⟨hnonneg, hone⟩ := value_bounds hnum
  have hsize : |f.value| ≤ 2 ^ 0 := by rwa [abs_of_nonneg hnonneg, pow_zero]
  obtain ⟨hfinite, herror⟩ := Binary64.distance_ofRat (by decide) hsize
  rw [quotient_eq]
  exact ⟨Binary64.isNearest_ofRat hfinite, by rwa [pow_zero] at herror⟩

/-- Distances between numbers from 0 to 1 err by 2⁻⁵² more. -/
theorem distance_near {x : Rat} (hpos : 0 < x) (hone : x < 1) (hnum : f.num ≤ f.den) :
    |f.distance x - exactDistance x f| ≤ 1 / 2 ^ 52 + 1 / 2 ^ 53 := by
  have hquotient := (isNearest_quotient hnum).2
  have hvalue := value_bounds hnum
  have hsize : |f.quotient - x| ≤ 2 ^ 1 := by
    have hbounds := abs_le.mp hquotient
    refine abs_le.mpr ⟨?_, ?_⟩ <;> norm_num at hbounds ⊢ <;> linarith
  have herror := (Binary64.distance_ofRat (by decide) hsize).2
  rw [distance, exactDistance, Binary64.abs_toRat_eq]
  have hround := abs_abs_sub_abs_le (Binary64.ofRat (f.quotient - x)).toRat (f.quotient - x)
  have hmove := abs_abs_sub_abs_le (f.quotient - x) (f.value - x)
  rw [sub_sub_sub_cancel_right] at hmove
  have htriangle := abs_sub_le |(Binary64.ofRat (f.quotient - x)).toRat| |f.quotient - x|
    |f.value - x|
  norm_num at herror hquotient ⊢
  linarith

/-- Floating point quotients of fractions from 0 to 1 stay on their side of a floating point
number, since rounding finds the nearest one. -/
theorem reads_floatingPoint {x : Binary64} (hpos : 0 < x.toRat) (hone : x.toRat < 1) :
    Reads x.toRat (1 / 2 ^ 52 + 1 / 2 ^ 53) quotient (·.distance x.toRat) where
  quotient_le f hnum hle := by
    have hnearest := (isNearest_quotient hnum).1.le_distance x
      (Binary64.isFinite_of_toRat_ne_zero (ne_of_gt hpos))
    rw [← quotient_eq, abs_of_nonneg (sub_nonneg.mpr hle)] at hnearest
    linarith [le_abs_self (f.quotient - f.value)]
  le_quotient f hnum hle := by
    have hnearest := (isNearest_quotient hnum).1.le_distance x
      (Binary64.isFinite_of_toRat_ne_zero (ne_of_gt hpos))
    rw [← quotient_eq, abs_of_nonpos (sub_nonpos.mpr hle)] at hnearest
    linarith [neg_le_abs (f.quotient - f.value)]
  distance_lt f heq := by
    rw [distance, heq, sub_self, Binary64.abs_toRat_eq, Binary64.toRat_ofRat_zero, abs_zero]
    exact tolerance_bounds.1
  near f hnum := distance_near hpos hone hnum

/-- The floating point search finds the best fraction up to the rounding of two distances. -/
theorem isBest_floatingPoint {limit : Nat} (hlimit : 1 ≤ limit) (hmax : limit ≤ 9999)
    {x : Binary64} (hpos : 0 < x.toRat) (hone : x.toRat < 1) :
    IsBest limit x.toRat (1 / 2 ^ 50) (nearest limit x.toRat) := by
  rw [nearest_eq_nearestOf]
  exact (isBest_nearestOf (reads_floatingPoint hpos hone) (by norm_num) hlimit hmax hpos
    hone).mono (by norm_num)

end FloatingPoint

end Fraction

/-! ### The result -/

/-- A pattern that does not fix the denominator has room for one to four digits of it. -/
theorem FractionPattern.maxDenominator_range {pattern : Text}
    (h : (FractionPattern.ofText pattern).fixed = none) :
    1 ≤ (FractionPattern.ofText pattern).maxDenominator ∧
      (FractionPattern.ofText pattern).maxDenominator ≤ 9999 := by
  have hwidth : 1 ≤ (FractionPattern.ofText pattern).denominatorWidth := by
    simp only [FractionPattern.ofText] at h ⊢
    rw [h]
    exact le_max_right _ _
  have hlow := Nat.pow_le_pow_right (n := 10) (by decide) (le_min hwidth (by decide : 1 ≤ 4))
  have hhigh := Nat.pow_le_pow_right (n := 10) (by decide)
    (min_le_right (FractionPattern.ofText pattern).denominatorWidth 4)
  rw [FractionPattern.maxDenominator, h, Option.getD_none]
  omega

/-- So a pattern shows the part of a number below one as the best fraction that it has room
for. -/
theorem FractionPattern.isBest_fractionOf {pattern : Text}
    (h : (FractionPattern.ofText pattern).fixed = none) {x : Binary64} (hpos : 0 < x.toRat)
    (hone : x.toRat < 1) :
    ∃ f : Fraction, (FractionPattern.ofText pattern).fractionOf x.toRat = (f.num, f.den) ∧
      f.IsBest (FractionPattern.ofText pattern).maxDenominator x.toRat (1 / 2 ^ 50) := by
  obtain ⟨hlimit, hmax⟩ := maxDenominator_range h
  refine ⟨_, ?_, Fraction.isBest_floatingPoint hlimit hmax hpos hone⟩
  rw [fractionOf, h]

/-- **The fraction that is found is the best one.** For a number between 0 and 1 and a greatest
denominator that a pattern has room for, the walk ends, and what is found is in lowest terms,
from 0 to 1, with a denominator up to the greatest. No fraction with such a denominator is nearer
by more than 2⁻⁵⁰, and if quotients and distances are read as rational numbers, none is nearer at
all. -/
theorem Fraction.isBest_nearest {limit : Nat} (hlimit : 1 ≤ limit) (hmax : limit ≤ 9999) :
    (∀ x : Binary64, 0 < x.toRat → x.toRat < 1 →
      Reaches limit (side x.toRat) zero one (walk limit (side x.toRat) zero one) ∧
        IsBest limit x.toRat (1 / 2 ^ 50) (nearest limit x.toRat)) ∧
    (∀ x : Rat, 0 < x → x < 1 →
      Reaches limit (sideOf value (exactDistance x) x) zero one
          (walk limit (sideOf value (exactDistance x) x) zero one) ∧
        IsBest limit x 0 (nearestExact limit x)) := by
  refine ⟨fun x hpos hone => ⟨reaches_walk _ _ _ _, ?_⟩,
    fun x hpos hone => ⟨reaches_walk _ _ _ _, ?_⟩⟩
  · exact isBest_floatingPoint hlimit hmax hpos hone
  · have hbest := isBest_nearestOf (reads_exact x) (by norm_num) hlimit hmax hpos hone
    rwa [mul_zero] at hbest

/-- With one digit for the denominator, the number next to a third is shown as a third. -/
theorem Fraction.isBest_third :
    let third := Binary64.ofQuotient false 1 3
    (nearest 9 third.toRat).num = 1 ∧ (nearest 9 third.toRat).den = 3 ∧
      IsBest 9 third.toRat (1 / 2 ^ 50) (nearest 9 third.toRat) := by
  have hfound : nearest 9 (Binary64.ofQuotient false 1 3).toRat =
      mediant zero (mediant zero one) := by
    have hhalf : side (Binary64.ofQuotient false 1 3).toRat (mediant zero one) = .gt := by
      decide +kernel
    have hthird : side (Binary64.ofQuotient false 1 3).toRat (mediant zero (mediant zero one)) =
        .eq := by
      decide +kernel
    rw [nearest, if_neg (by decide +kernel), walk, dif_neg (by decide), hhalf]
    dsimp only
    rw [walk, dif_neg (by decide), hthird]
  intro third
  refine ⟨congrArg num hfound, congrArg den hfound, ?_⟩
  exact ((isBest_nearest (by decide) (by decide)).1 third (by decide +kernel)
    (by decide +kernel)).2

end Spreadsheet
