/-
# What is shown is shown again

A number that is read from what the general format or a fixed-point pattern shows of
another one is shown as the same text: the decimal in the text survives, and rounding it
a second time changes nothing.

* `Locale.format_readNumber?` — showing, reading and showing again.
-/

import Spreadsheet.Proofs.FixedPoint
import Spreadsheet.Proofs.GeneralNotation

namespace Spreadsheet

-- A power of a natural number is core's, whatever other instances are in scope.
attribute [local instance (high)] instPowNat

/-! ### Signs -/

namespace Binary64

/-- A finite number is its magnitude with its sign. -/
theorem toRat_eq_sign {x : Binary64} (hx : x.isFinite = true) :
    x.toRat = (if x.isNegative then -1 else 1) * |x.toRat| := by
  simp only [isNegative_iff hx]
  exact (sign_mul_abs x.toRat).symm

/-- The sign of a rational number that is not rounded to zero stays. -/
theorem isNegative_ofRat {q : Rat} (h : (ofRat q).isFinite = true) (hne : (ofRat q).toRat ≠ 0) :
    (ofRat q).isNegative = decide (q < 0) := by
  obtain ⟨units, -, hvalue, -⟩ := toRat_ofRat_units h
  have hpos : 0 < (units : Rat) / unitsInOne := by
    refine lt_of_le_of_ne (div_nonneg (Nat.cast_nonneg _) (Nat.cast_nonneg _)) fun hzero => ?_
    rw [hvalue, ← hzero, mul_zero] at hne
    exact hne rfl
  rw [Bool.eq_iff_iff, isNegative_iff h, hvalue, decide_eq_true_iff]
  by_cases hneg : q < 0
  · simp [hneg, hpos]
  · simp [hneg, le_of_lt hpos]

end Binary64

/-! ### The general format is stable -/

namespace Binary64

variable {negative : Bool} {d : Decimal}

/-- Numbers with one sign are as far apart as their magnitudes. -/
theorem abs_toRat_sub_sign_mul {x : Binary64} (hx : x.isFinite = true) (q : Rat) :
    |x.toRat - (if x.isNegative then -1 else 1) * q| = |(|x.toRat|) - q| := by
  conv => lhs; rw [toRat_eq_sign hx, ← mul_sub, abs_sign_mul]

/-- A number that is shown from a decimal other than zero has the sign of the decimal that
it was rounded from. -/
theorem isNegative_ofRat_sign {q : Rat} (hq : q = (if negative then -1 else 1) * d.toRat)
    (h : (ofRat q).isFinite = true) (hne : (Decimal.ofBinary64 (ofRat q)).isZero = false) :
    (ofRat q).isNegative = negative := by
  have hvalue : (ofRat q).toRat ≠ 0 := by
    intro hzero
    rw [Decimal.ofBinary64_of_toRat_eq_zero hzero] at hne
    cases hne
  have hmagnitude : d.toRat ≠ 0 := by
    intro hzero
    rw [hq, hzero, mul_zero] at hvalue
    exact hvalue toRat_ofRat_zero
  rw [isNegative_ofRat h hvalue, hq]
  exact decide_sign_mul_lt negative d.toRat_nonneg (Or.inl hmagnitude)

end Binary64

namespace Locale

/-- A number that is read from the general format is shown as the same text. -/
theorem formatGeneral_of_readNumber? {locale : Locale} (hlocale : locale ∈ registered)
    {x w : Binary64} (hx : x.isFinite = true)
    (hread : locale.readNumber? (formatGeneral locale x) = some w) :
    formatGeneral locale w = formatGeneral locale x := by
  rw [readNumber?_formatGeneral_eq hlocale hx, Option.filter_eq_some_iff] at hread
  obtain ⟨hsome, hw⟩ := hread
  obtain rfl := Option.some.inj hsome
  have hmagnitude : |(if x.isNegative then -1 else 1) * (Decimal.ofBinary64 x).toRat| =
      (Decimal.ofBinary64 x).toRat := by
    rw [Binary64.abs_sign_mul_of_nonneg (Decimal.toRat_nonneg _)]
  have hsame := Decimal.ofBinary64_ofRat_ofBinary64 hx hmagnitude
    (by rw [hmagnitude, Binary64.abs_toRat_sub_sign_mul hx]) hw
  rw [formatGeneral, formatGeneral, if_pos hw, if_pos hx, hsame]
  dsimp only
  by_cases hzero : (Decimal.ofBinary64 x).isZero = true
  · rw [if_pos hzero, if_pos hzero]
  · rw [Bool.not_eq_true] at hzero
    rw [Binary64.isNegative_ofRat_sign rfl hw (by rw [hsame, hzero])]

end Locale

/-! ### Fixed-point patterns are stable -/

theorem Binary64.leastNormal_le_pow : leastNormal ≤ 10 ^ (-300 : Int) := by
  obtain ⟨k, hk, hunits⟩ : ∃ k : Nat, k = 300 ∧ 2 ^ (52 : Nat) * 10 ^ k ≤ unitsInOne := by
    refine ⟨300, rfl, ?_⟩
    unfold unitsInOne
    decide +kernel
  have hpos : (0 : Rat) < unitsInOne := by exact_mod_cast unitsInOne_pos
  have hplace : (-300 : Int) = -(k : Int) := by omega
  have hten : (0 : Rat) < 10 ^ k := by positivity
  rw [leastNormal, hplace, zpow_neg, zpow_natCast, ← one_div, div_le_div_iff₀ hpos hten, one_mul]
  exact_mod_cast hunits

namespace NumberPattern

variable {pattern : NumberPattern} {x w : Binary64}

/-- The text of a number is determined by the decimal that is shown. -/
theorem shown_congr (h : pattern.rounded w = pattern.rounded x) :
    pattern.shown w = pattern.shown x := by
  rw [shown, shown, h]

theorem text_congr (h : pattern.shown w = pattern.shown x) (locale : Locale) :
    pattern.text locale w = pattern.text locale x := by
  rw [text, text, layout, layout, h]

/-- A number that is shown from the decimal that another number is rounded to is rounded
to the same decimal. -/
theorem rounded_of_ofBinary64_eq (hscientific : pattern.isScientific = false)
    (hpower : pattern.power = 0) (h : Decimal.ofBinary64 w = (pattern.rounded x).1) :
    pattern.rounded w = pattern.rounded x := by
  have hlength := Decimal.length_digits_round_natCast_le pattern.maxFraction
    (Decimal.normalised_shift 0 (Decimal.normalised_ofBinary64 x))
  rw [rounded_eq hscientific, hpower] at h
  rw [rounded_eq hscientific, rounded_eq hscientific, hpower, h, Decimal.shift_zero,
    Decimal.round_eq_self hlength]

/-- Rounded for a section that does not scale, a number has at most fifteen digits. -/
theorem length_digits_rounded_le (hscientific : pattern.isScientific = false)
    (hpower : pattern.power = 0) :
    (pattern.rounded x).1.digits.length ≤ Decimal.shownDigits := by
  rw [rounded_eq hscientific, hpower, Decimal.shift_zero]
  exact Nat.le_trans (Decimal.length_digits_round_le_length _ _)
    (Decimal.length_digits_ofBinary64_le x)

end NumberPattern

namespace IsFixedPoint

variable {pattern : Text} (hpattern : IsFixedPoint pattern)
include hpattern

/-- Without commas that scale the number is shown as it is. -/
theorem power_eq_zero (hscaling : pattern.scalingCommas = 0) :
    (NumberPattern.ofText pattern).power = 0 := by
  rw [NumberPattern.power_eq hpattern.not_isExponent, hpattern.scale_eq, hscaling]
  rfl

/-- The decimal that is shown survives, when it is zero or not below all numbers of 53
places. -/
theorem ofBinary64_ofRat_rounded (hpower : (NumberPattern.ofText pattern).power = 0)
    {x : Binary64} {q : Rat} (hq : |q| = ((NumberPattern.ofText pattern).rounded x).1.toRat)
    (hlow : ((NumberPattern.ofText pattern).rounded x).1.toRat = 0 ∨
      Binary64.leastNormal ≤ ((NumberPattern.ofText pattern).rounded x).1.toRat)
    (h : (Binary64.ofRat q).isFinite = true) :
    Decimal.ofBinary64 (Binary64.ofRat q) = ((NumberPattern.ofText pattern).rounded x).1 := by
  have hscientific := NumberPattern.isScientific_eq_false hpattern.not_isExponent
  have hnormal := (NumberPattern.normalised_rounded (NumberPattern.ofText pattern) x).1
  have hlength := NumberPattern.length_digits_rounded_le (x := x) hscientific hpower
  rcases hlow with hzero | hlow
  · rw [hzero, abs_eq_zero] at hq
    rw [hq, Decimal.ofBinary64_of_toRat_eq_zero Binary64.toRat_ofRat_zero]
    exact Decimal.normalised_zero.eq_of_toRat_eq hnormal
      (by rw [hzero, Decimal.toRat_of_isZero rfl])
  · exact Decimal.ofBinary64_ofRat_of_leastNormal_le hnormal hlength hq hlow h

/-- The text is determined by what is shown and by the sign of a number that is not
rounded to zero. -/
theorem formatNumber_congr {x w : Binary64} (hx : x.isFinite = true) (hw : w.isFinite = true)
    (locale : Locale)
    (hshown : (NumberPattern.ofText pattern).shown w = (NumberPattern.ofText pattern).shown x)
    (hsign : ((NumberPattern.ofText pattern).shown x).isZero = false →
      w.isNegative = x.isNegative) :
    formatNumber locale pattern w = formatNumber locale pattern x := by
  rw [hpattern.isBarePattern.formatNumber_eq hw, hpattern.isBarePattern.formatNumber_eq hx,
    NumberPattern.text_congr hshown, hshown]
  cases hzero : ((NumberPattern.ofText pattern).shown x).isZero with
  | true => simp only [Bool.not_true, Bool.and_false]
  | false => rw [hsign hzero]

/-- A number that is read from a fixed-point pattern is shown as the same text. -/
theorem formatNumber_of_readNumber? {locale : Locale} (hlocale : locale ∈ Locale.registered)
    (hscaling : pattern.scalingCommas = 0) {x w : Binary64} (hx : x.isFinite = true)
    (hlow : ((NumberPattern.ofText pattern).rounded x).1.toRat = 0 ∨
      10 ^ (-300 : Int) ≤ ((NumberPattern.ofText pattern).rounded x).1.toRat)
    (hread : locale.readNumber? (formatNumber locale pattern x) = some w) :
    formatNumber locale pattern w = formatNumber locale pattern x := by
  have hscientific := NumberPattern.isScientific_eq_false hpattern.not_isExponent
  have hpower := hpattern.power_eq_zero hscaling
  rw [hpattern.readNumber?_formatNumber_eq hlocale hx, fixedPointValue, ← hpattern.toRat_rounded,
    Option.filter_eq_some_iff] at hread
  obtain ⟨hsome, hw⟩ := hread
  obtain rfl := Option.some.inj hsome
  have hmagnitude : |(if x.isNegative then -1 else 1) *
      ((NumberPattern.ofText pattern).rounded x).1.toRat| =
        ((NumberPattern.ofText pattern).rounded x).1.toRat := by
    rw [Binary64.abs_sign_mul_of_nonneg (Decimal.toRat_nonneg _)]
  have hsame := hpattern.ofBinary64_ofRat_rounded hpower hmagnitude
    (hlow.imp_right (le_trans Binary64.leastNormal_le_pow)) hw
  refine hpattern.formatNumber_congr hx hw locale (NumberPattern.shown_congr
    (NumberPattern.rounded_of_ofBinary64_eq hscientific hpower hsame)) fun hzero => ?_
  exact Binary64.isNegative_ofRat_sign rfl hw (by rw [hsame]; exact hzero)

end IsFixedPoint

/-! ### Showing, reading and showing again -/

/-- **What is shown is shown again.** A number that is read from the general format of
another number, or from a fixed-point pattern that does not scale, is shown as the same
text; under a pattern, when the decimal that is shown is zero or at least `10 ^ -300`. -/
theorem Locale.format_readNumber? {locale : Locale} (hlocale : locale ∈ registered)
    {x : Binary64} (hx : x.isFinite = true) :
    (∀ w, locale.readNumber? (formatGeneral locale x) = some w →
      formatGeneral locale w = formatGeneral locale x) ∧
    ∀ pattern, IsFixedPoint pattern → pattern.scalingCommas = 0 →
      ∃ d, NearestDecimal 15 x.abs.toRat d ∧
        (fixedPointValue pattern x.isNegative d = 0 ∨
            10 ^ (-300 : Int) ≤ |fixedPointValue pattern x.isNegative d| →
          ∀ w, locale.readNumber? (formatNumber locale pattern x) = some w →
            formatNumber locale pattern w = formatNumber locale pattern x) := by
  refine ⟨fun w => formatGeneral_of_readNumber? hlocale hx, fun pattern hpattern hscaling =>
    ⟨_, Decimal.nearestDecimal_ofBinary64 x, fun hlow w =>
      hpattern.formatNumber_of_readNumber? hlocale hscaling hx ?_⟩⟩
  rw [fixedPointValue, ← hpattern.toRat_rounded, Binary64.abs_sign_mul,
    abs_of_nonneg (Decimal.toRat_nonneg _)] at hlow
  refine hlow.imp_left fun hzero => ?_
  rw [← abs_of_nonneg (Decimal.toRat_nonneg _), ← Binary64.abs_sign_mul, hzero, abs_zero]

/-- The number is shown as `10 ^ 15`, by a carry through all digits, and read as that. -/
theorem Locale.format_readNumber?_carry :
    swedish ∈ registered ∧ (Binary64.ofRat (-9999999999999999 / 10)).isFinite = true ∧
      swedish.readNumber? (formatGeneral swedish (.ofRat (-9999999999999999 / 10))) =
        some (.ofRat (-10 ^ 15)) ∧
      formatGeneral swedish (.ofRat (-10 ^ 15)) =
        formatGeneral swedish (.ofRat (-9999999999999999 / 10)) ∧
      IsFixedPoint "#,##0.0#".toList ∧
      Text.scalingCommas "#,##0.0#".toList = 0 ∧
      fixedPointValue "#,##0.0#".toList true (10 ^ 15) = -10 ^ 15 ∧
      swedish.readNumber?
          (formatNumber swedish "#,##0.0#".toList (.ofRat (-9999999999999999 / 10))) =
        some (.ofRat (-10 ^ 15)) ∧
      formatNumber swedish "#,##0.0#".toList (.ofRat (-10 ^ 15)) =
        formatNumber swedish "#,##0.0#".toList (.ofRat (-9999999999999999 / 10)) := by
  have hlocale : swedish ∈ registered := by decide
  have hfinite : (Binary64.ofRat (-9999999999999999 / 10)).isFinite = true := by decide +kernel
  have hgeneral : swedish.readNumber? (formatGeneral swedish (.ofRat (-9999999999999999 / 10))) =
      some (.ofRat (-10 ^ 15)) := by decide +kernel
  have hpattern : IsFixedPoint "#,##0.0#".toList := by decide
  have hscaling : Text.scalingCommas "#,##0.0#".toList = 0 := by decide +kernel
  have hvalue : fixedPointValue "#,##0.0#".toList true (10 ^ 15) = -10 ^ 15 := by decide +kernel
  have hnumber : swedish.readNumber?
      (formatNumber swedish "#,##0.0#".toList (.ofRat (-9999999999999999 / 10))) =
        some (.ofRat (-10 ^ 15)) := by decide +kernel
  have hnegative : (Binary64.ofRat (-9999999999999999 / 10)).isNegative = true := by
    decide +kernel
  have hmagnitude : (Binary64.ofRat (-9999999999999999 / 10)).abs.toRat = 7999999999999999 / 8 := by
    decide +kernel
  have hdecimal : NearestDecimal 15 (7999999999999999 / 8)
      (((10 ^ 15 : Nat) : Rat) * 10 ^ ((15 : Int) - (15 : Nat))) :=
    .nearest 15 _ (by norm_num) (by norm_num) (by decide +kernel) fun _ => by decide
  have hcarry : ((10 ^ 15 : Nat) : Rat) * 10 ^ ((15 : Int) - (15 : Nat)) = 10 ^ 15 := by norm_num
  rw [hcarry] at hdecimal
  obtain ⟨hshow, hshowPattern⟩ := format_readNumber? hlocale hfinite
  obtain ⟨d, hd, hstable⟩ := hshowPattern _ hpattern hscaling
  rw [hmagnitude] at hd
  obtain rfl := hd.unique hdecimal
  rw [hnegative, hvalue] at hstable
  exact ⟨hlocale, hfinite, hgeneral, hshow _ hgeneral, hpattern, hscaling, hvalue, hnumber,
    hstable (Or.inr (by decide +kernel)) _ hnumber⟩

end Spreadsheet
