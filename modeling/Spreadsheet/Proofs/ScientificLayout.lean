/-
# What a section with an exponent shows

A section with an exponent shows a number in scientific notation: as many digits before the
point as it has places there, the first of them not a zero, and the number rounded to all its
places in front of the exponent. Nothing is left for the places behind the exponent, and no
number but zero is shown as zero.

* `ScientificDigits` — digits and an exponent as scientific notation has them.
* `NumberPattern.shown_scientific` — the digits of a number under a section with an exponent.
* `LayoutState.digitsText_exhausted` — what the items show when no digits are left.
* `NumberPattern.layout_scientific` — the layout of a number under a section with an exponent.
-/

import Spreadsheet.Proofs.DecimalSurvival
import Spreadsheet.Proofs.ShownDigits

namespace Spreadsheet

-- A power of a natural number is core's, whatever other instances are in scope.
attribute [local instance (high)] instPowNat

/-! ### Scientific notation -/

/-- The digits before and after the point and the exponent of `q` in scientific notation: with
`places` digits before the point, and rounded to `decimals` digits after it, of which zeros at
the end may be missing. -/
structure ScientificDigits (places decimals : Nat) (q : Rat) (integer fraction : List Nat)
    (e : Int) : Prop where
  integer_lt : ∀ digit ∈ integer, digit < 10
  fraction_lt : ∀ digit ∈ fraction, digit < 10
  length_integer : integer.length = places
  head_ne_zero : integer.head? ≠ some 0
  length_fraction : fraction.length ≤ decimals
  value : (Digits.value (integer ++ fraction) : Rat) * 10 ^ (e - fraction.length) =
    roundSignificant (places + decimals) q

namespace Decimal

theorem isZero_shift (places : Int) (d : Decimal) : (d.shift places).isZero = d.isZero := by
  unfold shift
  split <;> rfl

theorem length_integerDigits (d : Decimal) : d.integerDigits.length = d.scale.toNat := by
  simp [integerDigits]

/-- The same digits at another scale denote the number times a power of ten. -/
theorem toRat_withScale (d : Decimal) (scale : Int) :
    toRat { d with scale } * 10 ^ (d.scale - scale) = d.toRat := by
  rw [toRat, toRat, mul_assoc, ← zpow_add₀ (by norm_num)]
  congr 2
  ring

end Decimal

namespace NumberPattern

open Items

variable {pattern : NumberPattern}

/-- The places from the first zero on are no more than all places. -/
theorem minWhole_le (pattern : NumberPattern) : pattern.minWhole ≤ pattern.wholePlaces.length :=
  (List.dropWhile_sublist _).length_le

/-- Digits that fill the places get no zeros in front. -/
theorem padWhole_of_le {least : Nat} {digits : List Nat} (h : least ≤ digits.length) :
    padWhole least digits = digits := by
  rw [padWhole, Nat.sub_eq_zero_of_le h, List.replicate_zero, List.nil_append]

/-- With an exponent, the decimal of a number other than zero is rounded to significant digits,
which leaves no zero, and is shown with as many places before the point as the section has. -/
theorem exists_rounded_scientific (h : pattern.isScientific = true)
    (hplaces : pattern.wholePlaces.length ≠ 0) {x : Binary64} (hx : x.toRat ≠ 0) :
    ∃ d : Decimal, d.isZero = false ∧
      d.toRat = roundSignificant (pattern.wholePlaces.length + pattern.maxFraction)
        ((Decimal.ofBinary64 x).toRat * 10 ^ pattern.power) ∧
      pattern.rounded x = ({ d with scale := (pattern.wholePlaces.length : Int) },
        d.scale - pattern.wholePlaces.length) := by
  have hnormal := Decimal.normalised_shift pattern.power (Decimal.normalised_ofBinary64 x)
  have hsome : ((Decimal.ofBinary64 x).shift pattern.power).isZero = false := by
    rw [Decimal.isZero_shift, Bool.eq_false_iff, Ne, Decimal.isZero_ofBinary64_iff]
    exact hx
  have hcount : 0 < pattern.wholePlaces.length + pattern.maxFraction := by omega
  have hlead : max pattern.wholePlaces.length 1 = pattern.wholePlaces.length := by omega
  have hne := Decimal.isZero_round_significant hnormal hsome hcount
  refine ⟨_, hne, ?_, ?_⟩
  · rw [Decimal.toRat_round_significant hnormal hsome, Decimal.toRat_shift]
  · rw [rounded_scientific h x rfl hlead rfl, hne, if_neg Bool.false_ne_true]

/-- **The digits of a number under a section with an exponent** are those of its decimal in
scientific notation, and a number other than zero is not shown as zero. -/
theorem shown_scientific (h : pattern.isScientific = true)
    (hplaces : pattern.wholePlaces.length ≠ 0) {x : Binary64} (hx : x.toRat ≠ 0) :
    ScientificDigits pattern.wholePlaces.length pattern.maxFraction
        ((Decimal.ofBinary64 x).toRat * 10 ^ pattern.power) (pattern.shown x).whole
        (pattern.shown x).fraction (pattern.shown x).exponent ∧
      (pattern.shown x).isZero = false := by
  obtain ⟨d, hne, hvalue, hrounded⟩ := exists_rounded_scientific h hplaces hx
  have hexponent : (pattern.shown x).exponent = d.scale - pattern.wholePlaces.length := by
    rw [shown, hrounded]
  have hlength : (pattern.rounded x).1.integerDigits.length = pattern.wholePlaces.length := by
    rw [hrounded, Decimal.length_integerDigits]
    rfl
  have hwhole : (pattern.shown x).whole = (pattern.rounded x).1.integerDigits := by
    rw [shown_whole]
    exact padWhole_of_le (by rw [hlength]; exact pattern.minWhole_le)
  have hdigits := digit_lt_shown pattern x
  have hshown := value_shown pattern x
  constructor
  · exact
      { integer_lt := hdigits.1
        fraction_lt := hdigits.2
        length_integer := by rw [hwhole, hlength]
        head_ne_zero := by
          rw [hwhole]
          exact Decimal.head?_integerDigits_ne_zero (normalised_rounded pattern x).1
        length_fraction := length_shown_fraction_le pattern x
        value := by
          rw [← hvalue, ← d.toRat_withScale pattern.wholePlaces.length, hexponent]
          rw [hrounded] at hshown
          rw [← hshown, mul_assoc, ← zpow_add₀ (by norm_num)]
          congr 2
          ring }
  · rw [shown, hrounded]
    exact hne

end NumberPattern

/-! ### When nothing is left to show -/

namespace LayoutState

open Items

variable (locale : Locale) (exponent : Int)

/-- All digits are shown. -/
structure Exhausted (state : LayoutState) : Prop where
  glyphs : state.glyphs.flatten = []
  fraction : state.fraction = []

/-- Then no item changes that. -/
theorem Exhausted.step {state : LayoutState} (h : state.Exhausted) (item : Item) :
    (state.step locale exponent item).2.Exhausted := by
  have hnone := List.flatten_eq_nil_iff.mp h.glyphs
  have hfraction := h.fraction
  cases item with
  | digit zero =>
    rw [LayoutState.step]
    split
    · exact h
    · split
      · exact ⟨h.glyphs, by rw [takeFraction, hfraction]; rfl⟩
      · refine ⟨?_, hfraction⟩
        rw [List.flatten_eq_nil_iff]
        exact fun glyph hglyph => hnone glyph (List.mem_of_mem_drop hglyph)
  | point => exact ⟨rfl, hfraction⟩
  | exponent _ _ _ => exact ⟨h.glyphs, hfraction⟩
  | _ => exact h

/-- And neither a place nor the point shows anything. -/
theorem Exhausted.text_eq_nil {state : LayoutState} (h : state.Exhausted) {item : Item}
    (hitem : (item.isDigit || item == .point) = true) :
    (state.step locale exponent item).1 = [] := by
  have hnone := List.flatten_eq_nil_iff.mp h.glyphs
  cases item with
  | digit zero =>
    rw [LayoutState.step]
    split
    · rfl
    · split
      · rw [takeFraction, h.fraction]
        rfl
      · rw [takeWhole]
        dsimp only
        rw [List.flatten_eq_nil_iff]
        exact fun glyph hglyph => hnone glyph (List.mem_of_mem_take hglyph)
  | point =>
    rw [LayoutState.step, takePoint, h.glyphs, h.fraction]
    rfl
  | _ => cases hitem

/-- **When no digits are left, the places and the point show nothing.** -/
theorem digitsText_exhausted {state : LayoutState} (h : state.Exhausted) (items : List Item) :
    digitsText (state.layout locale exponent items) = [] := by
  induction items generalizing state with
  | nil => rfl
  | cons item rest ih =>
    have hrest := ih (h.step locale exponent item)
    rw [digitsText] at hrest ⊢
    rw [layout, List.filter_cons]
    split
    · rename_i hitem
      rw [List.flatMap_cons, hrest, h.text_eq_nil locale exponent hitem, List.append_nil]
    · exact hrest

theorem after_append (state : LayoutState) (front back : List Item) :
    state.after locale exponent (front ++ back) =
      (state.after locale exponent front).after locale exponent back := by
  induction front generalizing state with
  | nil => rfl
  | cons item rest ih => rw [List.cons_append, after, after, ih]

/-- The places after the point take one digit each, and nothing else. -/
theorem after_fraction {items : List Item} (state : LayoutState)
    (hitems : ∀ item ∈ items, item.isDigit = true ∨ item.isConstant = true)
    (hfraction : state.inFraction = true) (hexponent : state.afterExponent = false) :
    state.after locale exponent items =
      { state with fraction := state.fraction.drop (countPlaces items) } := by
  induction items generalizing state with
  | nil => rfl
  | cons item rest ih =>
    rw [List.forall_mem_cons] at hitems
    rcases hitems.1 with hdigit | hconstant
    · cases item with
      | digit zero =>
        have hstep : state.step locale exponent (.digit zero) = state.takeFraction := by
          rw [LayoutState.step, hexponent, hfraction]
          rfl
        rw [after, hstep, ih state.takeFraction.2 hitems.2 hfraction hexponent,
          countPlaces_cons_digit, takeFraction]
        dsimp only
        rw [List.drop_drop, Nat.add_comm]
      | _ => cases hdigit
    · rw [after, step_of_isConstant hconstant, countPlaces_cons_constant hconstant]
      exact ih state hitems.2 hfraction hexponent

/-- After items with a place before the point, and with places for all digits after it, no
digits are left. -/
theorem exhausted_after {items : List Item} (state : LayoutState)
    (hexponents : ∀ item ∈ items, item.isExponent = false)
    (hpoint : Item.point ∉ afterPoint items) (hplace : countPlaces (beforePoint items) ≠ 0)
    (hinFraction : state.inFraction = false) (hexponent : state.afterExponent = false)
    (hplaces : state.places = countPlaces (beforePoint items))
    (hfraction : state.fraction.length ≤ countPlaces (afterPoint items)) :
    (state.after locale exponent items).Exhausted := by
  have hwhole := isDigit_or_isConstant_beforePoint hexponents
  have hrest := isDigit_or_isConstant_afterPoint hexponents hpoint
  obtain ⟨glyphs, hafter, -, hnone⟩ :=
    digitsText_layout_whole locale exponent state hwhole hinFraction hexponent hplaces
  rw [beforePoint_append items, after_append, hafter]
  by_cases hmem : Item.point ∈ items
  · have hback := after_fraction locale exponent
      { state with glyphs := [], places := 0, inFraction := true } hrest rfl hexponent
    rw [if_pos hmem, after, LayoutState.step, takePoint]
    dsimp only
    rw [hback]
    exact ⟨rfl, List.drop_of_length_le hfraction⟩
  · rw [afterPoint_of_notMem hmem] at hfraction
    rw [if_neg hmem, after]
    exact ⟨hnone hplace, List.length_eq_zero_iff.mp (Nat.le_zero.mp hfraction)⟩

end LayoutState

/-! ### Sections with an exponent -/

theorem Items.afterPoint_subset_append (front back : List Item) :
    afterPoint front ⊆ afterPoint (front ++ back) := by
  induction front with
  | nil => exact List.nil_subset _
  | cons item rest ih =>
    by_cases hpoint : item = .point
    · subst hpoint
      simp [afterPoint]
    · have hafter : ∀ items, afterPoint (item :: items) = afterPoint items := by
        intro items
        simp [afterPoint, hpoint]
      rw [List.cons_append, hafter, hafter]
      exact ih

namespace NumberPattern

open Items

section Exponent

variable {pattern : NumberPattern} {front back : List Item} {marker : Char} {plus : Bool}
  {width : Nat} (hitems : pattern.items = front ++ .exponent marker plus width :: back)
include hitems

theorem isScientific_of_items : pattern.isScientific = true := by
  rw [isScientific, hitems, List.any_append, List.any_cons, Item.isExponent, Bool.true_or,
    Bool.or_true]

/-- The symbols of both sides of the exponent multiply, and the commas in front of it divide. -/
theorem power_eq_scale (hmantissa : pattern.mantissa = front) :
    pattern.power = scale front + (2 * back.count .percent + 3 * back.count .perMille) := by
  rw [power_eq_count, wholeItems_eq_beforePoint, hmantissa, hitems, scale, List.count_append,
    List.count_append, List.count_cons_of_ne (by simp), List.count_cons_of_ne (by simp)]
  push_cast
  ring

/-- **The layout of a section with an exponent**: what stands in front of the exponent, the
exponent, and what is left behind it. -/
theorem layout_eq_append (locale : Locale) (x : Binary64) :
    pattern.layout locale x =
      (pattern.start locale (pattern.shown x)).layout locale (pattern.shown x).exponent front ++
        (.exponent marker plus width,
            exponentText locale marker plus width (pattern.shown x).exponent) ::
          ((pattern.start locale (pattern.shown x)).after locale (pattern.shown x).exponent
            (front ++ [.exponent marker plus width])).layout locale (pattern.shown x).exponent
              back := by
  rw [layout, hitems, LayoutState.layout_append, LayoutState.layout, LayoutState.after_append]
  rfl

variable (hfront : ∀ item ∈ front, item.isExponent = false)
include hfront

/-- The items in front of the exponent belong to the number. -/
theorem mantissa_eq_front : pattern.mantissa = front := by
  have hall : ∀ item ∈ front, (!item.isExponent) = true := by
    intro item hmem
    rw [hfront item hmem, Bool.not_false]
  rw [mantissa, hitems, List.takeWhile_append_of_pos hall,
    List.takeWhile_cons_of_neg (by simp [Item.isExponent]), List.append_nil]

end Exponent

/-- **What a section with an exponent shows of a number other than zero.** The places and the
point in front of the exponent show the digits, in groups when commas separate places, and
those behind it show nothing. They are the digits in scientific notation of the decimal of
fifteen digits that is nearest to the number, multiplied as the section asks, and the exponent
is theirs: padded with zeros, after the negative sign of the locale, a plus sign that the
section asks for, or no sign. The number is not shown as zero. -/
theorem layout_scientific (source : Text) (locale : Locale) {x : Binary64} (hx : x.toRat ≠ 0)
    {front back : List Item} {marker : Char} {plus : Bool} {width : Nat}
    (hitems : (ofText source).items = front ++ .exponent marker plus width :: back)
    (hfront : ∀ item ∈ front, item.isExponent = false)
    (hplaces : countPlaces (beforePoint front) ≠ 0) :
    (ofText source).text locale x = ((ofText source).layout locale x).flatMap Prod.snd ∧
      ((ofText source).shown x).isZero = false ∧
      ∃ d integer fraction e shownFront shownBack,
        NearestDecimal 15 x.abs.toRat d ∧
        ScientificDigits (countPlaces (beforePoint front)) (countPlaces (afterPoint front))
          (d * 10 ^ (scale front + (2 * back.count .percent + 3 * back.count .perMille)))
          integer fraction e ∧
        (ofText source).layout locale x = shownFront ++ (.exponent marker plus width,
          marker :: (if e < 0 then locale.negativeSign else if plus then ['+'] else []) ++
            (Nat.toDigits 10 e.natAbs).leftpad width '0') :: shownBack ∧
        shownFront.map Prod.fst = front ∧ shownBack.map Prod.fst = back ∧
        digitsText shownFront =
          (if Separated (beforePoint front) then
            groupThousands locale.groupSeparator (Digits.text integer)
          else Digits.text integer) ++
            (if fraction = [] then [] else locale.decimalSeparator :: Digits.text fraction) ∧
        digitsText shownBack = [] := by
  have hpoint : Item.point ∉ afterPoint front := by
    intro hmem
    apply point_notMem_afterPoint ((lexemes source).map Item.ofLexeme)
    have hsubset := afterPoint_subset_append front (.exponent marker plus width :: back) hmem
    rwa [← hitems] at hsubset
  generalize ofText source = pattern at hitems ⊢
  have hmantissa := mantissa_eq_front hitems hfront
  have hwholePlaces : pattern.wholePlaces.length = countPlaces (beforePoint front) := by
    rw [length_wholePlaces, wholeItems_eq_beforePoint, hmantissa]
  have hmaxFraction : pattern.maxFraction = countPlaces (afterPoint front) := by
    rw [maxFraction_eq, fractionItems_eq_afterPoint, hmantissa]
  obtain ⟨hdigits, hzero⟩ := shown_scientific (isScientific_of_items hitems)
    (by rw [hwholePlaces]; exact hplaces) hx
  rw [hwholePlaces, hmaxFraction, power_eq_scale hitems hmantissa] at hdigits
  have hmantissaPoint : Item.point ∉ afterPoint pattern.mantissa := by rwa [hmantissa]
  have hmantissaPlaces : countPlaces (beforePoint pattern.mantissa) ≠ 0 := by rwa [hmantissa]
  have hshownFront := digitsText_mantissa locale x hmantissaPoint (Or.inr hmantissaPlaces)
  have hnil : Digits.text (pattern.shown x).fraction = [] ↔ (pattern.shown x).fraction = [] := by
    rw [Digits.text, List.map_eq_nil_iff]
  rw [flatten_wholeGlyphs_grouped, wholeItems_eq_beforePoint, hmantissa] at hshownFront
  simp only [hnil] at hshownFront
  have hlength : (pattern.start locale (pattern.shown x)).fraction.length ≤
      countPlaces (afterPoint front) := by
    rw [← hmaxFraction, start, Digits.text, List.length_map]
    exact length_shown_fraction_le pattern x
  have hexhausted := LayoutState.exhausted_after locale (pattern.shown x).exponent
    (pattern.start locale (pattern.shown x)) hfront hpoint hplaces rfl rfl hwholePlaces hlength
  refine ⟨rfl, hzero, _, _, _, _, _, _, Decimal.nearestDecimal_ofBinary64 x, hdigits,
    layout_eq_append hitems locale x, LayoutState.items_layout _ _ _ _,
    LayoutState.items_layout _ _ _ _, hshownFront, ?_⟩
  rw [LayoutState.after_append]
  exact LayoutState.digitsText_exhausted locale _
    (hexhausted.step locale (pattern.shown x).exponent (.exponent marker plus width)) back

/-- A carry through all digits raises the exponent, and a percent sign behind it counts. -/
theorem layout_scientific_carry :
    (Binary64.ofRat (31999999 / 32)).toRat ≠ 0 ∧
      (ofText "0,000.0E+00%".toList).items =
        [.digit true, .comma, .digit true, .digit true, .digit true, .point, .digit true] ++
          .exponent 'E' true 2 :: [.percent] ∧
      roundSignificant 5 (799999975 / 8) = 10 ^ 8 ∧
      ((ofText "0,000.0E+00%".toList).shown (.ofRat (31999999 / 32))).isZero = false ∧
      ∃ integer fraction e shownFront shownBack,
        ScientificDigits 4 1 (799999975 / 8) integer fraction e ∧
        (ofText "0,000.0E+00%".toList).layout .german (.ofRat (31999999 / 32)) =
          shownFront ++ (.exponent 'E' true 2, 'E' :: (if e < 0 then ['-'] else ['+']) ++
            (Nat.toDigits 10 e.natAbs).leftpad 2 '0') :: shownBack ∧
        digitsText shownFront = groupThousands '.' (Digits.text integer) ++
          (if fraction = [] then [] else ',' :: Digits.text fraction) := by
  have hne : (Binary64.ofRat (31999999 / 32)).toRat ≠ 0 := by decide +kernel
  have hitems : (ofText "0,000.0E+00%".toList).items =
      [.digit true, .comma, .digit true, .digit true, .digit true, .point, .digit true] ++
        .exponent 'E' true 2 :: [.percent] := by decide +kernel
  have hround : roundSignificant 5 (799999975 / 8) = 10 ^ 8 := by decide +kernel
  have hmagnitude : (Binary64.ofRat (31999999 / 32)).abs.toRat = 31999999 / 32 := by
    decide +kernel
  have hdigits : ((999999968750000 : Nat) : Rat) * 10 ^ ((6 : Int) - (15 : Nat)) =
      31999999 / 32 := by decide +kernel
  have hdecimal := nearestDecimal_self (by decide : 0 < 15) (by norm_num)
    (by norm_num : 999999968750000 < 10 ^ 15) 6
  rw [hdigits] at hdecimal
  obtain ⟨-, hzero, d, integer, fraction, e, shownFront, shownBack, hd, hshown, hlayout, -, -,
    hfrontText, -⟩ :=
    layout_scientific "0,000.0E+00%".toList .german hne hitems (by decide) (by decide)
  rw [hmagnitude] at hd
  obtain rfl := hd.unique hdecimal
  have hscaled : (31999999 / 32 : Rat) *
      10 ^ (scale [.digit true, .comma, .digit true, .digit true, .digit true, .point,
        .digit true] + (2 * [Item.percent].count .percent + 3 * [Item.percent].count .perMille)) =
      799999975 / 8 := by decide +kernel
  rw [hscaled] at hshown
  rw [if_pos (by decide)] at hfrontText
  exact ⟨hne, hitems, hround, hzero, integer, fraction, e, shownFront, shownBack, hshown, hlayout,
    hfrontText⟩

example : (ofText "0,000.0E+00%".toList).text .german (.ofRat (31999999 / 32)) =
    "1.000,0E+05%".toList := by decide +kernel

end NumberPattern

end Spreadsheet
