/-
# The digits that a section shows

A section shows the digits of the rounded number along its places: those before the point, in
groups or not, and those after it, without the zeros at the end that the section leaves out.
Whether the section has an exponent or not, the digits denote the rounded decimal.

* `writesDigits_glyphs` — the digits before the point are written, with separators in groups.
* `NumberPattern.digitsText_mantissa` — what the places and the point in front of an exponent
  show.
* `NumberPattern.value_shown` — the digits denote the rounded decimal.
-/

import Spreadsheet.Proofs.NumberLayout
import Spreadsheet.Proofs.NumberReading
import Spreadsheet.Proofs.SignificantRounding

namespace Spreadsheet

-- A power of a natural number is core's, whatever other instances are in scope.
attribute [local instance (high)] instPowNat

/-! ### The text of the digits -/

section Glyphs

variable {separator : Option Char} {digits : List Nat} (hdigits : ∀ digit ∈ digits, digit < 10)
include hdigits

theorem mem_wholeGlyphs {c : Char} (hc : c ∈ (wholeGlyphs separator digits).flatten) :
    c.isDigit = true ∨ c ∈ separator := by
  induction digits with
  | nil => cases hc
  | cons digit rest ih =>
    rw [List.forall_mem_cons] at hdigits
    rw [wholeGlyphs, List.flatten_cons, List.cons_append, List.mem_cons, List.mem_append] at hc
    rcases hc with rfl | hseparator | hrest
    · left
      rw [Nat.isDigit_digitChar, decide_eq_true hdigits.1]
    · right
      split at hseparator
      · exact Option.mem_toList.mp hseparator
      · cases hseparator
    · exact ih hdigits.2 hrest

/-- Without the separators the digits are left. -/
theorem filter_wholeGlyphs (hseparator : ∀ c ∈ separator, c.isDigit = false) :
    (wholeGlyphs separator digits).flatten.filter Char.isDigit = Digits.text digits := by
  induction digits with
  | nil => rfl
  | cons digit rest ih =>
    rw [List.forall_mem_cons] at hdigits
    have hdigit : digit.digitChar.isDigit = true := by
      rw [Nat.isDigit_digitChar, decide_eq_true hdigits.1]
    have hnone : (if rest.length ≠ 0 ∧ rest.length % 3 = 0 then separator.toList else []).filter
        Char.isDigit = [] := by
      rw [List.filter_eq_nil_iff]
      intro c hc
      split at hc
      · rw [hseparator c (Option.mem_toList.mp hc)]
        exact Bool.false_ne_true
      · cases hc
    rw [wholeGlyphs, List.flatten_cons, List.filter_append, List.filter_cons_of_pos hdigit, hnone,
      ih hdigits.2]
    rfl

/-- No separator stands in front of the digits. -/
theorem head?_wholeGlyphs : ∀ c ∈ (wholeGlyphs separator digits).flatten.head?,
    c.isDigit = true := by
  cases digits with
  | nil => simp [wholeGlyphs]
  | cons digit rest =>
    intro c hc
    obtain rfl : digit.digitChar = c := by simpa [wholeGlyphs] using hc
    rw [Nat.isDigit_digitChar, decide_eq_true (hdigits digit List.mem_cons_self)]

/-- No separator stands behind the last digit. -/
theorem getLast?_wholeGlyphs : ∀ c ∈ (wholeGlyphs separator digits).flatten.getLast?,
    c.isDigit = true := by
  induction digits with
  | nil => simp [wholeGlyphs]
  | cons digit rest ih =>
    rw [List.forall_mem_cons] at hdigits
    rw [wholeGlyphs, List.flatten_cons]
    cases rest with
    | nil =>
      intro c hc
      obtain rfl : digit.digitChar = c := by simpa [wholeGlyphs] using hc
      rw [Nat.isDigit_digitChar, decide_eq_true hdigits.1]
    | cons next others =>
      have hne : (wholeGlyphs separator (next :: others)).flatten ≠ [] := by
        simp [wholeGlyphs]
      rw [List.getLast?_append_of_ne_nil _ hne]
      exact ih hdigits.2

end Glyphs

/-- The digits before the point write themselves, in groups or not. -/
theorem writesDigits_glyphs {locale : Locale} (hlocale : locale.Distinct) (grouped : Bool)
    {digits : List Nat} (h : ∀ digit ∈ digits, digit < 10) :
    locale.WritesDigits digits
      (wholeGlyphs (if grouped then some locale.groupSeparator else none) digits).flatten := by
  have hseparator : ∀ c ∈ if grouped then some locale.groupSeparator else none,
      c = locale.groupSeparator := by
    cases grouped <;> simp
  exact
    { digit_lt := h
      mem := fun c hc => (mem_wholeGlyphs h hc).imp_right (hseparator c)
      head? := head?_wholeGlyphs h
      getLast? := getLast?_wholeGlyphs h
      filter := filter_wholeGlyphs h fun c hc => hseparator c hc ▸ hlocale.group_digit }

/-- Pieces that are neither places nor the point show nothing when they are commas. -/
theorem flatMap_eq_digitsText {pieces : List (Item × Text)}
    (h : ∀ piece ∈ pieces, (piece.1.isDigit || piece.1 == .point) = true ∨ piece.2 = []) :
    pieces.flatMap Prod.snd = digitsText pieces := by
  induction pieces with
  | nil => rfl
  | cons piece rest ih =>
    rw [List.forall_mem_cons] at h
    rw [List.flatMap_cons, ih h.2, digitsText, digitsText, List.filter_cons]
    split
    · rw [List.flatMap_cons]
    · rename_i hother
      rw [h.1.resolve_left hother, List.nil_append]

namespace NumberPattern

open Items

/-- Of the digits after the point only zeros at the end are left out. -/
theorem exists_trimFraction_append (least : Nat) (digits : List Nat) :
    ∃ count, digits = trimFraction least digits ++ List.replicate count 0 := by
  obtain ⟨count, hcount⟩ := Decimal.exists_append_zeros (digits.drop least)
  refine ⟨count, ?_⟩
  rw [trimFraction, List.append_assoc, ← hcount, List.take_append_drop]

theorem shown_whole (pattern : NumberPattern) (x : Binary64) : (pattern.shown x).whole =
    padWhole pattern.minWhole (pattern.rounded x).1.integerDigits := rfl

theorem shown_fraction (pattern : NumberPattern) (x : Binary64) : (pattern.shown x).fraction =
    trimFraction pattern.minFraction
      ((pattern.rounded x).1.fractionDigits pattern.maxFraction) := rfl

/-- No digit is shown after the last place. -/
theorem length_shown_fraction_le (pattern : NumberPattern) (x : Binary64) :
    (pattern.shown x).fraction.length ≤ pattern.maxFraction := by
  obtain ⟨count, hcount⟩ := exists_trimFraction_append pattern.minFraction
    ((pattern.rounded x).1.fractionDigits pattern.maxFraction)
  have hall := congrArg List.length hcount
  rw [List.length_append, Decimal.length_fractionDigits] at hall
  exact Nat.le.intro hall.symm

/-- **The places and the point in front of an exponent show the digits of the number**, with
the separator of the decimals where digits follow it. -/
theorem digitsText_mantissa {pattern : NumberPattern} (locale : Locale) (x : Binary64)
    (hpoint : Item.point ∉ afterPoint pattern.mantissa)
    (hshown : Item.point ∈ pattern.mantissa ∨
      countPlaces (beforePoint pattern.mantissa) ≠ 0) :
    digitsText ((pattern.start locale (pattern.shown x)).layout locale (pattern.shown x).exponent
        pattern.mantissa) =
      (wholeGlyphs (if pattern.grouped then some locale.groupSeparator else none)
          (pattern.shown x).whole).flatten ++
        if Digits.text (pattern.shown x).fraction = [] then []
        else locale.decimalSeparator :: Digits.text (pattern.shown x).fraction := by
  have hexponents : ∀ item ∈ pattern.mantissa, item.isExponent = false :=
    fun item => isExponent_of_mem_mantissa
  have hplaces : (pattern.start locale (pattern.shown x)).places =
      countPlaces (beforePoint pattern.mantissa) := length_wholePlaces pattern
  have hlength : (Digits.text (pattern.shown x).fraction).length ≤
      countPlaces (afterPoint pattern.mantissa) := by
    have hplaces := pattern.maxFraction_eq
    rw [fractionItems_eq_afterPoint] at hplaces
    rw [Digits.text, List.length_map, ← hplaces]
    exact length_shown_fraction_le pattern x
  rw [LayoutState.digitsText_layout _ _ _ hexponents hpoint hshown rfl rfl hplaces, start]
  dsimp only
  rw [List.take_of_length_le hlength]
  congr 1
  by_cases hmem : Item.point ∈ pattern.mantissa
  · simp [hmem]
  · rw [afterPoint_of_notMem hmem] at hlength
    have hnil : Digits.text (pattern.shown x).fraction = [] :=
      List.length_eq_zero_iff.mp (Nat.le_zero.mp hlength)
    simp [hnil]

/-! ### The number that the digits denote -/

/-- Zeros in front of digits do not count. -/
theorem value_padWhole_append (least : Nat) (digits fraction : List Nat) :
    Digits.value (padWhole least digits ++ fraction) = Digits.value (digits ++ fraction) := by
  rw [padWhole, List.append_assoc, Digits.value_append, Digits.value_zeros, Nat.zero_mul,
    Nat.zero_add]

theorem digit_lt_padWhole {least : Nat} {digits : List Nat} (h : ∀ digit ∈ digits, digit < 10) :
    ∀ digit ∈ padWhole least digits, digit < 10 := by
  intro digit hdigit
  rcases List.mem_append.mp hdigit with hzero | hmem
  · rw [List.eq_of_mem_replicate hzero]
    decide
  · exact h digit hmem

theorem digit_lt_trimFraction {least : Nat} {digits : List Nat}
    (h : ∀ digit ∈ digits, digit < 10) : ∀ digit ∈ trimFraction least digits, digit < 10 := by
  obtain ⟨count, hcount⟩ := exists_trimFraction_append least digits
  intro digit hdigit
  refine h digit ?_
  rw [hcount]
  exact List.mem_append_left _ hdigit

/-- With an exponent, the decimal of the number is multiplied, rounded to as many digits as
there are places, and brought to the places before the point. -/
theorem rounded_scientific {pattern : NumberPattern} (h : pattern.isScientific = true)
    (x : Binary64) {scaled d : Decimal} {lead : Nat}
    (hscaled : (Decimal.ofBinary64 x).shift pattern.power = scaled)
    (hlead : max pattern.wholePlaces.length 1 = lead)
    (hd : scaled.round ((lead + pattern.maxFraction : Nat) - scaled.scale) = d) :
    pattern.rounded x =
      if d.isZero then (d, 0) else ({ d with scale := (lead : Int) }, d.scale - lead) := by
  have hmax : (max pattern.wholePlaces.length 1 : Int) = lead := by
    rw [← hlead]
    push_cast
    rfl
  push_cast at hd
  rw [rounded, h, if_pos rfl]
  dsimp only
  rw [hscaled, hmax, hd]

/-- What is rounded to zero has no digits, and whatever is shown has a digit in no place after
the last one. -/
theorem normalised_rounded (pattern : NumberPattern) (x : Binary64) :
    (pattern.rounded x).1.Normalised ∧
      ((pattern.rounded x).1.digits.length : Int) ≤
        (pattern.rounded x).1.scale + pattern.maxFraction := by
  have hnormal := Decimal.normalised_shift pattern.power (Decimal.normalised_ofBinary64 x)
  cases h : pattern.isScientific with
  | false =>
    rw [rounded_eq h]
    exact ⟨Decimal.normalised_round _ hnormal, Decimal.length_digits_round_natCast_le _ hnormal⟩
  | true =>
    rw [rounded_scientific h x rfl rfl rfl]
    generalize hscaled : (Decimal.ofBinary64 x).shift pattern.power = scaled at hnormal
    generalize hlead : max pattern.wholePlaces.length 1 = lead
    have hpositive : 0 < lead + pattern.maxFraction := by omega
    have hround := Decimal.normalised_round
      ((lead + pattern.maxFraction : Nat) - scaled.scale) hnormal
    split
    · rename_i hzero
      have hnil := Decimal.isZero_iff.mp hzero
      refine ⟨hround, ?_⟩
      rw [hround.scale_of_nil hnil, hnil, List.length_nil]
      omega
    · rename_i hne
      rw [Bool.not_eq_true] at hne
      have hsome := Decimal.isZero_of_round hne
      have hlength := Decimal.length_digits_round_significant_le hnormal hsome hpositive
      refine ⟨hround.withScale hne _, ?_⟩
      dsimp only
      exact_mod_cast hlength

theorem digit_lt_shown (pattern : NumberPattern) (x : Binary64) :
    (∀ digit ∈ (pattern.shown x).whole, digit < 10) ∧
      ∀ digit ∈ (pattern.shown x).fraction, digit < 10 := by
  have hlt := (normalised_rounded pattern x).1.digit_lt
  exact ⟨digit_lt_padWhole (Decimal.digit_lt_integerDigits hlt),
    digit_lt_trimFraction (Decimal.digit_lt_fractionDigits hlt _)⟩

/-- **The digits that are shown denote the rounded decimal**, counted from the last place
that is shown. -/
theorem value_shown (pattern : NumberPattern) (x : Binary64) :
    (Digits.value ((pattern.shown x).whole ++ (pattern.shown x).fraction) : Rat) *
        10 ^ (0 - ((pattern.shown x).fraction.length : Int)) =
      (pattern.rounded x).1.toRat := by
  have hvalue := Decimal.value_integerDigits_append (normalised_rounded pattern x).2
  rw [shown_whole, shown_fraction, value_padWhole_append]
  generalize (pattern.rounded x).1 = d at hvalue
  obtain ⟨count, hcount⟩ := exists_trimFraction_append pattern.minFraction
    (d.fractionDigits pattern.maxFraction)
  have hplaces := congrArg List.length hcount
  rw [List.length_append, Decimal.length_fractionDigits, List.length_replicate] at hplaces
  rw [hcount, ← List.append_assoc, Digits.value_append, Digits.value_zeros, List.length_replicate,
    Nat.add_zero] at hvalue
  push_cast at hvalue
  generalize trimFraction pattern.minFraction (d.fractionDigits pattern.maxFraction) = fraction
    at hplaces hvalue
  have hpow : ((10 ^ count : Nat) : Rat) * 10 ^ (-(pattern.maxFraction : Int)) =
      10 ^ (0 - (fraction.length : Int)) := pow_mul_zpow (by omega)
  push_cast at hpow
  rw [← hpow, ← mul_assoc, hvalue, mul_assoc, ← zpow_add₀ (by norm_num), add_neg_cancel, zpow_zero,
    mul_one]

/-- An item that is not the point stands before it or after it. -/
theorem mem_beforePoint_or_afterPoint {items : List Item} {item : Item} (h : item ∈ items)
    (hpoint : item ≠ .point) :
    item ∈ beforePoint items ∨ .point ∈ items ∧ item ∈ afterPoint items := by
  rw [beforePoint_append items, List.mem_append] at h
  refine h.imp_right fun hafter => ?_
  split at hafter
  · rename_i hmem
    exact ⟨hmem, (List.mem_cons.mp hafter).resolve_left hpoint⟩
  · cases hafter

theorem countPlaces_ne_zero {items : List Item} {zero : Bool} (h : Item.digit zero ∈ items) :
    countPlaces items ≠ 0 :=
  Nat.ne_of_gt (List.countP_pos_iff.mpr ⟨_, h, rfl⟩)

theorem placesFromZero_ne_zero {items : List Item} (h : Item.digit true ∈ items) :
    placesFromZero items ≠ 0 := by
  suffices hfirst : Item.digit true ∈ items.dropWhile (· != Item.digit true) from
    countPlaces_ne_zero hfirst
  rw [← List.takeWhile_append_dropWhile (p := (· != Item.digit true)) (l := items),
    List.mem_append] at h
  refine h.resolve_left fun hmem => ?_
  exact absurd (List.mem_takeWhile_imp hmem) (by simp)

/-- A zero of the pattern is a place that is always shown, before the point or after it. -/
theorem shown_ne_nil {pattern : NumberPattern}
    (hexponents : ∀ item ∈ pattern.items, item.isExponent = false)
    (hzero : Item.digit true ∈ pattern.items) (x : Binary64) :
    (pattern.shown x).whole ≠ [] ∨ (pattern.shown x).fraction ≠ [] := by
  refine (mem_beforePoint_or_afterPoint hzero (by decide)).imp (fun hbefore hnil => ?_)
    fun hafter hnil => ?_
  · have hpad : pattern.minWhole ≠ 0 := by
      rw [minWhole_eq, wholeItems_eq hexponents]
      exact placesFromZero_ne_zero hbefore
    rw [shown_whole, padWhole, List.append_eq_nil_iff, List.replicate_eq_nil_iff] at hnil
    rw [hnil.2, List.length_nil, Nat.sub_zero] at hnil
    exact hpad hnil.1
  · have hleast : pattern.minFraction ≠ 0 := by
      rw [minFraction_eq, fractionItems_eq hexponents]
      exact placesFromZero_ne_zero (List.mem_reverse.mpr hafter.2)
    have hplaces : pattern.maxFraction ≠ 0 := by
      rw [maxFraction_eq, fractionItems_eq hexponents]
      exact countPlaces_ne_zero hafter.2
    rw [shown_fraction, trimFraction, List.append_eq_nil_iff, List.take_eq_nil_iff] at hnil
    have hdigits := congrArg List.length (hnil.1.resolve_left hleast)
    rw [Decimal.length_fractionDigits] at hdigits
    exact hplaces hdigits

end NumberPattern

end Spreadsheet
