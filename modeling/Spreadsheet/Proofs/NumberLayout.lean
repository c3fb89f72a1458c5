/-
# What a section shows of a number

The places and the point of a section show the digits of the rounded number, the
items between them show their own text, and nothing is shown twice or lost, however
many digits there are for the places.

* `digitsText_layout` — the text of the places and the point, from the digits that are
  left to lay out.
* `flatten_wholeGlyphs` — digits with their separators are digits in groups of three.
* `layout_shows_number` — what a section shows is determined by its items and the
  decimal nearest to the number.
-/

import Mathlib.Data.List.DropRight
import Spreadsheet.Format.Number
import Spreadsheet.Locale.Registry
import Spreadsheet.Proofs.PatternPlaces
import Spreadsheet.Proofs.SignificantDigits

namespace Spreadsheet

-- A power of a natural number is core's, whatever other instances are in scope.
attribute [local instance (high)] instPowNat

/-! ### The text of a rounded number -/

/-- The text with a separator in front of every third character from the right that
has another one before it. -/
def groupThousands (separator : Char) (text : Text) : Text :=
  if text.length ≤ 3 then text
  else groupThousands separator (text.take (text.length - 3)) ++
    separator :: text.drop (text.length - 3)
termination_by text.length
decreasing_by
  rw [List.length_take]
  omega

namespace Items

/-- A whole number before the point: no digits for zero, as many zeros in front as the
places from the first zero on ask for, and groups when a comma separates places. -/
def wholeText (items : List Item) (locale : Locale) (n : Nat) : Text :=
  let digits : Text := if n = 0 then [] else Nat.toDigits 10 n
  let padded := digits.leftpad (placesFromZero (beforePoint items)) '0'
  if Separated (beforePoint items) then groupThousands locale.groupSeparator padded else padded

/-- The last places of a number as the digits after the point, without the zeros at
the end that no zero of the section asks for. -/
def fractionText (items : List Item) (units : Nat) : Text :=
  let digits := Digits.text (Digits.lastPlaces (countPlaces (afterPoint items)) units)
  let least := placesFromZero (afterPoint items).reverse
  digits.take least ++ (digits.drop least).rdropWhile (· == '0')

/-- A number that is counted in units of the last place after the point. -/
def roundedText (items : List Item) (locale : Locale) (units : Nat) : Text :=
  wholeText items locale (units / 10 ^ countPlaces (afterPoint items)) ++
    if fractionText items units = [] then []
    else locale.decimalSeparator :: fractionText items units

end Items

/-! ### Groups of three -/

theorem wholeGlyphs_none (digits : List Nat) :
    (wholeGlyphs none digits).flatten = Digits.text digits := by
  induction digits with
  | nil => rfl
  | cons digit rest ih =>
    rw [wholeGlyphs, List.flatten_cons, ih]
    simp [Digits.text]

/-- Digits in front of three more are followed by a separator. -/
theorem wholeGlyphs_append_three (separator : Char) {front : List Nat} (hfront : front ≠ [])
    {back : List Nat} (hback : back.length = 3) :
    (wholeGlyphs (some separator) (front ++ back)).flatten =
      (wholeGlyphs (some separator) front).flatten ++ separator :: Digits.text back := by
  induction front with
  | nil => exact absurd rfl hfront
  | cons digit rest ih =>
    rw [List.cons_append, wholeGlyphs, wholeGlyphs, List.flatten_cons, List.flatten_cons,
      List.length_append, hback]
    by_cases hrest : rest = []
    · subst hrest
      obtain ⟨a, b, c, rfl⟩ := List.length_eq_three.mp hback
      simp [wholeGlyphs, Digits.text]
    · have hpos : rest.length ≠ 0 := by simpa using hrest
      have hmod : (rest.length + 3) % 3 = rest.length % 3 := by omega
      rw [ih hrest, hmod]
      simp [hpos]

theorem wholeGlyphs_short (separator : Char) {digits : List Nat} (h : digits.length ≤ 3) :
    (wholeGlyphs (some separator) digits).flatten = Digits.text digits := by
  induction digits with
  | nil => rfl
  | cons digit rest ih =>
    rw [List.length_cons] at h
    have hmod : ¬(rest.length ≠ 0 ∧ rest.length % 3 = 0) := by omega
    rw [wholeGlyphs, if_neg hmod, List.flatten_cons, ih (by omega)]
    rfl

/-- Digits with the separators that follow them are digits in groups of three. -/
theorem flatten_wholeGlyphs (separator : Char) (digits : List Nat) :
    (wholeGlyphs (some separator) digits).flatten =
      groupThousands separator (Digits.text digits) := by
  induction hlength : digits.length using Nat.strongRecOn generalizing digits with
  | ind length ih =>
    have htext : (Digits.text digits).length = digits.length := by simp [Digits.text]
    rw [groupThousands, htext]
    split
    · rename_i hshort
      exact wholeGlyphs_short separator hshort
    · rename_i hlong
      have hfront : digits.take (digits.length - 3) ≠ [] := by
        rw [Ne, List.take_eq_nil_iff]
        rintro (hzero | rfl)
        · omega
        · exact hlong (Nat.zero_le 3)
      have hback : (digits.drop (digits.length - 3)).length = 3 := by
        rw [List.length_drop]
        omega
      have hrec := ih (digits.take (digits.length - 3)).length (by rw [List.length_take]; omega)
        (digits.take (digits.length - 3)) rfl
      have hsplit := wholeGlyphs_append_three separator hfront hback
      rw [List.take_append_drop, hrec] at hsplit
      rw [hsplit, Digits.text, Digits.text, Digits.text, List.map_take, List.map_drop]

/-! ### Items that show their own text -/

namespace Item

/-- An item that shows the same text whatever the number is. -/
def isConstant : Item → Bool
  | digit _ | point | exponent _ _ _ => false
  | _ => true

/-- The text of such an item. -/
def constantText (locale : Locale) : Item → Text
  | percent => locale.percentSymbol
  | perMille => locale.perMilleSymbol
  | literal text => text
  | _ => []

theorem isDigit_or_isConstant {item : Item} (hpoint : item ≠ .point)
    (hexponent : item.isExponent = false) : item.isDigit = true ∨ item.isConstant = true := by
  cases item with
  | digit _ => exact Or.inl rfl
  | point => exact absurd rfl hpoint
  | exponent _ _ _ => cases hexponent
  | _ => exact Or.inr rfl

end Item

namespace Items

/-- In front of the point there are places and items that show their own text. -/
theorem isDigit_or_isConstant_beforePoint {items : List Item}
    (hexponents : ∀ item ∈ items, item.isExponent = false) :
    ∀ item ∈ beforePoint items, item.isDigit = true ∨ item.isConstant = true := by
  intro item hmem
  apply Item.isDigit_or_isConstant ?_ (hexponents item (mem_of_mem_beforePoint hmem))
  rintro rfl
  exact point_notMem_beforePoint items hmem

/-- So there are behind it, when there is one point. -/
theorem isDigit_or_isConstant_afterPoint {items : List Item}
    (hexponents : ∀ item ∈ items, item.isExponent = false)
    (hpoint : Item.point ∉ afterPoint items) :
    ∀ item ∈ afterPoint items, item.isDigit = true ∨ item.isConstant = true := by
  intro item hmem
  apply Item.isDigit_or_isConstant ?_ (hexponents item (mem_of_mem_afterPoint hmem))
  rintro rfl
  exact hpoint hmem

theorem countPlaces_cons_digit (zero : Bool) (items : List Item) :
    countPlaces (.digit zero :: items) = countPlaces items + 1 :=
  List.countP_cons_of_pos rfl

theorem countPlaces_cons_constant {item : Item} (h : item.isConstant = true) (items : List Item) :
    countPlaces (item :: items) = countPlaces items := by
  cases item with
  | digit _ => cases h
  | _ => rfl

end Items

namespace LayoutState

variable {locale : Locale} {exponent : Int}

/-- What is left after the items are laid out. -/
def after (locale : Locale) (exponent : Int) (state : LayoutState) : List Item → LayoutState
  | [] => state
  | item :: rest => after locale exponent (state.step locale exponent item).2 rest

theorem layout_append (state : LayoutState) (front back : List Item) :
    state.layout locale exponent (front ++ back) =
      state.layout locale exponent front ++
        (state.after locale exponent front).layout locale exponent back := by
  induction front generalizing state with
  | nil => rfl
  | cons item rest ih => rw [List.cons_append, layout, layout, ih, List.cons_append, after]

theorem step_of_isConstant {item : Item} (h : item.isConstant = true) (state : LayoutState) :
    state.step locale exponent item = (item.constantText locale, state) := by
  cases item with
  | digit _ => cases h
  | point => cases h
  | exponent _ _ _ => cases h
  | _ => rfl

/-- Every item that shows its own text does so, wherever it stands. -/
theorem text_of_isConstant (state : LayoutState) (items : List Item) :
    ∀ piece ∈ state.layout locale exponent items, piece.1.isConstant = true →
      piece.2 = piece.1.constantText locale := by
  induction items generalizing state with
  | nil => simp [layout]
  | cons item rest ih =>
    rw [layout, List.forall_mem_cons]
    refine ⟨fun hconstant => ?_, ih _⟩
    rw [step_of_isConstant hconstant]

end LayoutState

/-! ### The places and the point -/

/-- The text that the places and the point contribute to a layout. -/
def digitsText (pieces : List (Item × Text)) : Text :=
  (pieces.filter (fun piece => piece.1.isDigit || piece.1 == .point)).flatMap Prod.snd

theorem digitsText_append (front back : List (Item × Text)) :
    digitsText (front ++ back) = digitsText front ++ digitsText back := by
  rw [digitsText, List.filter_append, List.flatMap_append, digitsText, digitsText]

theorem digitsText_cons_digit (zero : Bool) (text : Text) (pieces : List (Item × Text)) :
    digitsText ((.digit zero, text) :: pieces) = text ++ digitsText pieces := by
  rw [digitsText, List.filter_cons_of_pos (by simp [Item.isDigit]), List.flatMap_cons, digitsText]

theorem digitsText_cons_point (text : Text) (pieces : List (Item × Text)) :
    digitsText ((.point, text) :: pieces) = text ++ digitsText pieces := by
  rw [digitsText, List.filter_cons_of_pos (by simp), List.flatMap_cons, digitsText]

theorem digitsText_cons_constant {item : Item} (h : item.isConstant = true) (text : Text)
    (pieces : List (Item × Text)) : digitsText ((item, text) :: pieces) = digitsText pieces := by
  have hno : (item.isDigit || item == .point) = false := by
    cases item with
    | digit _ => cases h
    | point => cases h
    | _ => rfl
  rw [digitsText, List.filter_cons_of_neg (by simp [hno]), digitsText]

namespace LayoutState

open Items

variable (locale : Locale) (exponent : Int) {items : List Item}

/-- **The places before the point share out the digits.** What they show and what is
left of the digits after them make up all digits, and nothing is left when there is a
place at all. -/
theorem digitsText_layout_whole (state : LayoutState)
    (hitems : ∀ item ∈ items, item.isDigit = true ∨ item.isConstant = true)
    (hfraction : state.inFraction = false) (hexponent : state.afterExponent = false)
    (hplaces : state.places = countPlaces items) :
    ∃ glyphs, state.after locale exponent items = { state with glyphs, places := 0 } ∧
      digitsText (state.layout locale exponent items) ++ glyphs.flatten =
        state.glyphs.flatten ∧
      (countPlaces items ≠ 0 → glyphs.flatten = []) := by
  induction items generalizing state with
  | nil =>
    refine ⟨state.glyphs, ?_, rfl, fun h => absurd rfl h⟩
    rw [after, ← show state.places = 0 from hplaces]
  | cons item rest ih =>
    rw [List.forall_mem_cons] at hitems
    rcases hitems.1 with hdigit | hconstant
    · cases item with
      | digit zero =>
        have hstep : state.step locale exponent (.digit zero) = state.takeWhole := by
          rw [step, hexponent, hfraction]
          rfl
        rw [countPlaces_cons_digit] at hplaces ⊢
        obtain ⟨glyphs, hafter, htext, hnone⟩ := ih state.takeWhole.2 hitems.2
          hfraction hexponent (by rw [takeWhole, hplaces]; rfl)
        refine ⟨glyphs, ?_, ?_, fun _ => ?_⟩
        · rw [after, hstep, hafter]
          rfl
        · rw [layout, hstep, digitsText_cons_digit, List.append_assoc, htext, takeWhole,
            ← List.flatten_append, List.take_append_drop]
        · by_cases hrest : countPlaces rest = 0
          · -- The last place takes all digits that are left.
            have hall : state.takeWhole.2.glyphs = [] := by
              rw [takeWhole, hplaces, hrest]
              simp
            rw [hall] at htext
            exact (List.append_eq_nil_iff.mp htext).2
          · exact hnone hrest
      | _ => cases hdigit
    · rw [countPlaces_cons_constant hconstant] at hplaces ⊢
      rw [after, layout, step_of_isConstant hconstant, digitsText_cons_constant hconstant]
      exact ih state hitems.2 hfraction hexponent hplaces

/-- The places after the point take one digit each. -/
theorem digitsText_layout_fraction (state : LayoutState)
    (hitems : ∀ item ∈ items, item.isDigit = true ∨ item.isConstant = true)
    (hfraction : state.inFraction = true) (hexponent : state.afterExponent = false) :
    digitsText (state.layout locale exponent items) = state.fraction.take (countPlaces items) := by
  induction items generalizing state with
  | nil => simp [layout, digitsText, countPlaces]
  | cons item rest ih =>
    rw [List.forall_mem_cons] at hitems
    rcases hitems.1 with hdigit | hconstant
    · cases item with
      | digit zero =>
        have hstep : state.step locale exponent (.digit zero) = state.takeFraction := by
          rw [step, hexponent, hfraction]
          rfl
        rw [layout, hstep, digitsText_cons_digit,
          ih state.takeFraction.2 hitems.2 hfraction hexponent, countPlaces_cons_digit,
          Nat.add_comm, List.take_add]
        rfl
      | _ => cases hdigit
    · rw [layout, step_of_isConstant hconstant, digitsText_cons_constant hconstant,
        countPlaces_cons_constant hconstant]
      exact ih state hitems.2 hfraction hexponent

/-- The places and the point show all digits before the point, and, where there is a
point, the separator and the digits after it. -/
theorem digitsText_layout (state : LayoutState)
    (hexponents : ∀ item ∈ items, item.isExponent = false)
    (hpoint : Item.point ∉ afterPoint items)
    (hshown : Item.point ∈ items ∨ countPlaces (beforePoint items) ≠ 0)
    (hfraction : state.inFraction = false) (hexponent : state.afterExponent = false)
    (hplaces : state.places = countPlaces (beforePoint items)) :
    digitsText (state.layout locale exponent items) = state.glyphs.flatten ++
      if .point ∈ items ∧ state.fraction ≠ [] then
        locale.decimalSeparator :: state.fraction.take (countPlaces (afterPoint items))
      else [] := by
  have hwhole := isDigit_or_isConstant_beforePoint hexponents
  have hrest := isDigit_or_isConstant_afterPoint hexponents hpoint
  obtain ⟨glyphs, hafter, htext, hnone⟩ :=
    digitsText_layout_whole locale exponent state hwhole hfraction hexponent hplaces
  conv => lhs; rw [beforePoint_append items]
  rw [layout_append, hafter, digitsText_append]
  by_cases hmem : Item.point ∈ items
  · have hshow := digitsText_layout_fraction locale exponent
      { state with glyphs := [], places := 0, inFraction := true } hrest rfl hexponent
    rw [if_pos hmem, layout, digitsText_cons_point, step, takePoint, hshow, ← List.append_assoc,
      ← List.append_assoc, htext, List.append_assoc]
    congr 1
    by_cases hnil : state.fraction = []
    · simp [hnil]
    · simp [hmem, hnil]
  · have hleft := hnone (hshown.resolve_left hmem)
    rw [hleft, List.append_nil] at htext
    rw [if_neg hmem, if_neg (fun h => hmem h.1), htext, layout, digitsText]
    rfl

end LayoutState

/-! ### The digits of a section -/

theorem text_padWhole (least : Nat) (digits : List Nat) :
    Digits.text (NumberPattern.padWhole least digits) = (Digits.text digits).leftpad least '0' := by
  simp [NumberPattern.padWhole, Digits.text, List.leftpad]

/-- The final zeros of digits are those of their text. -/
theorem text_dropFinalZeros (digits : List Nat) :
    Digits.text (Decimal.dropFinalZeros digits) = (Digits.text digits).rdropWhile (· == '0') := by
  have hzero : (· == '0') ∘ Nat.digitChar = (· == 0) := by
    funext digit
    rw [Function.comp_apply, Bool.eq_iff_iff, beq_iff_eq, beq_iff_eq, Nat.digitChar_eq_zero]
  have hreverse : (Digits.text digits).reverse = digits.reverse.map Nat.digitChar :=
    List.map_reverse.symm
  rw [List.rdropWhile, hreverse, List.dropWhile_map, hzero, ← List.map_reverse]
  rfl

theorem text_trimFraction (least : Nat) (digits : List Nat) :
    Digits.text (NumberPattern.trimFraction least digits) = (Digits.text digits).take least ++
      ((Digits.text digits).drop least).rdropWhile (· == '0') := by
  have hdrop : (Digits.text digits).drop least = Digits.text (digits.drop least) :=
    List.map_drop.symm
  rw [hdrop, ← text_dropFinalZeros, NumberPattern.trimFraction, Digits.text, List.map_append,
    List.map_take, Digits.text, Digits.text]

theorem Items.length_fractionText_le (items : List Item) (units : Nat) :
    (fractionText items units).length ≤ countPlaces (afterPoint items) := by
  rw [fractionText]
  generalize hdigits : Digits.text (Digits.lastPlaces (countPlaces (afterPoint items)) units) =
    digits
  have hlength : digits.length = countPlaces (afterPoint items) := by
    rw [← hdigits, Digits.text, List.length_map, Digits.length_lastPlaces]
  have hkept := (List.rdropWhile_prefix (· == '0')
    (digits.drop (placesFromZero (afterPoint items).reverse))).length_le
  rw [List.length_drop] at hkept
  rw [List.length_append, List.length_take]
  omega

namespace NumberPattern

open Items

variable {pattern : NumberPattern}

/-- Without an exponent, the decimal of the number is multiplied and rounded. -/
theorem rounded_eq (h : pattern.isScientific = false) (x : Binary64) :
    pattern.rounded x =
      (((Decimal.ofBinary64 x).shift pattern.power).round pattern.maxFraction, 0) := by
  rw [rounded, h]
  rfl

/-- Without an exponent, a section shows the digits of the decimal of a number, which
is multiplied by the power of ten of the section and rounded to its last place. -/
theorem shown_eq (h : ∀ item ∈ pattern.items, item.isExponent = false) (x : Binary64) {units : Nat}
    (hunits : roundHalfUp ((Decimal.ofBinary64 x).toRat *
      10 ^ (scale pattern.items + countPlaces (afterPoint pattern.items))) = units) :
    (pattern.shown x).whole = padWhole (placesFromZero (beforePoint pattern.items))
        (if units / 10 ^ countPlaces (afterPoint pattern.items) = 0 then []
          else Digits.ofNat (units / 10 ^ countPlaces (afterPoint pattern.items))) ∧
      (pattern.shown x).fraction = trimFraction (placesFromZero (afterPoint pattern.items).reverse)
        (Digits.lastPlaces (countPlaces (afterPoint pattern.items)) units) := by
  have hshift : roundHalfUp (((Decimal.ofBinary64 x).shift pattern.power).toRat *
      10 ^ (pattern.maxFraction : Int)) = units := by
    rw [Decimal.toRat_shift, mul_assoc, ← zpow_add₀ (by norm_num), power_eq h, maxFraction_eq,
      fractionItems_eq h, hunits]
  obtain ⟨hwhole, hfraction⟩ := Decimal.digits_round
    (Decimal.normalised_shift pattern.power (Decimal.normalised_ofBinary64 x)) hshift
  rw [← wholeItems_eq h, ← fractionItems_eq h, ← maxFraction_eq, ← minFraction_eq, ← minWhole_eq,
    shown, rounded_eq (isScientific_eq_false h)]
  constructor
  · rw [← hwhole]
  · rw [← hfraction]

/-- Digits have separators among them where commas separate places. -/
theorem flatten_wholeGlyphs_grouped (pattern : NumberPattern) (separator : Char)
    (digits : List Nat) :
    (wholeGlyphs (if pattern.grouped then some separator else none) digits).flatten =
      if Separated pattern.wholeItems then groupThousands separator (Digits.text digits)
      else Digits.text digits := by
  by_cases hgrouped : pattern.grouped = true
  · rw [if_pos hgrouped, if_pos ((grouped_iff pattern).mp hgrouped), flatten_wholeGlyphs]
  · rw [if_neg hgrouped, if_neg (fun h => hgrouped ((grouped_iff pattern).mpr h)),
      wholeGlyphs_none]

/-- The digits before the point, with separators where commas separate places. -/
theorem flatten_glyphs (pattern : NumberPattern) (separator : Char) (least n : Nat) :
    (wholeGlyphs (if pattern.grouped then some separator else none)
        (padWhole least (if n = 0 then [] else Digits.ofNat n))).flatten =
      let padded := (if n = 0 then [] else Nat.toDigits 10 n).leftpad least '0'
      if Separated pattern.wholeItems then groupThousands separator padded else padded := by
  have htext : Digits.text (if n = 0 then [] else Digits.ofNat n) =
      if n = 0 then [] else Nat.toDigits 10 n := by
    rw [apply_ite Digits.text, Digits.text_ofNat]
    rfl
  dsimp only
  rw [← htext, ← text_padWhole]
  exact flatten_wholeGlyphs_grouped pattern separator _

/-- **What a section without an exponent shows of a number.** Its text is put together
from the texts of the items, in order; symbols and literals show their own text and
commas nothing; and the places and the point together show the decimal of fifteen digits
that is nearest to the number, multiplied as the section asks and rounded to its last
place. -/
theorem layout_shows_number (source : Text) (locale : Locale) (x : Binary64)
    (hexponents : ∀ item ∈ (ofText source).items, item.isExponent = false)
    (hshown : Item.point ∈ (ofText source).items ∨
      countPlaces (beforePoint (ofText source).items) ≠ 0) :
    (ofText source).text locale x = ((ofText source).layout locale x).flatMap Prod.snd ∧
      ((ofText source).layout locale x).map Prod.fst = (ofText source).items ∧
      (∀ piece ∈ (ofText source).layout locale x, piece.1.isConstant = true →
        piece.2 = piece.1.constantText locale) ∧
      ∃ d, NearestDecimal 15 x.abs.toRat d ∧
        digitsText ((ofText source).layout locale x) =
          roundedText (ofText source).items locale (roundHalfUp (d * 10 ^
            (scale (ofText source).items + countPlaces (afterPoint (ofText source).items)))) := by
  refine ⟨rfl, LayoutState.items_layout _ _ _ _, LayoutState.text_of_isConstant _ _,
    (Decimal.ofBinary64 x).toRat, Decimal.nearestDecimal_ofBinary64 x, ?_⟩
  have hpoint : Item.point ∉ afterPoint (ofText source).items := point_notMem_afterPoint _
  generalize ofText source = pattern at *
  obtain ⟨hwhole, hfraction⟩ := shown_eq hexponents x rfl
  generalize roundHalfUp _ = units at *
  have hplaces : (pattern.start locale (pattern.shown x)).places =
      countPlaces (beforePoint pattern.items) := by
    rw [← wholeItems_eq hexponents]
    exact length_wholePlaces pattern
  have hglyphs : (pattern.start locale (pattern.shown x)).glyphs.flatten =
      wholeText pattern.items locale (units / 10 ^ countPlaces (afterPoint pattern.items)) := by
    rw [start, hwhole, flatten_glyphs, wholeText, wholeItems_eq hexponents]
  have hrest : (pattern.start locale (pattern.shown x)).fraction =
      fractionText pattern.items units := by
    rw [start, hfraction, text_trimFraction, fractionText]
  have hlength := length_fractionText_le pattern.items units
  rw [layout, LayoutState.digitsText_layout _ _ _ hexponents hpoint hshown rfl rfl hplaces,
    hglyphs, hrest, List.take_of_length_le hlength, roundedText]
  congr 1
  by_cases hmem : Item.point ∈ pattern.items
  · simp [hmem]
  · rw [afterPoint_of_notMem hmem] at hlength
    have hnil : fractionText pattern.items units = [] :=
      List.length_eq_zero_iff.mp (Nat.le_zero.mp hlength)
    simp [hnil]

theorem layout_shows_number_grouped :
    (∀ item ∈ (ofText "#,##0.0#%".toList).items, item.isExponent = false) ∧
      (Item.point ∈ (ofText "#,##0.0#%".toList).items ∨
        countPlaces (beforePoint (ofText "#,##0.0#%".toList).items) ≠ 0) ∧
      ∃ d, NearestDecimal 15 (Binary64.ofInt (-1234)).abs.toRat d ∧
        digitsText ((ofText "#,##0.0#%".toList).layout .german (.ofInt (-1234))) =
          roundedText (ofText "#,##0.0#%".toList).items .german (roundHalfUp (d * 10 ^
            (scale (ofText "#,##0.0#%".toList).items +
              countPlaces (afterPoint (ofText "#,##0.0#%".toList).items)))) := by
  have hexponents : ∀ item ∈ (ofText "#,##0.0#%".toList).items, item.isExponent = false := by
    decide +kernel
  have hshown : Item.point ∈ (ofText "#,##0.0#%".toList).items ∨
      countPlaces (beforePoint (ofText "#,##0.0#%".toList).items) ≠ 0 := by
    decide +kernel
  exact ⟨hexponents, hshown,
    (layout_shows_number "#,##0.0#%".toList .german (.ofInt (-1234)) hexponents hshown).2.2.2⟩

example : roundedText (ofText "#,##0.0#%".toList).items .german 12340050 = "123.400,5".toList := by
  decide +kernel

end NumberPattern

end Spreadsheet
