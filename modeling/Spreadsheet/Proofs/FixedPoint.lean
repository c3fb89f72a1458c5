/-
# Fixed-point patterns are read back

A pattern of places, a point and commas shows a decimal: the digits before the point, in
groups or not, and those after it. The number that a locale reads from the text is the
floating point number nearest to that decimal. Which decimal this is, the characters of the
pattern say.

* `fixedPointValue` — the decimal that a pattern shows, from its characters.
* `IsFixedPoint.formatNumber_eq_write` — the text under a pattern, from the digits that are
  shown.
* `Locale.readNumber?_formatNumber` — the text is read as the number nearest to it.
-/

import Spreadsheet.Proofs.BarePattern
import Spreadsheet.Proofs.ShownDigits

namespace Spreadsheet

-- A power of a natural number is core's, whatever other instances are in scope.
attribute [local instance (high)] instPowNat

/-- A pattern of places for digits, points and commas, in which a zero stands. -/
structure IsFixedPoint (pattern : Text) : Prop where
  mem : ∀ c ∈ pattern, c ∈ ['0', '#', '.', ',']
  zero_mem : '0' ∈ pattern

instance (pattern : Text) : Decidable (IsFixedPoint pattern) :=
  decidable_of_iff ((pattern.all fun c => decide (c ∈ ['0', '#', '.', ','])) = true ∧ '0' ∈ pattern)
    ⟨fun h => ⟨List.all_iff_forall_prop.mp h.1, h.2⟩,
      fun h => ⟨List.all_iff_forall_prop.mpr h.mem, h.zero_mem⟩⟩

/-! ### The items of a pattern -/

namespace IsFixedPoint

variable {pattern : Text} (h : IsFixedPoint pattern)
include h

theorem isBarePattern : IsBarePattern pattern where
  mem c hc := List.mem_append_left ['E', 'e', '+', '-'] (h.mem c hc)
  ne_nil := List.ne_nil_of_mem h.zero_mem

theorem items_eq :
    (NumberPattern.ofText pattern).items = firstPointOnly (pattern.map Item.ofChar) := by
  have hlexemes := lexemes_append h.mem []
  rw [List.append_nil, lexemes, List.append_nil] at hlexemes
  rw [NumberPattern.ofText, hlexemes, List.map_map]
  rfl

/-- Its items are places, the point and commas. -/
theorem item_cases : ∀ item ∈ (NumberPattern.ofText pattern).items,
    item.isDigit = true ∨ item = .point ∨ item = .comma := by
  have hchars : ∀ c ∈ ['0', '#', '.', ','], (Item.ofChar c).isDigit = true ∨
      Item.ofChar c = .point ∨ Item.ofChar c = .comma := List.all_iff_forall_prop.mp (by decide)
  intro item hitem
  rw [h.items_eq] at hitem
  obtain ⟨c, hc, rfl⟩ := List.mem_map.mp (mem_of_mem_firstPointOnly hitem)
  exact hchars c (h.mem c hc)

theorem not_isExponent : ∀ item ∈ (NumberPattern.ofText pattern).items,
    item.isExponent = false := by
  intro item hitem
  rcases h.item_cases item hitem with hdigit | rfl | rfl
  · cases item with
    | digit _ => rfl
    | _ => cases hdigit
  · rfl
  · rfl

theorem zero_mem_items : Item.digit true ∈ (NumberPattern.ofText pattern).items := by
  rw [h.items_eq]
  exact mem_firstPointOnly (List.mem_map.mpr ⟨'0', h.zero_mem, rfl⟩) (by decide)

end IsFixedPoint

/-! ### The number that is read -/

/-- A place for a digit in a pattern. -/
def marksDigit (c : Char) : Bool :=
  c == '0' || c == '#'

namespace Text

/-- The digit places of a pattern that stand behind its first point. -/
def fractionPlaces (pattern : Text) : Nat :=
  ((pattern.dropWhile (· != '.')).drop 1).countP marksDigit

/-- The number of commas with a place for a digit before them and none after them. The flag
says that a place was passed already. -/
def countScaling : (passed : Bool) → Text → Nat
  | _, [] => 0
  | passed, c :: rest =>
    (if c = ',' ∧ passed = true ∧ rest.any marksDigit = false then 1 else 0) +
      countScaling (passed || marksDigit c) rest

/-- The commas of a pattern that scale, which stand in front of its first point. -/
def scalingCommas (pattern : Text) : Nat :=
  countScaling false (pattern.takeWhile (· != '.'))

end Text

/-- The magnitude that a fixed-point pattern shows of a decimal: it is divided by a thousand
for each comma that scales, and rounded to the places after the point, a half going up. -/
def fixedPointMagnitude (pattern : Text) (d : Rat) : Rat :=
  roundHalfUp (d / 1000 ^ pattern.scalingCommas * 10 ^ pattern.fractionPlaces) /
    10 ^ pattern.fractionPlaces

/-- The number that a fixed-point pattern shows, with its sign. -/
def fixedPointValue (pattern : Text) (negative : Bool) (d : Rat) : Rat :=
  (if negative then -1 else 1) * fixedPointMagnitude pattern d

namespace Item

theorem isDigit_ofChar (c : Char) : (ofChar c).isDigit = marksDigit c := by
  by_cases hzero : c = '0'
  · rw [hzero]
    rfl
  · by_cases hnumber : c = '#'
    · rw [hnumber]
      rfl
    · have hmarks : marksDigit c = false := by simp [marksDigit, hzero, hnumber]
      rw [ofChar, if_neg hzero, if_neg hnumber, hmarks]
      split_ifs <;> rfl

theorem ofChar_eq_comma_iff {c : Char} : ofChar c = .comma ↔ c = ',' := by
  unfold ofChar
  split_ifs <;> simp_all

end Item

theorem Items.countScaling_map_ofChar (passed : Bool) (text : Text) :
    countScaling passed (text.map Item.ofChar) = Text.countScaling passed text := by
  induction text generalizing passed with
  | nil => rfl
  | cons c rest ih =>
    have hany : (rest.map Item.ofChar).any Item.isDigit = rest.any marksDigit := by
      rw [List.any_map]
      exact congrArg rest.any (funext Item.isDigit_ofChar)
    simp only [List.map_cons, countScaling, Text.countScaling, Item.ofChar_eq_comma_iff,
      Item.isDigit_ofChar, hany, ih]

namespace IsFixedPoint

variable {pattern : Text} (h : IsFixedPoint pattern)
include h

/-- The places after the point are those of the text. -/
theorem countPlaces_afterPoint :
    Items.countPlaces (Items.afterPoint (NumberPattern.ofText pattern).items) =
      pattern.fractionPlaces := by
  rw [h.items_eq, Items.countPlaces_afterPoint_firstPointOnly, Items.afterPoint_map_ofChar,
    Items.countPlaces, List.countP_map, Text.fractionPlaces]
  exact congrArg (fun is => List.countP is _) (funext Item.isDigit_ofChar)

/-- The commas that scale are those of the text. -/
theorem countScaling_beforePoint :
    Items.countScaling false (Items.beforePoint (NumberPattern.ofText pattern).items) =
      pattern.scalingCommas := by
  rw [h.items_eq, Items.beforePoint_firstPointOnly, Items.beforePoint_map_ofChar,
    Items.countScaling_map_ofChar, Text.scalingCommas]

/-- Without percent and per mille symbols only commas scale. -/
theorem scale_eq : Items.scale (NumberPattern.ofText pattern).items =
    -(3 * pattern.scalingCommas) := by
  have hpercent : Item.percent ∉ (NumberPattern.ofText pattern).items :=
    fun hmem => by simpa [Item.isDigit] using h.item_cases _ hmem
  have hperMille : Item.perMille ∉ (NumberPattern.ofText pattern).items :=
    fun hmem => by simpa [Item.isDigit] using h.item_cases _ hmem
  rw [Items.scale, List.count_eq_zero.mpr hpercent, List.count_eq_zero.mpr hperMille,
    h.countScaling_beforePoint]
  simp

/-- The decimal that is shown is the one that the pattern asks for. -/
theorem toRat_rounded (x : Binary64) :
    ((NumberPattern.ofText pattern).rounded x).1.toRat =
      fixedPointMagnitude pattern (Decimal.ofBinary64 x).toRat := by
  have hscientific := NumberPattern.isScientific_eq_false h.not_isExponent
  have hnormal := Decimal.normalised_shift (NumberPattern.ofText pattern).power
    (Decimal.normalised_ofBinary64 x)
  have hthousand : ∀ count : Nat, (10 : Rat) ^ (-(3 * count : Int)) = 1 / 1000 ^ count := by
    intro count
    have hcube : (10 : Rat) ^ ((3 * count : Nat) : Int) = 1000 ^ count := by
      rw [zpow_natCast, pow_mul]
      norm_num
    push_cast at hcube
    rw [zpow_neg, hcube, one_div]
  rw [NumberPattern.rounded_eq hscientific, Decimal.toRat_round _ hnormal.digit_lt,
    Decimal.toRat_shift, NumberPattern.power_eq h.not_isExponent, h.scale_eq, hthousand,
    NumberPattern.maxFraction_eq, NumberPattern.fractionItems_eq h.not_isExponent,
    h.countPlaces_afterPoint, fixedPointMagnitude, zpow_neg, zpow_natCast, ← div_eq_mul_inv,
    mul_one_div]

/-- The text of a finite number, from the digits that are shown. -/
theorem formatNumber_eq_write {x : Binary64} (hx : x.isFinite = true) (locale : Locale) :
    formatNumber locale pattern x =
      locale.write (x.isNegative && !((NumberPattern.ofText pattern).shown x).isZero)
        (wholeGlyphs (if (NumberPattern.ofText pattern).grouped then some locale.groupSeparator
          else none) ((NumberPattern.ofText pattern).shown x).whole).flatten
        (Digits.text ((NumberPattern.ofText pattern).shown x).fraction) [] := by
  have hpieces : ∀ piece ∈ (NumberPattern.ofText pattern).layout locale x,
      (piece.1.isDigit || piece.1 == .point) = true ∨ piece.2 = [] := by
    intro piece hpiece
    have hitem : piece.1 ∈ (NumberPattern.ofText pattern).items := by
      have hmap := List.mem_map_of_mem (f := Prod.fst) hpiece
      rwa [NumberPattern.layout, LayoutState.items_layout] at hmap
    rcases h.item_cases piece.1 hitem with hdigit | hpoint | hcomma
    · exact Or.inl (by rw [hdigit, Bool.true_or])
    · exact Or.inl (by rw [hpoint]; rfl)
    · right
      rw [LayoutState.text_of_isConstant _ _ piece hpiece (by rw [hcomma]; rfl), hcomma]
      rfl
  have hshown : Item.point ∈ (NumberPattern.ofText pattern).items ∨
      Items.countPlaces (Items.beforePoint (NumberPattern.ofText pattern).items) ≠ 0 := by
    rcases NumberPattern.mem_beforePoint_or_afterPoint h.zero_mem_items (by decide) with
      hbefore | hafter
    · exact Or.inr (NumberPattern.countPlaces_ne_zero hbefore)
    · exact Or.inl hafter.1
  have hmantissa := NumberPattern.mantissa_eq h.not_isExponent
  have hdigits := NumberPattern.digitsText_mantissa locale x
    (by rw [hmantissa]; exact Items.point_notMem_afterPoint _) (by rwa [hmantissa])
  rw [hmantissa] at hdigits
  rw [h.isBarePattern.formatNumber_eq hx, NumberPattern.text, flatMap_eq_digitsText hpieces,
    NumberPattern.layout, hdigits, Locale.write, List.append_nil]

/-- The text is read as the number that the decimal is rounded to. -/
theorem readNumber?_formatNumber_eq {locale : Locale} (hlocale : locale ∈ Locale.registered)
    {x : Binary64} (hx : x.isFinite = true) :
    locale.readNumber? (formatNumber locale pattern x) =
      (some (Binary64.ofRat (fixedPointValue pattern x.isNegative
        (Decimal.ofBinary64 x).toRat))).filter Binary64.isFinite := by
  have hscientific := NumberPattern.isScientific_eq_false h.not_isExponent
  have hvalue := NumberPattern.value_shown (NumberPattern.ofText pattern) x
  obtain ⟨hwhole, hfraction⟩ := NumberPattern.digit_lt_shown (NumberPattern.ofText pattern) x
  have hne := NumberPattern.shown_ne_nil h.not_isExponent h.zero_mem_items x
  have hzero := Decimal.toRat_eq_zero_iff
    (NumberPattern.normalised_rounded (NumberPattern.ofText pattern) x).1
  have hisZero : ((NumberPattern.ofText pattern).shown x).isZero =
      ((NumberPattern.ofText pattern).rounded x).1.isZero := rfl
  rw [h.formatNumber_eq_write hx, Locale.readNumber?_write hlocale
    (writesDigits_glyphs (Locale.distinct_of_registered locale hlocale) _ hwhole) hfraction rfl
    hne ?_, hvalue, fixedPointValue, ← h.toRat_rounded]
  · -- A number that is rounded to zero has no sign.
    rw [hisZero]
    by_cases hnone : ((NumberPattern.ofText pattern).rounded x).1.isZero = true
    · rw [hzero.mpr hnone, mul_zero, mul_zero]
    · rw [Bool.eq_false_iff.mpr hnone, Bool.not_false, Bool.and_true]
  · rw [hisZero]
    by_cases hnone : ((NumberPattern.ofText pattern).rounded x).1.isZero = true
    · right
      rw [hnone, Bool.not_true, Bool.and_false]
    · left
      intro hdigits
      rw [hdigits, Nat.cast_zero, zero_mul] at hvalue
      exact hnone (hzero.mp hvalue.symm)

end IsFixedPoint

namespace Locale

/-- **A number under a fixed-point pattern is read back as the number nearest to the
decimal that is shown.** The decimal is the one of fifteen digits that is nearest to the
number, divided and rounded as the pattern asks. -/
theorem readNumber?_formatNumber {locale : Locale} (hlocale : locale ∈ registered)
    {pattern : Text} (hpattern : IsFixedPoint pattern) {x : Binary64} (hx : x.isFinite = true) :
    ∃ d, NearestDecimal 15 x.abs.toRat d ∧
      (|fixedPointValue pattern x.isNegative d| ≤ Binary64.greatestFinite →
        locale.readNumber? (formatNumber locale pattern x) =
            some (Binary64.ofRat (fixedPointValue pattern x.isNegative d)) ∧
          (Binary64.ofRat (fixedPointValue pattern x.isNegative d)).IsNearest
            (fixedPointValue pattern x.isNegative d)) ∧
      (fixedPointValue pattern x.isNegative d = 0 →
        locale.readNumber? (formatNumber locale pattern x) = some (.zero false)) := by
  have hread := hpattern.readNumber?_formatNumber_eq hlocale hx
  refine ⟨_, Decimal.nearestDecimal_ofBinary64 x, ?_⟩
  generalize fixedPointValue pattern x.isNegative (Decimal.ofBinary64 x).toRat = value at hread
  constructor
  · intro hrange
    have hfinite := Binary64.isFinite_ofRat hrange
    rw [hread, Option.filter_some, if_pos hfinite]
    exact ⟨rfl, Binary64.isNearest_ofRat hfinite⟩
  · rintro rfl
    rw [hread, Binary64.ofRat_of_lt_half_unit (by norm_num)]
    rfl

/-- A comma divides by a thousand, a no-break space groups, and the sign is U+2212. -/
theorem readNumber?_formatNumber_swedish :
    swedish ∈ registered ∧ IsFixedPoint "#,##0,.0#".toList ∧
      (Binary64.ofInt (-1234567890)).isFinite = true ∧
      |fixedPointValue "#,##0,.0#".toList true 1234567890| ≤ Binary64.greatestFinite ∧
      fixedPointValue "#,##0,.0#".toList true 1234567890 = -123456789 / 100 ∧
      swedish.readNumber? (formatNumber swedish "#,##0,.0#".toList (.ofInt (-1234567890))) =
        some (Binary64.ofRat (-123456789 / 100)) ∧
      (Binary64.ofRat (-123456789 / 100)).IsNearest (-123456789 / 100) := by
  have hlocale : swedish ∈ registered := by decide
  have hpattern : IsFixedPoint "#,##0,.0#".toList := by decide
  have hfinite : (Binary64.ofInt (-1234567890)).isFinite = true := by decide +kernel
  have hnegative : (Binary64.ofInt (-1234567890)).isNegative = true := by decide +kernel
  have hmagnitude : (Binary64.ofInt (-1234567890)).abs.toRat = 1234567890 := by decide +kernel
  have hvalue : fixedPointValue "#,##0,.0#".toList true 1234567890 = -123456789 / 100 := by
    decide +kernel
  have hrange : |fixedPointValue "#,##0,.0#".toList true 1234567890| ≤ Binary64.greatestFinite := by
    rw [hvalue]
    decide +kernel
  have hdigits : ((123456789000000 : Nat) : Rat) * 10 ^ ((10 : Int) - (15 : Nat)) = 1234567890 := by
    decide +kernel
  have hdecimal : NearestDecimal 15 1234567890
      (((123456789000000 : Nat) : Rat) * 10 ^ ((10 : Int) - (15 : Nat))) :=
    .nearest 10 _ (by norm_num) (by norm_num) (by rw [hdigits, sub_self, abs_zero]; positivity)
      fun _ => by decide
  rw [hdigits] at hdecimal
  obtain ⟨d, hd, hread, -⟩ := readNumber?_formatNumber hlocale hpattern hfinite
  rw [hmagnitude] at hd
  obtain rfl := hd.unique hdecimal
  rw [hnegative, hvalue] at hread
  rw [hvalue] at hrange
  exact ⟨hlocale, hpattern, hfinite, by rwa [hvalue], hvalue, hread hrange⟩

end Locale

end Spreadsheet
