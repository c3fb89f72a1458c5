/-
# Scientific patterns are read back, up to the sign of the exponent

A pattern of places and one exponent shows a decimal in scientific notation. The number in
front of the exponent is written with the separator and the sign of the locale, and so is read
back. The sign of a negative exponent is written with the sign of the locale too, but a reader
takes only a plain minus there: with another sign, such as U+2212, what a locale shows of a
small number is no number for the same locale.

* `ScientificPattern.formatNumber_eq_write` — the text under a pattern, from the digits that
  are shown.
* `ScientificDigits.exponent_neg_iff` — for which numbers the exponent is negative.
* `ScientificPattern.readNumber?_formatNumber_scientific` — which texts are read back, as which
  number, and which are not.
* `ScientificPattern.not_readNumber?_formatNumber_scientific` — a number that is not read back.
-/

import Spreadsheet.Proofs.BarePattern
import Spreadsheet.Proofs.GeneralNotation
import Spreadsheet.Proofs.ScientificLayout

namespace Spreadsheet

-- A power of a natural number is core's, whatever other instances are in scope.
attribute [local instance (high)] instPowNat

/-! ### Scientific patterns -/

/-- A pattern of places and points, with a zero before the point, and one exponent. -/
structure ScientificPattern where
  mantissa : Text
  marker : Char
  sign : Option Char
  width : Nat
  mem_mantissa : ∀ c ∈ mantissa, c ∈ ['0', '#', '.']
  zero_mem : '0' ∈ mantissa.takeWhile (· != '.')
  marker_mem : marker ∈ ['E', 'e']
  sign_mem : ∀ c ∈ sign, c ∈ ['+', '-']
  width_pos : 0 < width

namespace ScientificPattern

/-- The text of the exponent. -/
def exponent (pattern : ScientificPattern) : Text :=
  pattern.marker :: (pattern.sign.toList ++ List.replicate pattern.width '0')

/-- The text of the pattern. -/
def text (pattern : ScientificPattern) : Text :=
  pattern.mantissa ++ pattern.exponent

/-- The number of places before the point. -/
def places (pattern : ScientificPattern) : Nat :=
  (pattern.mantissa.takeWhile (· != '.')).length

/-- The number of all places in front of the exponent. -/
def digitCount (pattern : ScientificPattern) : Nat :=
  pattern.mantissa.countP (· != '.')

/-- The pattern `0.00E+00`. -/
def twoDecimals : ScientificPattern where
  mantissa := "0.00".toList
  marker := 'E'
  sign := some '+'
  width := 2
  mem_mantissa := List.all_iff_forall_prop.mp (by decide)
  zero_mem := by decide
  marker_mem := by decide
  sign_mem := by simp
  width_pos := by decide

end ScientificPattern

/-! ### The items of a pattern -/

/-- An exponent at the end of a pattern is one lexeme. -/
theorem lexemes_exponent (pattern : ScientificPattern) :
    lexemes pattern.exponent =
      [.exponent pattern.marker pattern.sign pattern.width] := by
  have hbefore : (Lexeme.exponent pattern.marker pattern.sign pattern.width).Before [] :=
    .exponent (by simpa using pattern.marker_mem) (by simpa using pattern.sign_mem)
      pattern.width_pos (Option.some_ne_none _).symm
  have hlexemes := Lexeme.lexemes_source_append hbefore
  rwa [List.append_nil, lexemes] at hlexemes

namespace ScientificPattern

open Items

variable (pattern : ScientificPattern)

/-- The items in front of the exponent. -/
def front : List Item :=
  firstPointOnly (pattern.mantissa.map Item.ofChar)

theorem items_eq : (NumberPattern.ofText pattern.text).items =
    pattern.front ++ .exponent pattern.marker (pattern.sign == some '+') pattern.width :: [] := by
  have hmem : ∀ c ∈ pattern.mantissa, c ∈ ['0', '#', '.', ','] :=
    fun c hc => List.mem_append_left [','] (pattern.mem_mantissa c hc)
  rw [NumberPattern.ofText, text, lexemes_append hmem, lexemes_exponent, List.map_append,
    List.map_map, List.map_singleton, Item.ofLexeme, firstPointOnly_concat _ (by simp), front]
  rfl

/-- They are places and the point. -/
theorem front_cases : ∀ item ∈ pattern.front, item.isDigit = true ∨ item = .point := by
  have hchars : ∀ c ∈ ['0', '#', '.'], (Item.ofChar c).isDigit = true ∨ Item.ofChar c = .point :=
    List.all_iff_forall_prop.mp (by decide)
  intro item hitem
  obtain ⟨c, hc, rfl⟩ := List.mem_map.mp (mem_of_mem_firstPointOnly hitem)
  exact hchars c (pattern.mem_mantissa c hc)

theorem not_isExponent_front : ∀ item ∈ pattern.front, item.isExponent = false := by
  intro item hitem
  rcases pattern.front_cases item hitem with hdigit | rfl
  · cases item with
    | digit _ => rfl
    | _ => cases hdigit
  · rfl

/-- Nothing in front of the exponent groups digits, multiplies or divides. -/
theorem notMem_front {item : Item} (hdigit : item.isDigit = false) (hpoint : item ≠ .point) :
    item ∉ pattern.front := by
  intro hmem
  rcases pattern.front_cases item hmem with h | h
  · rw [hdigit] at h
    cases h
  · exact hpoint h

theorem scale_front : scale pattern.front = 0 := by
  have hcomma : Item.comma ∉ beforePoint pattern.front := fun hmem =>
    pattern.notMem_front rfl (by decide) (mem_of_mem_beforePoint hmem)
  rw [scale, countScaling_eq_zero hcomma,
    List.count_eq_zero.mpr (pattern.notMem_front rfl (by decide)),
    List.count_eq_zero.mpr (pattern.notMem_front rfl (by decide))]
  rfl

theorem not_separated_front : ¬Separated (beforePoint pattern.front) := by
  rintro ⟨before, after, hitems, -⟩
  have hcomma : Item.comma ∈ beforePoint pattern.front := by
    rw [hitems]
    exact List.mem_append_right _ List.mem_cons_self
  exact pattern.notMem_front rfl (by decide) (mem_of_mem_beforePoint hcomma)

/-! ### The places of a pattern -/

theorem isDigit_ofChar {c : Char} (hc : c ∈ pattern.mantissa) :
    (Item.ofChar c).isDigit = (c != '.') := by
  have hchars : ∀ c ∈ ['0', '#', '.'], (Item.ofChar c).isDigit = (c != '.') :=
    List.all_iff_forall_prop.mp (by decide)
  exact hchars c (pattern.mem_mantissa c hc)

theorem countPlaces_beforePoint : countPlaces (beforePoint pattern.front) = pattern.places := by
  rw [front, beforePoint_firstPointOnly, beforePoint_map_ofChar, countPlaces, List.countP_map,
    List.countP_eq_length.mpr, places]
  intro c hc
  rw [Function.comp_apply, pattern.isDigit_ofChar ((List.takeWhile_sublist _).subset hc)]
  exact List.mem_takeWhile_imp (p := (· != '.')) hc

theorem countPlaces_front :
    countPlaces (beforePoint pattern.front) + countPlaces (afterPoint pattern.front) =
      pattern.digitCount := by
  rw [countPlaces_before_add_after, front, countPlaces_firstPointOnly, countPlaces,
    List.countP_map, digitCount]
  exact List.countP_congr fun c hc => by rw [Function.comp_apply, pattern.isDigit_ofChar hc]

theorem places_ne_zero : pattern.places ≠ 0 := by
  rw [places, Ne, List.length_eq_zero_iff]
  exact List.ne_nil_of_mem pattern.zero_mem

theorem isBarePattern : IsBarePattern pattern.text where
  mem c hc := by
    rcases List.mem_append.mp hc with hmem | hmem
    · exact List.mem_append_left [',', 'E', 'e', '+', '-'] (pattern.mem_mantissa c hmem)
    · rcases List.mem_cons.mp hmem with rfl | hmem
      · exact List.mem_append_right ['0', '#', '.', ',']
          (List.mem_append_left ['+', '-'] pattern.marker_mem)
      · rcases List.mem_append.mp hmem with hsign | hzero
        · have hsign := pattern.sign_mem c (Option.mem_toList.mp hsign)
          exact List.mem_append_right ['0', '#', '.', ',', 'E', 'e'] hsign
        · rw [List.eq_of_mem_replicate hzero]
          exact List.mem_cons_self
  ne_nil := by simp [text, exponent]

/-! ### The text of a number -/

/-- The digits of a number other than zero under the pattern. -/
theorem scientificDigits {x : Binary64} (hx : x.toRat ≠ 0) :
    ScientificDigits pattern.places (countPlaces (afterPoint pattern.front))
        (Decimal.ofBinary64 x).toRat ((NumberPattern.ofText pattern.text).shown x).whole
        ((NumberPattern.ofText pattern.text).shown x).fraction
        ((NumberPattern.ofText pattern.text).shown x).exponent ∧
      ((NumberPattern.ofText pattern.text).shown x).isZero = false := by
  have hitems := pattern.items_eq
  have hmantissa := NumberPattern.mantissa_eq_front hitems pattern.not_isExponent_front
  have hplaces : (NumberPattern.ofText pattern.text).wholePlaces.length = pattern.places := by
    rw [NumberPattern.length_wholePlaces, NumberPattern.wholeItems_eq_beforePoint, hmantissa,
      pattern.countPlaces_beforePoint]
  have hpower : (NumberPattern.ofText pattern.text).power = 0 := by
    rw [NumberPattern.power_eq_scale hitems hmantissa, pattern.scale_front]
    rfl
  have hshown := NumberPattern.shown_scientific (NumberPattern.isScientific_of_items hitems)
    (by rw [hplaces]; exact pattern.places_ne_zero) hx
  rw [hplaces, hpower, zpow_zero, mul_one, NumberPattern.maxFraction_eq,
    NumberPattern.fractionItems_eq_afterPoint, hmantissa] at hshown
  exact hshown

/-- **The text of a number under the pattern**, from the digits that are shown. -/
theorem formatNumber_eq_write {x : Binary64} (hx : x.toRat ≠ 0) (locale : Locale) :
    formatNumber locale pattern.text x =
      locale.write x.isNegative
        (Digits.text ((NumberPattern.ofText pattern.text).shown x).whole)
        (Digits.text ((NumberPattern.ofText pattern.text).shown x).fraction)
        (exponentText locale pattern.marker (pattern.sign == some '+') pattern.width
          ((NumberPattern.ofText pattern.text).shown x).exponent) := by
  have hitems := pattern.items_eq
  have hmantissa := NumberPattern.mantissa_eq_front hitems pattern.not_isExponent_front
  have hpoint : Item.point ∉ afterPoint (NumberPattern.ofText pattern.text).mantissa := by
    rw [hmantissa]
    exact point_notMem_afterPoint _
  have hplaces : countPlaces (beforePoint (NumberPattern.ofText pattern.text).mantissa) ≠ 0 := by
    rw [hmantissa, pattern.countPlaces_beforePoint]
    exact pattern.places_ne_zero
  have hdigits := NumberPattern.digitsText_mantissa locale x hpoint (Or.inr hplaces)
  have hpieces : ∀ state : LayoutState, ∀ piece ∈ state.layout locale
      ((NumberPattern.ofText pattern.text).shown x).exponent pattern.front,
      (piece.1.isDigit || piece.1 == .point) = true ∨ piece.2 = [] := by
    intro state piece hpiece
    left
    have hmap := List.mem_map_of_mem (f := Prod.fst) hpiece
    rw [LayoutState.items_layout] at hmap
    rcases pattern.front_cases piece.1 hmap with hdigit | hpoint
    · rw [hdigit, Bool.true_or]
    · rw [hpoint]
      rfl
  rw [NumberPattern.flatten_wholeGlyphs_grouped, NumberPattern.wholeItems_eq_beforePoint,
    hmantissa, if_neg pattern.not_separated_front] at hdigits
  rw [pattern.isBarePattern.formatNumber_eq (Binary64.isFinite_of_toRat_ne_zero hx),
    (pattern.scientificDigits hx).2, NumberPattern.text, NumberPattern.layout_eq_append hitems,
    List.flatMap_append, List.flatMap_cons, flatMap_eq_digitsText (hpieces _), hdigits,
    LayoutState.layout, Locale.write]
  simp only [Bool.not_false, Bool.and_true, List.flatMap_nil, List.append_nil, List.append_assoc]

end ScientificPattern

/-! ### The sign of the exponent -/

namespace ScientificDigits

variable {places decimals : Nat} {q : Rat} {integer fraction : List Nat} {e : Int}
  (h : ScientificDigits places decimals q integer fraction e)
include h

theorem digit_lt : ∀ digit ∈ integer ++ fraction, digit < 10 := fun digit hdigit =>
  (List.mem_append.mp hdigit).elim (h.integer_lt digit) (h.fraction_lt digit)

/-- The number lies below the power of ten that needs one more place before the point. -/
theorem lt_pow : roundSignificant (places + decimals) q < 10 ^ ((places : Int) + e) := by
  have hvalue : (Digits.value (integer ++ fraction) : Rat) <
      (10 ^ (integer ++ fraction).length : Nat) := by
    exact_mod_cast Digits.value_lt h.digit_lt
  have hlength : (integer ++ fraction).length = places + fraction.length := by
    rw [List.length_append, h.length_integer]
  have hsplit : ((10 ^ (integer ++ fraction).length : Nat) : Rat) * 10 ^ (e - fraction.length) =
      10 ^ ((places : Int) + e) := pow_mul_zpow (by omega)
  rw [← h.value, ← hsplit]
  exact mul_lt_mul_of_pos_right hvalue (by positivity)

variable (hplaces : places ≠ 0)
include hplaces

theorem integer_ne_nil : integer ≠ [] := by
  rintro rfl
  exact hplaces h.length_integer.symm

/-- The first digit takes the first place. -/
theorem pow_le_value :
    10 ^ (places - 1 + fraction.length) ≤ Digits.value (integer ++ fraction) := by
  have hhead : (integer ++ fraction).head? ≠ some 0 := by
    rw [List.head?_append_of_ne_nil _ (h.integer_ne_nil hplaces)]
    exact h.head_ne_zero
  apply Digits.pow_le_value hhead
  rw [List.length_append, h.length_integer]
  omega

theorem pow_le :
    (10 : Rat) ^ ((places : Int) - 1 + e) ≤ roundSignificant (places + decimals) q := by
  have hvalue : ((10 ^ (places - 1 + fraction.length) : Nat) : Rat) ≤
      Digits.value (integer ++ fraction) := by
    exact_mod_cast h.pow_le_value hplaces
  have hsplit : ((10 ^ (places - 1 + fraction.length) : Nat) : Rat) * 10 ^ (e - fraction.length) =
      10 ^ ((places : Int) - 1 + e) := pow_mul_zpow (by omega)
  rw [← h.value, ← hsplit]
  exact mul_le_mul_of_nonneg_right hvalue (by positivity)

/-- **The exponent is negative for numbers below the power of ten** that takes all places
before the point. -/
theorem exponent_neg_iff :
    e < 0 ↔ roundSignificant (places + decimals) q < 10 ^ ((places : Int) - 1) := by
  constructor
  · intro hneg
    refine lt_of_lt_of_le h.lt_pow ?_
    exact zpow_le_zpow_right₀ (by norm_num) (by omega)
  · intro hless
    have hpower := lt_of_le_of_lt (h.pow_le hplaces) hless
    have hexponent := (zpow_lt_zpow_iff_right₀ (by norm_num : (1 : Rat) < 10)).mp hpower
    omega

end ScientificDigits

/-! ### Reading the text -/

/-- An exponent without a sign, or with one that a reader takes, is read. -/
theorem spellsExponent_exponentText {locale : Locale} {marker : Char}
    (hmarker : marker ∈ ['E', 'e']) (plus : Bool) (width : Nat) {e : Int}
    (hminus : locale.negativeSign = ['-'] ∨ 0 ≤ e) :
    Numeral.SpellsExponent e (exponentText locale marker plus width e) := by
  have hmark : marker ∈ ['e', 'E'] := List.mem_pair.mpr (List.mem_pair.mp hmarker).symm
  have hsign : (if e < 0 then locale.negativeSign else if plus then ['+'] else []) =
      if e < 0 then ['-'] else if plus then ['+'] else [] := by
    rcases hminus with hplain | hnonneg
    · rw [hplain]
    · rw [if_neg (not_lt.mpr hnonneg), if_neg (not_lt.mpr hnonneg)]
  rw [exponentText, hsign]
  exact Numeral.spellsExponent_signed plus hmark (Text.writes_number width e.natAbs)

namespace ScientificPattern

variable (pattern : ScientificPattern) {locale : Locale} (hlocale : locale ∈ Locale.registered)
  {x : Binary64} (hx : x.toRat ≠ 0)
include hlocale hx

/-- With a sign that a reader takes in the exponent, the text is read as the number that the
decimal is rounded to. -/
theorem readNumber?_of_minus (hminus : locale.negativeSign = ['-'] ∨
      0 ≤ ((NumberPattern.ofText pattern.text).shown x).exponent) :
    locale.readNumber? (formatNumber locale pattern.text x) =
      (some (Binary64.ofRat ((if x.isNegative then -1 else 1) *
        roundSignificant pattern.digitCount (Decimal.ofBinary64 x).toRat))).filter
          Binary64.isFinite := by
  obtain ⟨hdigits, -⟩ := pattern.scientificDigits hx
  have hvalue := hdigits.value
  have hne := hdigits.integer_ne_nil pattern.places_ne_zero
  have hpositive := Nat.lt_of_lt_of_le (Nat.pow_pos (by decide))
    (hdigits.pow_le_value pattern.places_ne_zero)
  rw [← pattern.countPlaces_beforePoint, pattern.countPlaces_front] at hvalue
  have htail := Numeral.tail?_eq_some_iff.mpr (spellsExponent_exponentText pattern.marker_mem
    (pattern.sign == some '+') pattern.width hminus)
  rw [pattern.formatNumber_eq_write hx, Locale.readNumber?_write hlocale
    (locale.writesDigits_text hdigits.integer_lt) hdigits.fraction_lt htail (Or.inl hne)
    (Or.inl (Nat.ne_of_gt hpositive)), hvalue]

/-- With another sign in the exponent, the text is no number. -/
theorem readNumber?_of_not_minus (hminus : locale.negativeSign ≠ ['-'])
    (hneg : ((NumberPattern.ofText pattern.text).shown x).exponent < 0) :
    locale.readNumber? (formatNumber locale pattern.text x) = none := by
  have hdistinct := Locale.distinct_of_registered locale hlocale
  have hsign := hdistinct.sign.resolve_left hminus
  have hgroup : ∀ locale ∈ Locale.registered, '\u2212' ≠ locale.groupSeparator := by decide
  have hpoint : '\u2212' ≠ locale.decimalSeparator := by
    rintro heq
    apply hdistinct.point_sign
    rw [← heq]
    decide
  obtain ⟨hdigits, -⟩ := pattern.scientificDigits hx
  have hwhole := locale.writesDigits_text hdigits.integer_lt
  have hne := hwhole.ne_nil (hdigits.integer_ne_nil pattern.places_ne_zero)
  rw [pattern.formatNumber_eq_write hx]
  generalize (NumberPattern.ofText pattern.text).shown x = shown at *
  have hnumber := Text.writes_number pattern.width shown.exponent.natAbs
  have htail : exponentText locale pattern.marker (pattern.sign == some '+') pattern.width
      shown.exponent = pattern.marker :: '\u2212' ::
        Text.number pattern.width shown.exponent.natAbs := by
    rw [exponentText, if_pos hneg, hsign]
    rfl
  have hlast : ∀ c ∈ (pattern.marker :: '\u2212' ::
      Text.number pattern.width shown.exponent.natAbs).getLast?, isBlank c = false := by
    intro c hc
    rw [List.getLast?_cons_cons, List.getLast?_cons_of_ne_nil hnumber.ne_nil] at hc
    exact hnumber.visible c (List.mem_of_mem_getLast? hc)
  rw [htail]
  exact Locale.readNumber?_write_eq_none hdistinct hwhole
    (fun c hc => Digits.isDigit_of_mem_text hdigits.fraction_lt hc) (Or.inl hne) _ hlast
    (List.mem_cons_of_mem _ List.mem_cons_self) (hgroup locale hlocale) hpoint rfl

/-- **Scientific patterns are read back, up to the sign of the exponent.** A number other than
zero is shown as the decimal of fifteen digits that is nearest to it, rounded to the places of
the pattern. Where the negative sign of the locale is a plain minus, or the exponent needs no
sign, the locale reads the number nearest to that from the text; elsewhere the text is no
number. -/
theorem readNumber?_formatNumber_scientific :
    ∃ d, NearestDecimal 15 x.abs.toRat d ∧
      (locale.negativeSign = ['-'] ∨
          10 ^ ((pattern.places : Int) - 1) ≤ roundSignificant pattern.digitCount d →
        roundSignificant pattern.digitCount d ≤ Binary64.greatestFinite →
        locale.readNumber? (formatNumber locale pattern.text x) =
            some (.ofRat ((if x.isNegative then -1 else 1) *
              roundSignificant pattern.digitCount d)) ∧
          (Binary64.ofRat ((if x.isNegative then -1 else 1) *
            roundSignificant pattern.digitCount d)).IsNearest
              ((if x.isNegative then -1 else 1) * roundSignificant pattern.digitCount d)) ∧
      (locale.negativeSign ≠ ['-'] →
        roundSignificant pattern.digitCount d < 10 ^ ((pattern.places : Int) - 1) →
        locale.readNumber? (formatNumber locale pattern.text x) = none) := by
  have hexponent := (pattern.scientificDigits hx).1.exponent_neg_iff pattern.places_ne_zero
  rw [← pattern.countPlaces_beforePoint, pattern.countPlaces_front,
    pattern.countPlaces_beforePoint] at hexponent
  refine ⟨_, Decimal.nearestDecimal_ofBinary64 x, fun hminus hrange => ?_, fun hminus hless => ?_⟩
  · have hread := pattern.readNumber?_of_minus hlocale hx
      (hminus.imp_right fun hlarge => not_lt.mp (mt hexponent.mp (not_lt.mpr hlarge)))
    have hnonneg : 0 ≤ roundSignificant pattern.digitCount (Decimal.ofBinary64 x).toRat :=
      mul_nonneg (Nat.cast_nonneg _) (by positivity)
    rw [hread]
    apply Binary64.filter_ofRat_of_le
    rwa [Binary64.abs_sign_mul_of_nonneg hnonneg]
  · exact pattern.readNumber?_of_not_minus hlocale hx hminus (hexponent.mpr hless)

omit hlocale hx

/-- A small number is read back from German text, and not from Swedish text, where U+2212
stands in the exponent. -/
theorem readNumber?_formatNumber_scientific_small :
    Locale.german ∈ Locale.registered ∧ Locale.swedish ∈ Locale.registered ∧
      (Binary64.ofRat (1 / 1024)).toRat ≠ 0 ∧ roundSignificant 3 (1 / 1024) = 977 / 1000000 ∧
      Locale.german.readNumber?
          (formatNumber .german twoDecimals.text (.ofRat (1 / 1024))) =
        some (.ofRat (977 / 1000000)) ∧
      (Binary64.ofRat (977 / 1000000)).IsNearest (977 / 1000000) ∧
      Locale.swedish.readNumber?
        (formatNumber .swedish twoDecimals.text (.ofRat (1 / 1024))) = none := by
  have hgerman : Locale.german ∈ Locale.registered := by decide
  have hswedish : Locale.swedish ∈ Locale.registered := by decide
  have hne : (Binary64.ofRat (1 / 1024)).toRat ≠ 0 := by decide +kernel
  have hround : roundSignificant 3 (1 / 1024) = 977 / 1000000 := by decide +kernel
  have hnegative : (Binary64.ofRat (1 / 1024)).isNegative = false := by decide +kernel
  have hmagnitude : (Binary64.ofRat (1 / 1024)).abs.toRat = 1 / 1024 := by decide +kernel
  have hdigits : ((976562500000000 : Nat) : Rat) * 10 ^ ((-3 : Int) - (15 : Nat)) = 1 / 1024 := by
    decide +kernel
  have hdecimal := nearestDecimal_self (by decide : 0 < 15) (by norm_num)
    (by norm_num : 976562500000000 < 10 ^ 15) (-3)
  rw [hdigits] at hdecimal
  have hcount : twoDecimals.digitCount = 3 := rfl
  have hplaces : twoDecimals.places = 1 := rfl
  have hrange : (977 / 1000000 : Rat) ≤ Binary64.greatestFinite := by decide +kernel
  obtain ⟨d, hd, hread, -⟩ := readNumber?_formatNumber_scientific twoDecimals hgerman hne
  obtain ⟨e, he, -, hnone⟩ := readNumber?_formatNumber_scientific twoDecimals hswedish hne
  rw [hmagnitude] at hd he
  obtain rfl := hd.unique hdecimal
  obtain rfl := he.unique hdecimal
  rw [hcount, hround, hnegative, if_neg Bool.false_ne_true, one_mul] at hread
  rw [hcount, hround, hplaces] at hnone
  obtain ⟨hsome, hnearest⟩ := hread (Or.inl rfl) hrange
  exact ⟨hgerman, hswedish, hne, hround, hsome, hnearest, hnone (by decide) (by norm_num)⟩

/-- **What a locale shows with an exponent is not always read back.** In Swedish a thousandth
is shown as a text that is no number. -/
theorem not_readNumber?_formatNumber_scientific :
    ¬∀ locale ∈ Locale.registered, ∀ (pattern : ScientificPattern) (x : Binary64), x.toRat ≠ 0 →
      ∀ d, NearestDecimal 15 x.abs.toRat d →
        roundSignificant pattern.digitCount d ≤ Binary64.greatestFinite →
        locale.readNumber? (formatNumber locale pattern.text x) =
          some (.ofRat ((if x.isNegative then -1 else 1) *
            roundSignificant pattern.digitCount d)) := by
  intro hread
  have hdigits : ((100000000000000 : Nat) : Rat) * 10 ^ ((-2 : Int) - (15 : Nat)) = 1 / 1000 := by
    decide +kernel
  have hdecimal : NearestDecimal 15 (Binary64.ofRat (1 / 1000)).abs.toRat
      (((100000000000000 : Nat) : Rat) * 10 ^ ((-2 : Int) - (15 : Nat))) :=
    .nearest (-2) _ (by decide +kernel) (by decide +kernel) (by decide +kernel) fun _ => by decide
  have htext : formatNumber .swedish twoDecimals.text (.ofRat (1 / 1000)) =
      "1,00E\u221203".toList := by decide +kernel
  have hsome := hread .swedish (by decide) twoDecimals (.ofRat (1 / 1000)) (by decide +kernel) _
    hdecimal (by decide +kernel)
  have hnone : Locale.swedish.readNumber? "1,00E\u221203".toList = none := rfl
  rw [htext, hnone] at hsome
  cases hsome

end ScientificPattern

end Spreadsheet
