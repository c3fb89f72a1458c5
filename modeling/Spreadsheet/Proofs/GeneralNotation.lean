/-
# The general notation

The general format shows a number by the digits of its decimal: without zeros that add
nothing, in plain notation from `10 ^ -4` up to `10 ^ 15`, and elsewhere as one digit before
the point with an exponent. A locale reads its own text back as the number nearest to the
decimal.

* `Decimal.isPlain_iff` — where the notation is plain.
* `exists_generalNotation` — the text is put together from digits in general notation.
* `Locale.formatGeneral_notation` — what the text denotes, how it is shaped, and what is read
  from it.
-/

import Spreadsheet.Format.General
import Spreadsheet.Proofs.DecimalSurvival
import Spreadsheet.Proofs.NumberReading

namespace Spreadsheet

-- A power of a natural number is core's, whatever other instances are in scope.
attribute [local instance (high)] instPowNat

/-! ### The notation -/

/-- The digits and the exponent that the general format writes for the magnitude `d`. -/
structure GeneralNotation (d : Rat) (integer fraction : List Nat) (k : Int) (tail : Text) :
    Prop where
  integer_lt : ∀ digit ∈ integer, digit < 10
  fraction_lt : ∀ digit ∈ fraction, digit < 10
  /-- The digits denote the magnitude. -/
  value : (Digits.value (integer ++ fraction) : Rat) * 10 ^ (k - fraction.length) = d
  ne_nil : integer ≠ []
  no_leading_zero : integer = [0] ∨ integer.head? ≠ some 0
  no_final_zero : fraction.getLast? ≠ some 0
  /-- There is no exponent for zero and for magnitudes that are neither small nor large. -/
  plain_iff : tail = [] ↔ d = 0 ∨ 10 ^ (-4 : Int) ≤ d ∧ d < 10 ^ (15 : Int)
  /-- An exponent has a sign and at least two digits, and one digit other than zero stands in
  front of the fraction. -/
  exponent : tail = [] ∧ k = 0 ∨
    (∃ first, first ≠ 0 ∧ integer = [first]) ∧
      tail = 'E' :: (if k < 0 then '-' else '+') :: (Nat.toDigits 10 k.natAbs).leftpad 2 '0'

namespace GeneralNotation

variable {d : Rat} {integer fraction : List Nat} {k : Int} {tail : Text}

theorem spellsExponent (h : GeneralNotation d integer fraction k tail) :
    Numeral.SpellsExponent k tail := by
  rcases h.exponent with ⟨rfl, rfl⟩ | ⟨-, htail⟩
  · exact .none
  · have hmark : 'E' ∈ ['e', 'E'] := by decide
    have hsigned := Numeral.spellsExponent_signed true hmark (Text.writes_number 2 k.natAbs)
    rw [if_pos rfl, ← apply_ite (fun sign => [sign])] at hsigned
    rw [htail]
    exact hsigned

/-- The locale's grammar has the digits and the exponent. -/
theorem spells (h : GeneralNotation d integer fraction k tail) (locale : Locale)
    (negative : Bool) :
    locale.Spells ⟨negative, Digits.text integer, Digits.text fraction, k⟩
      (locale.write negative (Digits.text integer) (Digits.text fraction) tail) :=
  Locale.spells_write (locale.writesDigits_text h.integer_lt)
    (fun _ hc => Digits.isDigit_of_mem_text h.fraction_lt hc)
    (Or.inl (by simpa [Digits.text] using h.ne_nil)) negative h.spellsExponent

/-- The number that is written is the magnitude with its sign. -/
theorem toRat_eq (h : GeneralNotation d integer fraction k tail) (negative : Bool) :
    Numeral.toRat ⟨negative, Digits.text integer, Digits.text fraction, k⟩ =
      (if negative then -1 else 1) * d := by
  rw [Numeral.toRat_digits h.integer_lt h.fraction_lt, h.value]

/-- The number is read back rounded; a zero has to be without a sign. -/
theorem readNumber?_write (h : GeneralNotation d integer fraction k tail) {locale : Locale}
    (hlocale : locale ∈ Locale.registered) {negative : Bool} (hsign : d ≠ 0 ∨ negative = false) :
    locale.readNumber?
        (locale.write negative (Digits.text integer) (Digits.text fraction) tail) =
      (some (Binary64.ofRat ((if negative then -1 else 1) * d))).filter Binary64.isFinite := by
  have hcount : Digits.value (integer ++ fraction) ≠ 0 ∨ negative = false := by
    refine hsign.imp_left fun hne hzero => hne ?_
    rw [← h.value, hzero, Nat.cast_zero, zero_mul]
  rw [Locale.readNumber?_write hlocale (locale.writesDigits_text h.integer_lt) h.fraction_lt
    (Numeral.tail?_eq_some_iff.mpr h.spellsExponent) (Or.inl h.ne_nil) hcount, h.value]

/-- Zero is one digit. -/
theorem zero : GeneralNotation 0 [0] [] 0 [] where
  integer_lt := by simp
  fraction_lt := by simp
  value := by simp [Digits.value]
  ne_nil := List.cons_ne_nil _ _
  no_leading_zero := Or.inl rfl
  no_final_zero := by simp
  plain_iff := by simp
  exponent := Or.inl ⟨rfl, rfl⟩

end GeneralNotation

/-! ### The notation of a decimal -/

namespace Decimal

variable {d : Decimal}

/-- **The notation is plain** from `10 ^ -4` up to `10 ^ 15`. -/
theorem isPlain_iff (h : Normalised d) (hne : d.isZero = false) :
    d.isPlain = true ↔ 10 ^ (-4 : Int) ≤ d.toRat ∧ d.toRat < 10 ^ (15 : Int) := by
  rw [← not_le, h.pow_le_toRat_iff hne, h.pow_le_toRat_iff hne, isPlain, Bool.and_eq_true,
    decide_eq_true_iff, decide_eq_true_iff, not_lt]
  rfl

/-- The digits before the point as they are shown, a zero when there are none. -/
def shownInteger (d : Decimal) : List Nat :=
  if d.integerDigits.isEmpty then [0] else d.integerDigits

theorem shownInteger_ne_nil (d : Decimal) : d.shownInteger ≠ [] := by
  rw [shownInteger]
  split
  · simp
  · rename_i hsome
    simpa using hsome

theorem digit_lt_shownInteger (h : ∀ digit ∈ d.digits, digit < 10) :
    ∀ digit ∈ d.shownInteger, digit < 10 := by
  rw [shownInteger]
  split
  · simp
  · exact digit_lt_integerDigits h

/-- In plain notation the digits that are shown denote the decimal. -/
theorem value_shownInteger_append (d : Decimal) :
    (Digits.value (d.shownInteger ++ d.fractionDigits d.fractionLength) : Rat) *
        10 ^ (0 - ((d.fractionDigits d.fractionLength).length : Int)) = d.toRat := by
  have hlength : (d.digits.length : Int) ≤ d.scale + d.fractionLength := by
    rw [fractionLength]
    omega
  have hinteger : Digits.value (d.shownInteger ++ d.fractionDigits d.fractionLength) =
      Digits.value (d.integerDigits ++ d.fractionDigits d.fractionLength) := by
    rw [shownInteger]
    split
    · rename_i hempty
      rw [List.isEmpty_iff.mp hempty, Digits.value_append]
      simp [Digits.value]
    · rfl
  rw [hinteger, value_integerDigits_append hlength, length_fractionDigits, mul_assoc,
    ← zpow_add₀ (by norm_num), zero_sub, add_neg_cancel, zpow_zero, mul_one]

/-- The last digit after the point is the last digit of the decimal. -/
theorem getLast?_fractionDigits_ne_zero (h : Normalised d) :
    (d.fractionDigits d.fractionLength).getLast? ≠ some 0 := by
  intro hlast
  have hne : d.fractionDigits d.fractionLength ≠ [] := by
    intro hnil
    rw [hnil] at hlast
    cases hlast
  have hpositive : d.fractionLength ≠ 0 := by
    rwa [Ne, ← length_fractionDigits d d.fractionLength, List.length_eq_zero_iff]
  have hlength : (d.fractionLength : Int) = d.digits.length - d.scale := by
    rw [fractionLength] at hpositive ⊢
    omega
  have hshown : (d.digits.length : Int) ≤ d.scale + d.fractionLength := by omega
  obtain ⟨zeros, tail, hplaces, htail⟩ := integerDigits_append_fractionDigits hshown
  obtain rfl : tail = 0 := by omega
  have hdigits : d.digits ≠ [] := by
    intro hnil
    rw [hnil, h.scale_of_nil hnil] at hlength
    exact hpositive (by simpa using hlength)
  have hends := congrArg List.getLast? hplaces
  rw [List.replicate_zero, List.append_nil, List.getLast?_append_of_ne_nil _ hne,
    List.getLast?_append_of_ne_nil _ hdigits, hlast] at hends
  exact h.last_ne_zero hends.symm

theorem generalNotation_plain (h : Normalised d) (hne : d.isZero = false)
    (hplain : d.isPlain = true) :
    GeneralNotation d.toRat d.shownInteger (d.fractionDigits d.fractionLength) 0 [] where
  integer_lt := digit_lt_shownInteger h.digit_lt
  fraction_lt := digit_lt_fractionDigits h.digit_lt _
  value := d.value_shownInteger_append
  ne_nil := d.shownInteger_ne_nil
  no_leading_zero := by
    rw [shownInteger]
    split
    · exact Or.inl rfl
    · exact Or.inr (head?_integerDigits_ne_zero h)
  no_final_zero := getLast?_fractionDigits_ne_zero h
  plain_iff := iff_of_true rfl (Or.inr ((isPlain_iff h hne).mp hplain))
  exponent := Or.inl ⟨rfl, rfl⟩

/-- The exponent of the general format: its mark, a sign, and at least two digits. -/
def generalExponent (k : Int) : Text :=
  (if k < 0 then ['E', '-'] else ['E', '+']) ++ Text.number 2 k.natAbs

theorem generalNotation_exponent (h : Normalised d) (hne : d.isZero = false)
    (hplain : d.isPlain = false) :
    GeneralNotation d.toRat (d.digits.take 1) (d.digits.drop 1) (d.scale - 1)
      (generalExponent (d.scale - 1)) := by
  obtain ⟨first, rest, hdigits⟩ : ∃ first rest, d.digits = first :: rest :=
    List.exists_cons_of_ne_nil (by simpa [isZero] using hne)
  have hfirst : first ≠ 0 := by
    have hhead := h.head_ne_zero
    rw [hdigits] at hhead
    simpa using hhead
  have hvalue : (Digits.value (d.digits.take 1 ++ d.digits.drop 1) : Rat) *
      10 ^ (d.scale - 1 - ((d.digits.drop 1).length : Int)) = d.toRat := by
    have hplaces : d.scale - 1 - ((d.digits.drop 1).length : Int) =
        d.scale - d.digits.length := by
      rw [hdigits, List.length_drop, List.length_cons]
      omega
    rw [List.take_append_drop, hplaces, toRat]
  have htail : generalExponent (d.scale - 1) ≠ [] := by
    rw [generalExponent]
    split <;> simp
  have hplain : ¬(d.toRat = 0 ∨ 10 ^ (-4 : Int) ≤ d.toRat ∧ d.toRat < 10 ^ (15 : Int)) := by
    rw [toRat_eq_zero_iff h, ← isPlain_iff h hne, hne, hplain]
    decide
  exact
    { integer_lt := fun digit hdigit => h.digit_lt digit (List.mem_of_mem_take hdigit)
      fraction_lt := fun digit hdigit => h.digit_lt digit (List.mem_of_mem_drop hdigit)
      value := hvalue
      ne_nil := by simp [hdigits]
      no_leading_zero := Or.inr (by simpa [hdigits] using hfirst)
      no_final_zero := by
        intro hlast
        have hlong : d.digits.drop 1 ≠ [] := by
          intro hnil
          rw [hnil] at hlast
          cases hlast
        refine h.last_ne_zero ?_
        rw [← List.take_append_drop 1 d.digits, List.getLast?_append_of_ne_nil _ hlong, hlast]
      plain_iff := iff_of_false htail hplain
      exponent := by
        refine Or.inr ⟨⟨first, hfirst, by simp [hdigits]⟩, ?_⟩
        rw [generalExponent]
        split <;> rfl }

/-! ### The texts of a decimal -/

theorem wholeText_eq (d : Decimal) : d.wholeText = Digits.text d.shownInteger := by
  rw [wholeText, shownInteger]
  split <;> rfl

theorem plainTextIn_eq_write (locale : Locale) (negative : Bool) (d : Decimal) :
    (if negative then locale.negativeSign else []) ++ d.plainTextIn locale =
      locale.write negative (Digits.text d.shownInteger)
        (Digits.text (d.fractionDigits d.fractionLength)) [] := by
  have hnil : Digits.text (d.fractionDigits d.fractionLength) = [] ↔ d.fractionLength = 0 := by
    rw [← List.length_eq_zero_iff, Digits.text, List.length_map, length_fractionDigits]
  rw [plainTextIn, Locale.write, List.append_nil, wholeText_eq, fractionText]
  simp only [hnil]

theorem exponentTextIn_eq_write (locale : Locale) (negative : Bool) (d : Decimal) :
    (if negative then locale.negativeSign else []) ++ d.exponentTextIn locale =
      locale.write negative (Digits.text (d.digits.take 1)) (Digits.text (d.digits.drop 1))
        (generalExponent (d.scale - 1)) := by
  have hnil : Digits.text (d.digits.drop 1) = [] ↔ d.digits.length ≤ 1 := by
    rw [Digits.text, List.map_eq_nil_iff, List.drop_eq_nil_iff]
  rw [exponentTextIn, Locale.write, generalExponent]
  simp only [hnil, List.append_assoc]

end Decimal

/-! ### Signs -/

namespace Binary64

/-- A finite number has a minus sign in a text when it is less than zero. -/
theorem isNegative_iff {x : Binary64} (hx : x.isFinite = true) :
    x.isNegative = true ↔ x.toRat < 0 := by
  have hpos : (0 : Rat) < unitsInOne := by exact_mod_cast unitsInOne_pos
  have hunits : x.toRat < 0 ↔ x.signedUnits < 0 := by
    rw [toRat, Rat.mkRat_eq_div, div_lt_iff₀ hpos, zero_mul]
    exact Int.cast_lt_zero
  rw [hunits]
  cases x with
  | finite negative units ok =>
    have horder : order? (finite negative units ok) (zero false) =
        some (compare (finite negative units ok).signedUnits 0) := rfl
    rw [isNegative, horder, beq_iff_eq, Option.some.injEq, compare_lt_iff_lt]
  | infinite _ => exact absurd hx Bool.false_ne_true
  | nan => exact absurd hx Bool.false_ne_true

theorem abs_sign_mul (negative : Bool) (q : Rat) : |(if negative then -1 else 1) * q| = |q| := by
  cases negative <;> simp

theorem abs_sign_mul_of_nonneg {negative : Bool} {q : Rat} (hq : 0 ≤ q) :
    |(if negative then -1 else 1) * q| = q := by
  rw [abs_sign_mul, abs_of_nonneg hq]

/-- A number that is shown as zero has no sign. -/
theorem isNegative_of_isZero {x : Binary64} (hx : x.isFinite = true)
    (h : (Decimal.ofBinary64 x).isZero = true) : x.isNegative = false := by
  rw [Bool.eq_false_iff, Ne, isNegative_iff hx, Decimal.isZero_ofBinary64_iff.mp h]
  exact lt_irrefl 0

end Binary64

/-! ### The general format -/

/-- **The general format writes the decimal of a number in general notation**, with the sign of
the number. -/
theorem exists_generalNotation (locale : Locale) {x : Binary64} (hx : x.isFinite = true) :
    ∃ integer fraction k tail,
      GeneralNotation (Decimal.ofBinary64 x).toRat integer fraction k tail ∧
        formatGeneral locale x = locale.write x.isNegative (Digits.text integer)
          (Digits.text fraction) tail ∧
        ((Decimal.ofBinary64 x).toRat ≠ 0 ∨ x.isNegative = false) := by
  have hnormal := Decimal.normalised_ofBinary64 x
  rw [formatGeneral, if_pos hx]
  dsimp only
  cases hzero : (Decimal.ofBinary64 x).isZero with
  | true =>
    have hsign := Binary64.isNegative_of_isZero hx hzero
    refine ⟨[0], [], 0, [], ?_, ?_, Or.inr hsign⟩
    · rw [Decimal.toRat_of_isZero hzero]
      exact .zero
    · rw [hsign]
      rfl
  | false =>
    have hne : (Decimal.ofBinary64 x).toRat ≠ 0 := by
      rw [Ne, Decimal.toRat_eq_zero_iff hnormal, hzero]
      exact Bool.false_ne_true
    rw [if_neg Bool.false_ne_true]
    cases hplain : (Decimal.ofBinary64 x).isPlain with
    | true =>
      refine ⟨_, _, _, _, Decimal.generalNotation_plain hnormal hzero hplain, ?_, Or.inl hne⟩
      rw [if_pos rfl]
      exact Decimal.plainTextIn_eq_write locale _ _
    | false =>
      refine ⟨_, _, _, _, Decimal.generalNotation_exponent hnormal hzero hplain, ?_, Or.inl hne⟩
      rw [if_neg Bool.false_ne_true]
      exact Decimal.exponentTextIn_eq_write locale _ _

namespace Locale

/-- The text of a finite number under the general format is read as the number that its
decimal is rounded to. -/
theorem readNumber?_formatGeneral_eq {locale : Locale} (hlocale : locale ∈ registered)
    {x : Binary64} (hx : x.isFinite = true) :
    locale.readNumber? (formatGeneral locale x) =
      (some (Binary64.ofRat ((if x.isNegative then -1 else 1) *
        (Decimal.ofBinary64 x).toRat))).filter Binary64.isFinite := by
  obtain ⟨integer, fraction, k, tail, hnotation, htext, hsign⟩ := exists_generalNotation locale hx
  rw [htext]
  exact hnotation.readNumber?_write hlocale hsign

/-- **The general format denotes the decimal of fifteen digits that is nearest to the number,
and is read back.** The locale's grammar has its text, which denotes the decimal with the sign
of the number; it is in general notation; and the locale reads the number nearest to the
decimal from it, when that is in the range of the finite numbers. -/
theorem formatGeneral_notation {locale : Locale} (hlocale : locale ∈ registered) {x : Binary64}
    (hx : x.isFinite = true) :
    ∃ d integer fraction k tail, NearestDecimal 15 x.abs.toRat d ∧
      GeneralNotation d integer fraction k tail ∧
      formatGeneral locale x =
        locale.write x.isNegative (Digits.text integer) (Digits.text fraction) tail ∧
      locale.Spells ⟨x.isNegative, Digits.text integer, Digits.text fraction, k⟩
        (formatGeneral locale x) ∧
      Numeral.toRat ⟨x.isNegative, Digits.text integer, Digits.text fraction, k⟩ =
        (if x.isNegative then -1 else 1) * d ∧
      (d ≤ Binary64.greatestFinite →
        locale.readNumber? (formatGeneral locale x) =
            some (.ofRat ((if x.isNegative then -1 else 1) * d)) ∧
          (Binary64.ofRat ((if x.isNegative then -1 else 1) * d)).IsNearest
            ((if x.isNegative then -1 else 1) * d)) := by
  obtain ⟨integer, fraction, k, tail, hnotation, htext, -⟩ := exists_generalNotation locale hx
  refine ⟨_, integer, fraction, k, tail, Decimal.nearestDecimal_ofBinary64 x, hnotation, htext,
    htext ▸ hnotation.spells locale _, hnotation.toRat_eq _, fun hrange => ?_⟩
  rw [readNumber?_formatGeneral_eq hlocale hx]
  apply Binary64.filter_ofRat_of_le
  rwa [Binary64.abs_sign_mul_of_nonneg (Decimal.toRat_nonneg _)]

/-- A small number has an exponent, and a sign of its own in front of the digits only. -/
theorem formatGeneral_notation_small :
    swedish ∈ registered ∧ (Binary64.ofRat (-1 / 131072)).isFinite = true ∧
      formatGeneral swedish (.ofRat (-1 / 131072)) = "\u22127,62939453125E-06".toList ∧
      swedish.readNumber? (formatGeneral swedish (.ofRat (-1 / 131072))) =
        some (.ofRat (-1 / 131072)) ∧
      (Binary64.ofRat (-1 / 131072)).IsNearest (-1 / 131072) := by
  have hlocale : swedish ∈ registered := by decide
  have hfinite : (Binary64.ofRat (-1 / 131072)).isFinite = true := by decide +kernel
  have htext : formatGeneral swedish (.ofRat (-1 / 131072)) =
      "\u22127,62939453125E-06".toList := by decide +kernel
  have hnegative : (Binary64.ofRat (-1 / 131072)).isNegative = true := by decide +kernel
  have hmagnitude : (Binary64.ofRat (-1 / 131072)).abs.toRat = 1 / 131072 := by decide +kernel
  have hdigits : ((762939453125000 : Nat) : Rat) * 10 ^ ((-5 : Int) - (15 : Nat)) = 1 / 131072 := by
    decide +kernel
  have hdecimal := nearestDecimal_self (by decide : 0 < 15) (by norm_num)
    (by norm_num : 762939453125000 < 10 ^ 15) (-5)
  rw [hdigits] at hdecimal
  have hrange : (1 / 131072 : Rat) ≤ Binary64.greatestFinite := by decide +kernel
  obtain ⟨d, integer, fraction, k, tail, hd, -, -, -, -, hread⟩ :=
    formatGeneral_notation hlocale hfinite
  rw [hmagnitude] at hd
  obtain rfl := hd.unique hdecimal
  rw [hnegative] at hread
  have hvalue : (if true then -1 else 1 : Rat) * (1 / 131072) = -1 / 131072 := by norm_num
  rw [hvalue] at hread
  exact ⟨hlocale, hfinite, htext, hread hrange⟩

end Locale

end Spreadsheet
