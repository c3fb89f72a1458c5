/-
# Criteria of an operator and an integer

An integer cell is compared as the floating point number it is rounded to, and so is the integer
of a criterion, which is read from its digits. Both are rounded alike. Integers of at most 53 bits
are exact, and rounding keeps the order of all others, but for making different ones equal.

* `Locale.readNumber?_intText` — a written integer is read as the rounded integer.
* `Binary64.toRat_ofInt_mono` — rounding keeps the order of integers.
* `evaluate_token_int64` — an integer cell and an integer compare as rounded.
* `evaluate_integer` — so they compare as integers, or at least never against their order.
-/

import Spreadsheet.Proofs.NearestBinary64
import Spreadsheet.Proofs.NumberCriteria
import Spreadsheet.Proofs.NumberReading

namespace Spreadsheet

/-! ### Written integers -/

/-- An integer is written with digits and a minus sign. -/
theorem isDigit_or_minus_of_mem_intText {n : Int} {c : Char} (h : c ∈ intText n) :
    c.isDigit = true ∨ c = '-' := by
  rw [intText, List.mem_append] at h
  rcases h with hsign | hdigit
  · rw [signText] at hsign
    split at hsign
    · exact Or.inr (List.mem_singleton.mp hsign)
    · cases hsign
  · exact Or.inl (Nat.isDigit_of_mem_toDigits (by decide) (by decide) hdigit)

/-- It starts as a number does. -/
theorem startsLikeNumber_intText (n : Int) : startsLikeNumber (intText n) = true := by
  obtain ⟨first, rest, htext⟩ : ∃ first rest, intText n = first :: rest := by
    refine List.exists_cons_of_ne_nil fun hnil => ?_
    rw [intText, List.append_eq_nil_iff] at hnil
    exact Nat.toDigits_ne_nil hnil.2
  have hfirst := isDigit_or_minus_of_mem_intText (n := n) (c := first) (by simp [htext])
  rw [startsLikeNumber, htext, List.head?_cons, Option.any_some]
  rcases hfirst with hdigit | rfl
  · simp [hdigit]
  · rfl

/-- The numeral of an integer: its sign and its digits. -/
def Numeral.ofInt (n : Int) : Numeral where
  negative := decide (n < 0)
  whole := Nat.toDigits 10 n.natAbs
  fraction := []
  exponent := 0

/-- It denotes the integer. -/
theorem Numeral.toRat_ofInt (n : Int) : (ofInt n).toRat = n := by
  have hcoefficient : (ofInt n).coefficient = n.natAbs := by
    rw [coefficient, ofInt, List.append_nil, Nat.ofDigitChars_ten_toDigits]
  have hplace : (ofInt n).place = 0 := rfl
  rw [toRat_eq, hcoefficient, hplace, zpow_zero, mul_one]
  by_cases hneg : n < 0
  · have hsign : (ofInt n).negative = true := decide_eq_true hneg
    rw [hsign, if_pos rfl, Nat.cast_natAbs, abs_of_neg hneg]
    push_cast
    ring
  · have hsign : (ofInt n).negative = false := decide_eq_false hneg
    rw [hsign, if_neg Bool.false_ne_true, Nat.cast_natAbs, abs_of_nonneg (not_lt.mp hneg), one_mul]

/-- It is read as the rounded integer. -/
theorem Numeral.toBinary64_ofInt (n : Int) : (ofInt n).toBinary64 = Binary64.ofInt n := by
  have hsigned : (ofInt n).coefficient ≠ 0 ∨ (ofInt n).negative = false := by
    rcases eq_or_ne n 0 with rfl | hne
    · exact Or.inr rfl
    · refine Or.inl ((not_congr (ofInt n).toRat_eq_zero_iff).mp ?_)
      rw [toRat_ofInt]
      exact_mod_cast hne
  rw [toBinary64_eq_ofRat hsigned, toRat_ofInt, Binary64.ofInt]

namespace Locale

/-- An integer with a minus sign in front spells its numeral in every locale. -/
theorem spells_intText (locale : Locale) (n : Int) :
    locale.Spells (.ofInt n) (intText n) := by
  have hsign : locale.SpellsSign (decide (n < 0)) (signText (decide (n < 0))) := by
    rw [signText]
    cases decide (n < 0) with
    | true => exact .minus
    | false => exact .none
  have hdigits : ∀ digit ∈ Digits.ofNat n.natAbs, digit < 10 :=
    fun _ => Digits.digit_lt_of_mem_ofNat
  have hinteger := (locale.writesDigits_text hdigits).spellsInteger
  rw [Digits.text_ofNat] at hinteger
  have hspells := Spells.parts hsign hinteger .none .none (Or.inl Nat.toDigits_ne_nil)
  rwa [List.append_nil, List.append_nil] at hspells

/-- **A written integer is read as the rounded integer**, if that is finite. -/
theorem readNumber?_intText {locale : Locale} (hlocale : locale ∈ registered) (n : Int) :
    locale.readNumber? (intText n) = (some (Binary64.ofInt n)).filter Binary64.isFinite := by
  have htrim : (intText n).trim = intText n := by
    refine Text.trim_of_visible fun c hc => ?_
    rcases isDigit_or_minus_of_mem_intText hc with hdigit | rfl
    · exact (isDigit_kind hdigit).blank
    · decide
  have hnumeral : locale.numeral? (intText n) = some (.ofInt n) := by
    rw [numeral?_eq_some_iff (distinct_of_registered locale hlocale), htrim]
    exact locale.spells_intText n
  rw [readNumber?, hnumeral, Option.map_some, Numeral.toBinary64_ofInt]

end Locale

/-! ### Rounded integers -/

namespace Binary64

/-- An integer of 64 bits is rounded to a finite number. -/
theorem isFinite_ofInt (n : Int64) : (ofInt n.toInt).isFinite = true := by
  have hlow := n.minValue_le_toInt
  have hhigh := n.toInt_le
  have hmin : Int64.minValue.toInt = -2 ^ 63 := rfl
  have hmax : Int64.maxValue.toInt = 2 ^ 63 - 1 := rfl
  have habs : |((n.toInt : Int) : Rat)| ≤ 2 ^ 63 := by
    rw [← Int.cast_abs]
    exact_mod_cast abs_le.mpr ⟨by omega, by omega⟩
  exact (distance_ofRat (by decide) habs).1

/-- **Rounding keeps the order of integers.** -/
theorem toRat_ofInt_mono {a b : Int64} (h : a.toInt ≤ b.toInt) :
    (ofInt a.toInt).toRat ≤ (ofInt b.toInt).toRat :=
  toRat_ofRat_mono (isFinite_ofInt a) (isFinite_ofInt b) (by exact_mod_cast h)

end Binary64

/-! ### Criteria -/

section Criteria

variable (matcher : Matcher) {locale : Locale} (hlocale : locale ∈ Locale.registered)
  (a b : Int64)
include hlocale

/-- **An integer cell and the integer of a criterion compare as rounded.** -/
theorem evaluate_token_int64 {operator : Operator} (hop : operator ≠ .minus) :
    evaluate matcher locale (.integer a) (operator.token ++ intText b.toInt) =
      .ok (decide (operator.Holds (Binary64.ofInt a.toInt).toRat
        (Binary64.ofInt b.toInt).toRat)) := by
  have hread : locale.readNumber? (intText b.toInt) = some (.ofInt b.toInt) := by
    rw [Locale.readNumber?_intText hlocale, Option.filter_some,
      if_pos (Binary64.isFinite_ofInt b)]
  have hvalue : Cell.integer a ≠ .empty := Cell.noConfusion
  have hstart := startsLiteral_of_startsLikeNumber (startsLikeNumber_intText b.toInt)
  rw [evaluate_token_append matcher locale (.integer a) hop hstart
    (Locale.comparisonMark_notMem hlocale hread), Criterion.compareWith_of_number hop hvalue hread]
  exact congrArg Except.ok (decide_eq_decide.mpr (Operator.holdsOfNumbers_iff
    (Binary64.isFinite_ofInt a) (Binary64.isFinite_ofInt b)))

/-- **What a criterion of an operator and an integer decides for an integer cell.** In a registered
locale, with any matcher, it is how the integers compare, if they have at most 53 bits. Of all
integers, one that is not greater is not found greater, one that is not less is not found less,
and equal ones are found equal, at least and at most. -/
theorem evaluate_integer :
    (a.toInt.natAbs ≤ 2 ^ 53 ∧ b.toInt.natAbs ≤ 2 ^ 53 →
      ∀ operator : Operator, operator ≠ .minus →
        evaluate matcher locale (.integer a) (operator.token ++ intText b.toInt) =
          .ok (decide (operator.Holds a.toInt b.toInt))) ∧
    (a.toInt ≤ b.toInt →
      evaluate matcher locale (.integer a) (Operator.greater.token ++ intText b.toInt) =
        .ok false) ∧
    (b.toInt ≤ a.toInt →
      evaluate matcher locale (.integer a) (Operator.less.token ++ intText b.toInt) =
        .ok false) ∧
    (a = b → ∀ operator ∈ [Operator.equal, .lessOrEqual, .greaterOrEqual],
      evaluate matcher locale (.integer a) (operator.token ++ intText b.toInt) = .ok true) := by
  refine ⟨?_, fun hle => ?_, fun hge => ?_, ?_⟩
  · rintro ⟨ha, hb⟩ operator hop
    have hexact : operator.Holds ((a.toInt : Int) : Rat) ((b.toInt : Int) : Rat) ↔
        operator.Holds a.toInt b.toInt :=
      Operator.holds_iff_of_strictMonoOn (Int.cast_strictMono.strictMonoOn Set.univ)
        (Set.mem_univ _) (Set.mem_univ _) operator
    rw [evaluate_token_int64 matcher hlocale a b hop, (Binary64.toRat_ofInt ha).2,
      (Binary64.toRat_ofInt hb).2, decide_eq_decide.mpr hexact]
  · rw [evaluate_token_int64 matcher hlocale a b (by decide)]
    exact congrArg Except.ok (decide_eq_false (not_lt.mpr (Binary64.toRat_ofInt_mono hle)))
  · rw [evaluate_token_int64 matcher hlocale a b (by decide)]
    exact congrArg Except.ok (decide_eq_false (not_lt.mpr (Binary64.toRat_ofInt_mono hge)))
  · rintro rfl operator hoperator
    have hkind : operator ≠ .minus ∧ ∀ q : Rat, operator.Holds q q := by
      simp only [List.mem_cons, List.not_mem_nil, or_false] at hoperator
      rcases hoperator with rfl | rfl | rfl
      · exact ⟨by decide, fun q => rfl⟩
      · exact ⟨by decide, fun q => le_refl q⟩
      · exact ⟨by decide, fun q => le_refl q⟩
    rw [evaluate_token_int64 matcher hlocale a a hkind.1, decide_eq_true (hkind.2 _)]

end Criteria

/-- In Swedish, where numbers have a minus sign of their own, minus three is greater than `-5`. Of
the last two integers of 64 bits, which are rounded to one number, the first is not found greater
and the second not less. -/
theorem evaluate_integer_swedish :
    Locale.swedish ∈ Locale.registered ∧
      evaluate .wildcard .swedish (.integer (-3)) ">-5".toList = .ok true ∧
      evaluate .wildcard .swedish (.integer 9223372036854775806)
        ">9223372036854775807".toList = .ok false ∧
      evaluate .wildcard .swedish (.integer 9223372036854775807)
        "<9223372036854775806".toList = .ok false ∧
      evaluate .wildcard .swedish (.integer 9223372036854775807)
        ">=9223372036854775807".toList = .ok true := by
  have hswedish : Locale.swedish ∈ Locale.registered := by decide
  obtain ⟨hexact, -⟩ := evaluate_integer .wildcard hswedish (-3) (-5)
  obtain ⟨-, hgreater, -⟩ :=
    evaluate_integer .wildcard hswedish 9223372036854775806 9223372036854775807
  obtain ⟨-, -, hless, -⟩ :=
    evaluate_integer .wildcard hswedish 9223372036854775807 9223372036854775806
  obtain ⟨-, -, -, hequal⟩ :=
    evaluate_integer .wildcard hswedish 9223372036854775807 9223372036854775807
  exact ⟨hswedish, hexact (by decide) .greater (by decide), hgreater (by decide),
    hless (by decide), hequal rfl .greaterOrEqual (by decide)⟩

end Spreadsheet
