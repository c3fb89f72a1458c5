/-
# Criteria of an operator and a number

A comparison in front of anything that the locale reads as a number compares numbers:
signs, group separators, exponents and blanks of the literal belong to the number and
never to the operator. A value that is no number differs from it.

* `Locale.comparisonMark_notMem` — numbers hold no mark of a comparison.
* `Criterion.compareWith_of_number` — how a value compares with a literal that is a number.
* `evaluate_token_number` — what the criterion decides.
-/

import Spreadsheet.Proofs.CriterionLiteral
import Spreadsheet.Proofs.NumberComparison
import Spreadsheet.Proofs.NumberText

namespace Spreadsheet

/-- The literal starts as a number does that is written without the locale's own sign and
with a digit before its point. -/
def startsLikeNumber (literal : Text) : Bool :=
  literal.head?.any fun c => c.isDigit || c == '+' || c == '-' || isBlank c

/-- Such a literal is not taken for a part of the operator. -/
theorem startsLiteral_of_startsLikeNumber {literal : Text} (h : startsLikeNumber literal = true) :
    literal.head?.all startsLiteral = true := by
  cases literal with
  | nil => rfl
  | cons c rest =>
    simp only [startsLikeNumber, List.head?_cons, Option.any_some, Bool.or_eq_true] at h
    simp only [startsLiteral, List.head?_cons, Option.all_some, Bool.or_eq_true]
    rcases h with ((hdigit | hplus) | hminus) | hblank
    · exact Or.inl (Or.inl (Or.inl (isDigit_kind hdigit).numeral))
    · exact Or.inl (Or.inr hplus)
    · exact Or.inr hminus
    · exact Or.inl (Or.inl (Or.inr hblank))

namespace Locale

/-- No number of a registered locale holds a mark of a comparison. -/
theorem comparisonMark_notMem {locale : Locale} (hlocale : locale ∈ registered) {text : Text}
    {x : Binary64} (h : locale.readNumber? text = some x) :
    ∀ c ∈ text, isComparisonMark c = false := by
  have hmarks : ∀ locale ∈ registered,
      ['=', '<', '>'].all (fun c => !locale.writesNumbersWith c) = true := by
    decide
  intro c hc
  rw [Bool.eq_false_iff]
  intro hmark
  have hmem : c ∈ ['=', '<', '>'] := by
    simpa [isComparisonMark, or_assoc] using hmark
  have hwrites := List.all_eq_true.mp (hmarks locale hlocale) c hmem
  rw [mem_of_readNumber? h hc] at hwrites
  cases hwrites

end Locale

namespace Criterion

/-- A comparison keeps its number: only the minus sign changes it. -/
theorem signed_of_ne_minus {operator : Operator} (hop : operator ≠ .minus)
    (number? : Option Binary64) : signed operator number? = (operator, number?) := by
  cases operator with
  | minus => exact absurd rfl hop
  | _ => rfl

/-- The empty text is no number. -/
theorem ne_nil_of_readNumber? {locale : Locale} {text : Text} {x : Binary64}
    (h : locale.readNumber? text = some x) : text ≠ [] := by
  rintro rfl
  have hunsigned : (locale.readSign []).2 = [] := by
    unfold Locale.readSign
    cases locale.negativeSign <;> rfl
  have hnumeral : locale.numeral? [] = none := by
    change Numeral.ofUnsigned? _ _ (locale.readSign []).1 (locale.readSign []).2 = none
    rw [hunsigned]
    rfl
  rw [Locale.readNumber?, hnumeral] at h
  cases h

/-- **How a value compares with a literal that is a number**: by its own number if it has
one, and else as different. -/
theorem compareWith_of_number {locale : Locale} {operator : Operator} (hop : operator ≠ .minus)
    {value : Cell} (hvalue : value ≠ .empty) {literal : Text} {y : Binary64}
    (hread : locale.readNumber? literal = some y) :
    compareWith locale operator value literal =
      .ok (match value.numeric? locale with
        | some x => decide (operator.HoldsOfNumbers x y)
        | none => decide (operator = .notEqual)) := by
  have hfilled : value.isEmpty = false := by
    cases value with
    | empty => exact absurd rfl hvalue
    | _ => rfl
  have hliteral : literal.isEmpty = false := by
    simpa using ne_nil_of_readNumber? hread
  rw [compareWith, hfilled, hliteral]
  dsimp only
  rw [compareFilled, hread, signed_of_ne_minus hop]
  dsimp only
  cases value.numeric? locale with
  | none => rfl
  | some x => exact Operator.compareNumbers_eq hop x y

end Criterion

/-- **What a criterion of an operator and a number decides.** In a registered locale, with
any matcher, a comparison written in front of a number compares the number of the value
with it, if the value is one; every other value that is not empty differs from it and
satisfies no other comparison. -/
theorem evaluate_token_number (matcher : Matcher) {locale : Locale}
    (hlocale : locale ∈ Locale.registered) {operator : Operator} (hop : operator ≠ .minus)
    {literal : Text} {y : Binary64} (hread : locale.readNumber? literal = some y)
    (hstart : startsLikeNumber literal = true) {value : Cell} (hvalue : value ≠ .empty) :
    evaluate matcher locale value (operator.token ++ literal) =
      .ok (match value.numeric? locale with
        | some x => decide (operator.HoldsOfNumbers x y)
        | none => decide (operator = .notEqual)) := by
  rw [evaluate_token_append matcher locale value hop (startsLiteral_of_startsLikeNumber hstart)
    (Locale.comparisonMark_notMem hlocale hread)]
  exact Criterion.compareWith_of_number hop hvalue hread

/-- In German, a text of a thousand is at least minus 12345, which is written with a sign,
a group separator, a decimal separator, an exponent and a blank. -/
theorem evaluate_token_number_german :
    Locale.german ∈ Locale.registered ∧ Operator.greaterOrEqual ≠ .minus ∧
      Locale.german.readNumber? " -1.234,5e1".toList = some (.ofInt (-12345)) ∧
      startsLikeNumber " -1.234,5e1".toList = true ∧ Cell.text "1.000".toList ≠ .empty ∧
      evaluate .wildcard Locale.german (.text "1.000".toList) ">= -1.234,5e1".toList =
        .ok true := by
  have hlocale : Locale.german ∈ Locale.registered := by decide
  have hop : Operator.greaterOrEqual ≠ .minus := by decide
  have hread : Locale.german.readNumber? " -1.234,5e1".toList = some (.ofInt (-12345)) := by
    decide +kernel
  have hstart : startsLikeNumber " -1.234,5e1".toList = true := by decide +kernel
  have hvalue : Cell.text "1.000".toList ≠ .empty := Cell.noConfusion
  have hholds : (match (Cell.text "1.000".toList).numeric? Locale.german with
      | some x => decide (Operator.greaterOrEqual.HoldsOfNumbers x (.ofInt (-12345)))
      | none => decide (Operator.greaterOrEqual = .notEqual)) = true := by
    decide +kernel
  have hdecided := evaluate_token_number .wildcard hlocale hop hread hstart hvalue
  rw [hholds] at hdecided
  exact ⟨hlocale, hop, hread, hstart, hvalue, hdecided⟩

end Spreadsheet
