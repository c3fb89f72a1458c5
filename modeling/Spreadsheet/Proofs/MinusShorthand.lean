/-
# A minus sign in front of a number

A criterion of a minus sign and a number asks for the number with the other sign, as the
criterion does that compares for equality with the signed number. But every minus sign of the
criterion is taken for the operator and removed, that of an exponent too. What is asked for is
then the number with the greater exponent, or nothing, where that is out of range.

* `Locale.readNumber?_minus` — a minus sign in front of a number is its sign.
* `Criterion.compareWith_minus` — comparing by the minus sign is comparing for equality.
* `evaluate_minus_number` — what a criterion of a minus sign and a number decides.
-/

import Spreadsheet.Proofs.CriterionErrors
import Spreadsheet.Proofs.ExponentText
import Spreadsheet.Proofs.NumberCriteria

namespace Spreadsheet

-- A power of a natural number is core's, whatever other instances are in scope.
attribute [local instance (high)] instPowNat

/-! ### Numbers with the other sign -/

namespace Numeral

/-- The numeral with the other sign. -/
def neg (numeral : Numeral) : Numeral :=
  { numeral with negative := !numeral.negative }

/-- The numeral with the other sign is read as the number with the other sign. -/
theorem toBinary64_neg (numeral : Numeral) : numeral.neg.toBinary64 = numeral.toBinary64.neg := by
  obtain ⟨negative, whole, fraction, exponent⟩ := numeral
  have hscaled : ∀ coefficient place, nearestScaled (!negative) coefficient place =
      (nearestScaled negative coefficient place).neg := by
    intro coefficient place
    cases place <;> exact Binary64.ofQuotient_not negative _ _
  unfold toBinary64 coefficient place neg
  dsimp only
  rw [hscaled]
  split_ifs <;> rfl

/-- The sign of a numeral is given apart from its text. -/
theorem ofUnsigned?_not (point : Char) (groups : Char → Bool) (negative : Bool) (text : Text) :
    ofUnsigned? point groups (!negative) text =
      (ofUnsigned? point groups negative text).map neg := by
  unfold ofUnsigned?
  dsimp only
  split
  · rfl
  · rw [Option.map_map]
    rfl

end Numeral

namespace Locale

/-- **A minus sign in front of a number is its sign**, when the number starts with a digit. -/
theorem readNumber?_minus {locale : Locale} (hlocale : locale ∈ registered) {literal : Text}
    (hdigit : literal.head?.any Char.isDigit = true) :
    locale.readNumber? ('-' :: literal) = (locale.readNumber? literal).map Binary64.neg := by
  obtain ⟨first, rest, rfl, hfirst⟩ := Text.exists_cons_of_head? hdigit
  have hvisible : isBlank first = false := (isDigit_kind hfirst).blank
  have hnumeral : locale.numeral? ('-' :: first :: rest) =
      (locale.numeral? (first :: rest)).map Numeral.neg := by
    rw [numeral?, numeral?, Text.trim_cons (by decide), Text.trim_cons hvisible,
      Text.trimEnd_cons hvisible, readSign_digit hlocale hfirst]
    exact Numeral.ofUnsigned?_not _ _ false _
  rw [readNumber?, readNumber?, hnumeral]
  cases locale.numeral? (first :: rest) with
  | none => rfl
  | some numeral =>
    simp only [Option.map_some, Numeral.toBinary64_neg, Option.filter_some,
      Binary64.isFinite_neg]
    split <;> rfl

end Locale

/-! ### The minus sign as an operator -/

namespace Criterion

/-- A minus sign in front of a digit is an operator. -/
theorem operator?_minus {literal : Text} (hdigit : literal.head?.any Char.isDigit = true) :
    operator? ('-' :: literal) = some .minus := by
  obtain ⟨first, rest, rfl, hfirst⟩ := Text.exists_cons_of_head? hdigit
  have hcandidate : candidate? ('-' :: first :: rest) = some ['-'] := by
    have hdash : isLetterOrNumeral '-' = false := by decide
    rw [candidate?, Text.trim_cons (by decide), Text.trimEnd_cons (isDigit_kind hfirst).blank]
    simp [hdash, (isDigit_kind hfirst).numeral]
  rw [operator?, hcandidate]
  rfl

/-- The criterion of a minus sign and a number loses every minus sign. -/
theorem ofText_minus {literal : Text} (hdigit : literal.head?.any Char.isDigit = true) :
    ofText ('-' :: literal) = .comparison .minus (literal.removeAll ['-']) := by
  have hremoved : Text.removeAll ('-' :: literal) ['-'] = literal.removeAll ['-'] := by
    rw [Text.removeAll_mark, Text.removeAll_mark]
    rfl
  rw [ofText_eq_comparison (operator?_minus hdigit)]
  exact congrArg _ hremoved

/-- **Comparing by the minus sign is comparing for equality** with the signed number. -/
theorem compareWith_minus {locale : Locale} {literal : Text} {y : Binary64}
    (hread : locale.readNumber? literal = some y)
    (hsigned : locale.readNumber? ('-' :: literal) = some y.neg) (value : Cell) :
    compareWith locale .minus value literal = compareWith locale .equal value ('-' :: literal) := by
  have hliteral : literal.isEmpty = false := by
    simpa using ne_nil_of_readNumber? hread
  have hfilled : compareFilled locale .minus value literal =
      compareFilled locale .equal value ('-' :: literal) := by
    rw [compareFilled, compareFilled, hread, hsigned]
    cases value.numeric? locale <;> rfl
  rw [compareWith, compareWith, hliteral, hfilled]
  cases value.isEmpty <;> rfl

/-- The minus sign in front of what is neither a number nor a date: no number equals it, and
with what is no number it cannot be compared. -/
theorem compareWith_minus_of_no_number {locale : Locale} {literal : Text} (hne : literal ≠ [])
    (hread : locale.readNumber? literal = none) (hdate : locale.readDate? literal = none)
    (value : Cell) :
    compareWith locale .minus value literal =
      if value.isEmpty || (value.numeric? locale).isSome then .ok false
      else .error ⟨.minus, value.kindName, literal⟩ := by
  have hliteral : literal.isEmpty = false := by simpa using hne
  have hgeneric : compareGeneric .minus value literal =
      .error ⟨.minus, value.kindName, literal⟩ := by
    have hnone : (compareLiteral value literal).satisfies? .minus = none :=
      satisfies?_eq_none_iff.mpr (Or.inl rfl)
    rw [compareGeneric, hnone]
  have hfilled : compareFilled locale .minus value literal =
      if (value.numeric? locale).isSome then .ok false
      else .error ⟨.minus, value.kindName, literal⟩ := by
    rw [compareFilled, hread, signed_none, hdate]
    cases value.numeric? locale with
    | none => exact hgeneric
    | some x => rfl
  rw [compareWith, hliteral, hfilled]
  cases value.isEmpty with
  | true => rfl
  | false => rw [Bool.false_or]

end Criterion

/-! ### Criteria -/

/-- What is left of a number without its minus signs starts with the same digit. -/
theorem Text.head?_removeAll_minus {literal : Text}
    (hdigit : literal.head?.any Char.isDigit = true) :
    (literal.removeAll ['-']).head?.any Char.isDigit = true := by
  obtain ⟨first, rest, rfl, hfirst⟩ := exists_cons_of_head? hdigit
  have hother : first ≠ '-' := by
    rintro rfl
    cases hfirst
  rw [removeAll_mark, List.filter_cons_of_pos (by simpa using hother)]
  exact hfirst

/-- The criterion of a minus sign and a number is the comparison by the minus sign. -/
theorem evaluate_minus_append (matcher : Matcher) (locale : Locale) (value : Cell)
    {literal : Text} (hdigit : literal.head?.any Char.isDigit = true) :
    evaluate matcher locale value ("-".toList ++ literal) =
      Criterion.compareWith locale .minus value (literal.removeAll "-".toList) := by
  have happend : "-".toList ++ literal = '-' :: literal := rfl
  rw [evaluate, happend, Criterion.ofText_minus hdigit]
  rfl

/-- The criterion that compares for equality with a number behind a minus sign decides what the
minus sign decides in front of the number. -/
theorem evaluate_equal_minus (matcher : Matcher) {locale : Locale}
    (hlocale : locale ∈ Locale.registered) (value : Cell) {bare : Text} {z : Binary64}
    (hread : locale.readNumber? bare = some z) (hdigit : bare.head?.any Char.isDigit = true) :
    evaluate matcher locale value ("=-".toList ++ bare) =
      Criterion.compareWith locale .minus value bare := by
  have hsigned : locale.readNumber? ('-' :: bare) = some z.neg := by
    rw [Locale.readNumber?_minus hlocale hdigit, hread, Option.map_some]
  have happend : "=-".toList ++ bare = Operator.equal.token ++ ('-' :: bare) := rfl
  rw [happend, evaluate_token_append matcher locale value (by decide) rfl
    (Locale.comparisonMark_notMem hlocale hsigned)]
  exact (Criterion.compareWith_minus hread hsigned value).symm

/-- **What a criterion of a minus sign and a number decides.** In a registered locale, with any
matcher and for every value, let a number start with a digit, and take away its minus signs,
which only its exponent can hold. If a number is left, the minus sign in front of the whole
decides what "equal" decides in front of the minus sign and the number that is left; without a
minus sign in the number this is the number itself. If none is left, the criterion does not
hold for an empty value and for a number, and is in error for every other value. -/
theorem evaluate_minus_number (matcher : Matcher) {locale : Locale}
    (hlocale : locale ∈ Locale.registered) (value : Cell) {literal : Text} {y : Binary64}
    (hread : locale.readNumber? literal = some y)
    (hdigit : literal.head?.any Char.isDigit = true) :
    ('-' ∉ literal →
        evaluate matcher locale value ("-".toList ++ literal) =
          evaluate matcher locale value ("=-".toList ++ literal)) ∧
      (locale.readNumber? (literal.removeAll "-".toList) ≠ none →
        evaluate matcher locale value ("-".toList ++ literal) =
          evaluate matcher locale value ("=-".toList ++ literal.removeAll "-".toList)) ∧
      (locale.readNumber? (literal.removeAll "-".toList) = none →
        evaluate matcher locale value ("-".toList ++ literal) =
          if value.isEmpty || (value.numeric? locale).isSome then .ok false
          else .error ⟨.minus, value.kindName, literal.removeAll "-".toList⟩) := by
  have hbare := Text.head?_removeAll_minus hdigit
  have hkept : '-' ∉ literal → literal.removeAll "-".toList = literal :=
    fun hnot => Text.removeFrom_eq_self hnot
  rw [evaluate_minus_append matcher locale value hdigit]
  refine ⟨fun hnot => ?_, fun hsome => ?_, fun hnone => ?_⟩
  · rw [hkept hnot, evaluate_equal_minus matcher hlocale value hread hdigit]
  · obtain ⟨z, hz⟩ := Option.ne_none_iff_exists'.mp hsome
    rw [evaluate_equal_minus matcher hlocale value hz hbare]
  · have hmem : '-' ∈ literal := by
      by_contra hnot
      rw [hkept hnot, hread] at hnone
      cases hnone
    have hne : literal.removeAll "-".toList ≠ [] := by
      obtain ⟨first, rest, hcons, -⟩ := Text.exists_cons_of_head? hbare
      exact hcons ▸ List.cons_ne_nil first rest
    exact Criterion.compareWith_minus_of_no_number hne hnone
      (Locale.readDate?_removeAll_minus hlocale hread hdigit hmem) value

/-- In German, the text of minus 123450 is minus 1.234,5 times a hundred, whichever way that is
asked for. In American English the smallest exponents lose their sign and leave no number. -/
theorem evaluate_minus_number_german :
    Locale.german ∈ Locale.registered ∧ Locale.americanEnglish ∈ Locale.registered ∧
      Locale.german.readNumber? "1.234,5e2".toList = some (.ofInt 123450) ∧
      Locale.americanEnglish.readNumber? "1e-400".toList = some (.ofInt 0) ∧
      ("1.234,5e2".toList).head?.any Char.isDigit = true ∧
      ("1e-400".toList).head?.any Char.isDigit = true ∧
      evaluate .wildcard .german (.text "-123450".toList) "-1.234,5e2".toList = .ok true ∧
      evaluate .wildcard .german (.text "-123450".toList) "=-1.234,5e2".toList = .ok true ∧
      evaluate .exact .americanEnglish (.text "x".toList) "-1e-400".toList =
        .error ⟨.minus, "text".toList, "1e400".toList⟩ := by
  have hgerman : Locale.german ∈ Locale.registered := by decide
  have henglish : Locale.americanEnglish ∈ Locale.registered := by decide
  have hread : Locale.german.readNumber? "1.234,5e2".toList = some (.ofInt 123450) := by
    decide +kernel
  have htiny : Locale.americanEnglish.readNumber? "1e-400".toList = some (.ofInt 0) := by
    decide +kernel
  have hdigit : ("1.234,5e2".toList).head?.any Char.isDigit = true := by decide
  have htinyDigit : ("1e-400".toList).head?.any Char.isDigit = true := by decide
  have hequal : evaluate .wildcard .german (.text "-123450".toList) "=-1.234,5e2".toList =
      .ok true := by decide +kernel
  obtain ⟨hsame, -, -⟩ :=
    evaluate_minus_number .wildcard hgerman (.text "-123450".toList) hread hdigit
  obtain ⟨-, -, hrefused⟩ :=
    evaluate_minus_number .exact henglish (.text "x".toList) htiny htinyDigit
  exact ⟨hgerman, henglish, hread, htiny, hdigit, htinyDigit, (hsame (by decide)).trans hequal,
    hequal, hrefused (by decide +kernel)⟩

/-- In American English, `1e-5` is a number that starts with a digit, and minus one hundred
thousandth satisfies `=-1e-5`, but not `-1e-5`, which asks for minus 100000. -/
theorem evaluate_minus_ne_equal_minus :
    Locale.americanEnglish ∈ Locale.registered ∧
      Locale.americanEnglish.readNumber? "1e-5".toList = some (.ofRat (1 / 100000)) ∧
      ("1e-5".toList).head?.any Char.isDigit = true ∧
      evaluate .wildcard .americanEnglish (.number (.ofRat (-1 / 100000)))
        ("=-".toList ++ "1e-5".toList) = .ok true ∧
      evaluate .wildcard .americanEnglish (.number (.ofRat (-1 / 100000)))
        ("-".toList ++ "1e-5".toList) = .ok false ∧
      evaluate .wildcard .americanEnglish (.number (.ofInt (-100000)))
        ("-".toList ++ "1e-5".toList) = .ok true := by
  exact ⟨by decide, by decide +kernel, by decide, by decide +kernel, by decide +kernel,
    by decide +kernel⟩

end Spreadsheet
