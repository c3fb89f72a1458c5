/-
# Which operator stands in front of a number

A comparison of two characters is found whatever number follows it. A comparison of one
character takes the next character for its second one, unless that is a letter, a digit, a
blank or a sign. So in front of a number that starts with the separator of the decimals no
operator is found.

* `Criterion.operator?_mark_other` — a mark before a character that starts no literal.
* `Locale.startsLiteral_of_readNumber?` — which numbers start as a literal does.
* `Criterion.resolve_token_number` — the operator in front of a number.
-/

import Spreadsheet.Proofs.NumberCriteria

namespace Spreadsheet

/-! ### Marks before other characters -/

/-- No operator ends with a character that is no mark of a comparison. -/
theorem Operator.ofToken?_pair_eq_none {mark second : Char}
    (h : isComparisonMark second = false) : ofToken? [mark, second] = none := by
  rw [Option.eq_none_iff_forall_ne_some]
  intro operator hfound
  have htoken := token_ofToken? hfound
  have hop : operator ≠ .minus := by
    rintro rfl
    cases htoken
  rcases token_cases hop with ⟨_, hsingle, -⟩ | ⟨_, other, hpair, -, hmark⟩
  · rw [hsingle] at htoken
    cases htoken
  · rw [hpair] at htoken
    cases htoken
    rw [h] at hmark
    cases hmark

namespace Criterion

/-- After a mark, a character that starts no literal makes an operator of two characters
with it, or there is none. -/
theorem operator?_mark_other {mark second : Char} (rest : Text)
    (hmark : isComparisonMark mark = true) (hsecond : startsLiteral second = false) :
    operator? (mark :: second :: rest) = Operator.ofToken? [mark, second] := by
  simp only [startsLiteral, Bool.or_eq_false_iff, beq_eq_false_iff_ne] at hsecond
  obtain ⟨⟨⟨hletter, hblank⟩, hplus⟩, hminus⟩ := hsecond
  rw [operator?, candidate?_pair rest hmark hletter hblank, Option.bind_some, operatorOf?]
  split
  · rename_i operator hfound
    exact hfound.symm
  · rename_i hnone
    rw [hnone]
    exact if_neg (not_or.mpr ⟨hminus, hplus⟩)

end Criterion

/-! ### Numbers -/

namespace Locale

variable {locale : Locale} {literal : Text} {y : Binary64}

/-- The separator of the decimals neither starts a literal nor belongs to a comparison. -/
theorem decimalSeparator_kind (hlocale : locale ∈ registered) :
    startsLiteral locale.decimalSeparator = false ∧
      isComparisonMark locale.decimalSeparator = false := by
  revert locale
  decide

/-- **A number starts as a literal does**, unless it starts with the separator of the
decimals or with the minus sign of its own that some locales have. -/
theorem startsLiteral_of_readNumber? (hlocale : locale ∈ registered)
    (hread : locale.readNumber? literal = some y)
    (hpoint : literal.head? ≠ some locale.decimalSeparator)
    (hsign : literal.head? ≠ some '\u2212') : literal.head?.all startsLiteral = true := by
  cases literal with
  | nil => rfl
  | cons c rest =>
    have hstarts : startsLiteral c = true := by
      rcases head_of_readNumber? hread with hblank | rfl | rfl | hnegative | hdigit | rfl
      · simp [startsLiteral, hblank]
      · rfl
      · rfl
      · rcases (distinct_of_registered locale hlocale).sign with h | h
        · rw [h] at hnegative
          cases hnegative
          rfl
        · rw [h] at hnegative
          cases hnegative
          exact absurd rfl hsign
      · simp [startsLiteral, (isDigit_kind hdigit).numeral]
      · exact absurd rfl hpoint
    simpa using hstarts

end Locale

namespace Criterion

/-- **The operator in front of a number.** In a registered locale a comparison in front of a
number is found, and the criterion compares with the number, when the operator has two
characters or the number starts with neither the separator of the decimals nor the minus
sign `−` that some locales have. An operator of one character in front of the separator of
the decimals is not found, and the criterion is left to the matcher. -/
theorem resolve_token_number {locale : Locale} (hlocale : locale ∈ Locale.registered)
    {operator : Operator} (hop : operator ≠ .minus) {literal : Text} {y : Binary64}
    (hread : locale.readNumber? literal = some y) :
    (operator.token.length = 2 ∨
          literal.head? ≠ some locale.decimalSeparator ∧ literal.head? ≠ some '\u2212' →
        operator? (operator.token ++ literal) = some operator ∧
          ∀ matcher value, evaluate matcher locale value (operator.token ++ literal) =
            compareWith locale operator value literal) ∧
      (operator.token.length = 1 ∧ literal.head? = some locale.decimalSeparator →
        operator? (operator.token ++ literal) = none ∧
          ∀ matcher value, evaluate matcher locale value (operator.token ++ literal) =
            .ok (matcher locale (operator.token ++ literal) value == some .eq)) := by
  constructor
  · intro hcondition
    have hstart : operator.token.length = 2 ∨ literal.head?.all startsLiteral = true :=
      hcondition.imp_right fun h => Locale.startsLiteral_of_readNumber? hlocale hread h.1 h.2
    refine ⟨operator?_token_append hop hstart, ?_⟩
    intro matcher value
    rw [evaluate, ofText_token_append hop hstart (Locale.comparisonMark_notMem hlocale hread)]
    rfl
  · rintro ⟨hlength, hhead⟩
    obtain ⟨rest, rfl⟩ := List.head?_eq_some_iff.mp hhead
    obtain ⟨hstarts, hseparator⟩ := Locale.decimalSeparator_kind hlocale
    have hnone : operator? (operator.token ++ locale.decimalSeparator :: rest) = none := by
      rcases Operator.token_cases hop with ⟨mark, htoken, hmark, -⟩ | ⟨_, _, htoken, -⟩
      · rw [htoken, List.singleton_append, operator?_mark_other rest hmark hstarts]
        exact Operator.ofToken?_pair_eq_none hseparator
      · simp [htoken] at hlength
    exact ⟨hnone, fun matcher value => evaluate_pattern matcher locale value (by simp) hnone⟩

/-- In American English, one quarter is less than or equal to `.5`, which follows an
operator of two characters, and no operator is found in `<.5`. -/
theorem resolve_token_number_half :
    Locale.americanEnglish ∈ Locale.registered ∧ Operator.lessOrEqual ≠ .minus ∧
      Operator.less ≠ .minus ∧
      Locale.americanEnglish.readNumber? ".5".toList = some (.ofRat (1 / 2)) ∧
      operator? "<=.5".toList = some .lessOrEqual ∧
      evaluate .wildcard .americanEnglish (.number (.ofRat (1 / 4))) "<=.5".toList = .ok true ∧
      operator? "<.5".toList = none ∧
      evaluate .wildcard .americanEnglish (.number (.ofRat (1 / 4))) "<.5".toList = .ok false := by
  have hlocale : Locale.americanEnglish ∈ Locale.registered := by decide
  have hlessOrEqual : Operator.lessOrEqual ≠ .minus := by decide
  have hless : Operator.less ≠ .minus := by decide
  have hread : Locale.americanEnglish.readNumber? ".5".toList = some (.ofRat (1 / 2)) := by
    decide +kernel
  obtain ⟨hfound, hcompared⟩ := (resolve_token_number hlocale hlessOrEqual hread).1 (Or.inl rfl)
  obtain ⟨hnone, hmatched⟩ := (resolve_token_number hlocale hless hread).2 ⟨rfl, rfl⟩
  refine ⟨hlocale, hlessOrEqual, hless, hread, hfound, ?_, hnone, ?_⟩
  · refine (hcompared .wildcard (.number (.ofRat (1 / 4)))).trans ?_
    decide +kernel
  · refine (hmatched .wildcard (.number (.ofRat (1 / 4)))).trans ?_
    decide +kernel

/-- In American English, `.5` is a number, and no operator is found in `=.5`, which one half
does not match. In Swedish, where the minus sign is U+2212, none is found in front of
minus five. -/
theorem operator?_equal_ne_some :
    Operator.equal ≠ .minus ∧ Locale.americanEnglish ∈ Locale.registered ∧
      Locale.americanEnglish.readNumber? ".5".toList = some (.ofRat (1 / 2)) ∧
      operator? (Operator.equal.token ++ ".5".toList) ≠ some .equal ∧
      evaluate .wildcard .americanEnglish (.number (.ofRat (1 / 2)))
        (Operator.equal.token ++ ".5".toList) = .ok false ∧
      Locale.swedish ∈ Locale.registered ∧
      Locale.swedish.readNumber? "\u22125".toList = some (.ofInt (-5)) ∧
      operator? (Operator.equal.token ++ "\u22125".toList) ≠ some .equal := by
  refine ⟨by decide, by decide, by decide +kernel, by decide +kernel, by decide +kernel,
    by decide, by decide +kernel, by decide +kernel⟩

end Criterion

end Spreadsheet
