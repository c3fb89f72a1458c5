/-
# Which criteria are in error

Most comparisons of a criterion are decided, whatever is compared. What is left are
orders of values that have none, and the minus sign in front of something that is no
number.

* `Refused` — the comparisons that an operator cannot decide, with their errors.
* `compareFilled_eq_error_iff` — of operands that are not empty, those are in error
  whose literal is no number and that are refused.
* `evaluate_eq_error_iff` — the criteria that are in error for a value.
-/

import Spreadsheet.Criteria.Criterion

namespace Spreadsheet

/-! ### Comparisons that cannot be decided -/

/-- Whether the operator asks for an order. -/
def Operator.isOrdering : Operator → Bool
  | .greater | .greaterOrEqual | .less | .lessOrEqual => true
  | _ => false

/-- An operator cannot decide a comparison of a value with a literal that is no number:
the minus sign compares nothing, durations have no order, and truth values have one
among themselves only. -/
inductive Refused (locale : Locale) :
    (operator : Operator) → (left : Cell) → (right : Text) → InvalidComparison → Prop where
  | minus {left : Cell} {right : Text} :
      left.numeric? locale = none →
      Refused locale .minus left right ⟨.minus, left.kindName, right⟩
  | minusDate {left : Cell} {right : Text} {number : Binary64} {date : Instant} :
      left.numeric? locale = some number → locale.readDate? right = some date →
      Refused locale .minus left right ⟨.minus, "number".toList, date.serial.plainText⟩
  | duration {operator : Operator} {d : Duration} {right : Text} :
      operator.isOrdering = true →
      Refused locale operator (.duration d) right
        ⟨operator, (Cell.duration d).kindName, right⟩
  | boolean {operator : Operator} {truth : Bool} {right : Text} :
      operator.isOrdering = true →
      right.trim.equalsIgnoringAsciiCase "TRUE".toList = false →
      right.trim.equalsIgnoringAsciiCase "FALSE".toList = false →
      Refused locale operator (.boolean truth) right
        ⟨operator, (Cell.boolean truth).kindName, right⟩

/-- A value that is a number is refused by the minus sign in front of a date only. -/
theorem refused_iff_of_numeric {locale : Locale} {operator : Operator} {left : Cell}
    {right : Text} {e : InvalidComparison} {number : Binary64}
    (hleft : left.numeric? locale = some number) :
    Refused locale operator left right e ↔
      ∃ date, locale.readDate? right = some date ∧ operator = .minus ∧
        e = ⟨.minus, "number".toList, date.serial.plainText⟩ := by
  constructor
  · intro h
    cases h with
    | minus hnone => rw [hleft] at hnone; cases hnone
    | minusDate _ hdate => exact ⟨_, hdate, rfl, rfl⟩
    | duration _ => cases hleft
    | boolean _ _ _ => cases hleft
  · rintro ⟨date, hdate, rfl, rfl⟩
    exact .minusDate hleft hdate

/-! ### Numbers -/

/-- Numbers are compared by every operator but the minus sign. -/
theorem Operator.compareNumbers_eq_error_iff {operator : Operator} {left right : Binary64}
    {e : InvalidComparison} :
    operator.compareNumbers left right = .error e ↔
      operator = .minus ∧ e = ⟨.minus, "number".toList, right.plainText⟩ := by
  cases operator with
  | minus => simp [compareNumbers, eq_comm]
  | _ => simp [compareNumbers]

/-! ### Other values -/

theorem truthValue?_eq_none_iff {text : Text} :
    truthValue? text = none ↔
      text.trim.equalsIgnoringAsciiCase "TRUE".toList = false ∧
        text.trim.equalsIgnoringAsciiCase "FALSE".toList = false := by
  rw [truthValue?]
  generalize text.trim.equalsIgnoringAsciiCase "TRUE".toList = isTrue
  generalize text.trim.equalsIgnoringAsciiCase "FALSE".toList = isFalse
  cases isTrue <;> cases isFalse <;> simp

namespace Criterion

/-- An order is refused by the minus sign only, and what has no order also by the
operators that ask for one. -/
theorem satisfies?_eq_none_iff {operator : Operator} {comparison : LiteralComparison} :
    comparison.satisfies? operator = none ↔
      operator = .minus ∨
        operator.isOrdering = true ∧ ∃ equal, comparison = .unordered equal := by
  cases comparison with
  | ordered order => cases operator <;> simp [LiteralComparison.satisfies?, Operator.accepts,
      Operator.isOrdering]
  | unordered equal => cases operator <;> simp [LiteralComparison.satisfies?, Operator.isOrdering]

/-- Values that are no numbers are refused as texts, durations and truth values are. -/
theorem compareGeneric_eq_error_iff {locale : Locale} {operator : Operator} {left : Cell}
    {right : Text} {e : InvalidComparison} (hfilled : left.isEmpty = false)
    (hnumeric : left.numeric? locale = none) :
    compareGeneric operator left right = .error e ↔ Refused locale operator left right e := by
  have herror : compareGeneric operator left right = .error e ↔
      (compareLiteral left right).satisfies? operator = none ∧
        e = ⟨operator, left.kindName, right⟩ := by
    unfold compareGeneric
    split
    · rename_i holds heq
      simp [heq]
    · rename_i heq
      simp [heq, eq_comm]
  rw [herror, satisfies?_eq_none_iff]
  constructor
  · rintro ⟨rfl | ⟨hordering, equal, hunordered⟩, rfl⟩
    · exact .minus hnumeric
    · cases left with
      | duration d => exact .duration hordering
      | boolean truth =>
        have hnone : truthValue? right = none := by
          cases htruth : truthValue? right with
          | none => rfl
          | some other =>
            rw [compareLiteral, htruth] at hunordered
            cases hunordered
        obtain ⟨htrue, hfalse⟩ := truthValue?_eq_none_iff.mp hnone
        exact .boolean hordering htrue hfalse
      | text text => cases hunordered
      | empty => cases hfilled
      | number _ => cases hnumeric
      | integer _ => cases hnumeric
      | dateTime _ => cases hnumeric
  · intro h
    cases h with
    | minus _ => exact ⟨Or.inl rfl, rfl⟩
    | minusDate hsome _ => rw [hnumeric] at hsome; cases hsome
    | duration hordering => exact ⟨Or.inr ⟨hordering, _, rfl⟩, rfl⟩
    | boolean hordering htrue hfalse =>
      refine ⟨Or.inr ⟨hordering, false, ?_⟩, rfl⟩
      rw [compareLiteral, truthValue?_eq_none_iff.mpr ⟨htrue, hfalse⟩]

/-- Without a number every operator is kept, the minus sign too. -/
theorem signed_none (operator : Operator) : signed operator none = (operator, none) := by
  cases operator <;> rfl

/-! ### Operands that are not empty -/

/-- A literal that is a number can be compared with every value: the minus sign is its
sign. -/
theorem compareFilled_ne_error_of_number {locale : Locale} {operator : Operator} {left : Cell}
    {right : Text} {number : Binary64} (hright : locale.readNumber? right = some number)
    (e : InvalidComparison) : compareFilled locale operator left right ≠ .error e := by
  have hsigned : ∃ other value, other ≠ .minus ∧
      signed operator (some number) = (other, some value) := by
    cases operator with
    | minus => exact ⟨.equal, number.neg, by decide, rfl⟩
    | _ => exact ⟨_, number, by decide, rfl⟩
  obtain ⟨other, value, hother, hsigned⟩ := hsigned
  rw [compareFilled, hright, hsigned]
  cases left.numeric? locale with
  | none =>
    intro h
    cases h
  | some leftNumber =>
    intro h
    exact hother (Operator.compareNumbers_eq_error_iff.mp h).1

/-- Of operands that are not empty, those are in error whose literal is no number and
that the operator refuses. -/
theorem compareFilled_eq_error_iff {locale : Locale} {operator : Operator} {left : Cell}
    {right : Text} {e : InvalidComparison} (hfilled : left.isEmpty = false) :
    compareFilled locale operator left right = .error e ↔
      locale.readNumber? right = none ∧ Refused locale operator left right e := by
  cases hright : locale.readNumber? right with
  | some number =>
    simpa using compareFilled_ne_error_of_number hright e
  | none =>
    rw [compareFilled, hright, signed_none]
    cases hleft : left.numeric? locale with
    | none =>
      simpa using compareGeneric_eq_error_iff hfilled hleft
    | some number =>
      rw [refused_iff_of_numeric hleft]
      cases hdate : locale.readDate? right with
      | none => simp
      | some date => simp [Operator.compareNumbers_eq_error_iff]

/-- Comparisons with an empty operand are decided. -/
theorem compareWith_eq_error_iff {locale : Locale} {operator : Operator} {left : Cell}
    {right : Text} {e : InvalidComparison} :
    compareWith locale operator left right = .error e ↔
      left.isEmpty = false ∧ right ≠ [] ∧ locale.readNumber? right = none ∧
        Refused locale operator left right e := by
  rw [compareWith]
  cases hleft : left.isEmpty with
  | true => cases right <;> simp
  | false =>
    cases right with
    | nil => simp
    | cons first rest => simpa using compareFilled_eq_error_iff hleft

end Criterion

/-! ### Criteria -/

/-- A criterion cannot be decided for a value: it starts with an operator, there is
something to compare on both sides, the literal is no number, and the operator refuses
the value. -/
def CriterionRefused (locale : Locale) (value : Cell) (text : Text) (e : InvalidComparison) :
    Prop :=
  ∃ operator, Criterion.operator? text = some operator ∧ value.isEmpty = false ∧
    text.removeAll operator.token ≠ [] ∧
    locale.readNumber? (text.removeAll operator.token) = none ∧
    Refused locale operator value (text.removeAll operator.token) e

/-- **Which criteria are in error.** With any matcher, the error of a criterion for a
value is that of the comparison that cannot be decided, and where there is none the
criterion is decided. -/
theorem evaluate_eq_error_iff (matcher : Matcher) (locale : Locale) (value : Cell) (text : Text) :
    (∀ e, evaluate matcher locale value text = .error e ↔ CriterionRefused locale value text e) ∧
      ((∃ holds, evaluate matcher locale value text = .ok holds) ↔
        ¬∃ e, CriterionRefused locale value text e) := by
  have herror : ∀ e, evaluate matcher locale value text = .error e ↔
      CriterionRefused locale value text e := by
    intro e
    unfold CriterionRefused
    cases hoperator : Criterion.operator? text with
    | none =>
      rw [evaluate, Criterion.ofText, hoperator]
      split <;> simp [Criterion.holds]
    | some operator =>
      rw [evaluate, Criterion.ofText_eq_comparison hoperator, Criterion.holds,
        Criterion.compareWith_eq_error_iff]
      simp
  refine ⟨herror, ?_⟩
  simp only [← herror]
  cases evaluate matcher locale value text <;> simp

end Spreadsheet
