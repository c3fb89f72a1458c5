/-
# Comparisons of one pair belong together

The six comparisons of a value with a literal are decided one by one, among numbers, with the
serial number of a date, by the order of texts or of truth values, or only as equal or not.
However a pair is compared, they do not contradict each other: they all answer for one order
of the pair, or for the lack of one.

* `Operator.Coherent` — outcomes that belong together.
* `Criterion.coherent_compareFilled` — those of one pair do.
* `coherent_evaluate` — so do those of the criteria that are written with one literal.
-/

import Spreadsheet.Proofs.CriterionErrors
import Spreadsheet.Proofs.NumberCriteria

namespace Spreadsheet

namespace Operator

/-! ### Outcomes that belong together -/

/-- The outcomes of the comparisons of one pair belong together: "equal" and "not equal" are
decided and opposite; the four orders are all decided or all in error; and where they are
decided, "or equal" says what it says, and only one of "less", "equal" and "greater" holds. -/
structure Coherent (outcome : Operator → Except InvalidComparison Bool) : Prop where
  opposite : ∃ equal, outcome .equal = .ok equal ∧ outcome .notEqual = .ok !equal
  alike : (∀ operator, operator.isOrdering = true → ∃ holds, outcome operator = .ok holds) ∨
    ∀ operator, operator.isOrdering = true → ∃ e, outcome operator = .error e
  greaterOrEqual : ∀ {greater equal : Bool}, outcome .greater = .ok greater →
    outcome .equal = .ok equal → outcome .greaterOrEqual = .ok (greater || equal)
  lessOrEqual : ∀ {less equal : Bool}, outcome .less = .ok less →
    outcome .equal = .ok equal → outcome .lessOrEqual = .ok (less || equal)
  exclusive : ∀ {less equal greater : Bool}, outcome .less = .ok less →
    outcome .equal = .ok equal → outcome .greater = .ok greater →
      (less && equal) = false ∧ (equal && greater) = false ∧ (less && greater) = false

/-- What a comparison says of a pair in the given order. Of a pair that has none only "not
equal" holds. -/
def holdsIn (order? : Option Ordering) (operator : Operator) : Bool :=
  match order? with
  | some order => operator.accepts order == some true
  | none => operator == .notEqual

/-! ### One order for all comparisons -/

section HoldsIn

variable (order? : Option Ordering)

theorem holdsIn_equal : holdsIn order? .equal = (order? == some .eq) := by
  rcases order? with _ | _ | _ | _ <;> rfl

theorem holdsIn_notEqual : holdsIn order? .notEqual = !holdsIn order? .equal := by
  rcases order? with _ | _ | _ | _ <;> rfl

theorem holdsIn_greaterOrEqual :
    holdsIn order? .greaterOrEqual = (holdsIn order? .greater || holdsIn order? .equal) := by
  rcases order? with _ | _ | _ | _ <;> rfl

theorem holdsIn_lessOrEqual :
    holdsIn order? .lessOrEqual = (holdsIn order? .less || holdsIn order? .equal) := by
  rcases order? with _ | _ | _ | _ <;> rfl

/-- Of "less", "equal" and "greater" only one holds. -/
theorem holdsIn_exclusive :
    (holdsIn order? .less && holdsIn order? .equal) = false ∧
      (holdsIn order? .equal && holdsIn order? .greater) = false ∧
        (holdsIn order? .less && holdsIn order? .greater) = false := by
  rcases order? with _ | _ | _ | _ <;> decide

end HoldsIn

/-- The operators that ask for an order are comparisons. -/
theorem ne_minus_of_isOrdering {operator : Operator} (h : operator.isOrdering = true) :
    operator ≠ .minus := by
  rintro rfl
  cases h

section Outcomes

variable {outcome : Operator → Except InvalidComparison Bool}

/-- The minus sign has no part in whether outcomes belong together. -/
theorem Coherent.congr {other : Operator → Except InvalidComparison Bool}
    (hcoherent : Coherent outcome)
    (h : ∀ operator, operator ≠ .minus → other operator = outcome operator) : Coherent other := by
  have hequal := h .equal (by decide)
  have hgreater := h .greater (by decide)
  have hless := h .less (by decide)
  have hordering : ∀ operator, operator.isOrdering = true → other operator = outcome operator :=
    fun operator hordering => h operator (ne_minus_of_isOrdering hordering)
  constructor
  · rw [hequal, h .notEqual (by decide)]
    exact hcoherent.opposite
  · refine hcoherent.alike.imp (fun hok operator hasked => ?_) fun herror operator hasked => ?_
    · rw [hordering operator hasked]
      exact hok operator hasked
    · rw [hordering operator hasked]
      exact herror operator hasked
  · rw [hgreater, hequal, h .greaterOrEqual (by decide)]
    exact hcoherent.greaterOrEqual
  · rw [hless, hequal, h .lessOrEqual (by decide)]
    exact hcoherent.lessOrEqual
  · rw [hless, hequal, hgreater]
    exact hcoherent.exclusive

/-- Comparisons that answer for one order of the pair belong together. -/
theorem coherent_of_order (order? : Option Ordering)
    (h : ∀ operator, operator ≠ .minus → outcome operator = .ok (holdsIn order? operator)) :
    Coherent outcome := by
  have hequal := h .equal (by decide)
  have hgreater := h .greater (by decide)
  have hless := h .less (by decide)
  refine ⟨⟨_, hequal, ?_⟩, Or.inl ?_, ?_, ?_, ?_⟩
  · rw [h .notEqual (by decide), holdsIn_notEqual]
  · exact fun operator hordering => ⟨_, h operator (ne_minus_of_isOrdering hordering)⟩
  · intro greater equal hg he
    cases hgreater.symm.trans hg
    cases hequal.symm.trans he
    rw [h .greaterOrEqual (by decide), holdsIn_greaterOrEqual]
  · intro less equal hl he
    cases hless.symm.trans hl
    cases hequal.symm.trans he
    rw [h .lessOrEqual (by decide), holdsIn_lessOrEqual]
  · intro less equal greater hl he hg
    cases hless.symm.trans hl
    cases hequal.symm.trans he
    cases hgreater.symm.trans hg
    exact holdsIn_exclusive order?

/-- Comparisons that only tell whether the pair is equal belong together. -/
theorem coherent_of_unordered {equal : Bool} (hequal : outcome .equal = .ok equal)
    (hnotEqual : outcome .notEqual = .ok !equal)
    (herror : ∀ operator, operator.isOrdering = true → ∃ e, outcome operator = .error e) :
    Coherent outcome := by
  -- what is said of decided orders is said of none
  have hnever : ∀ {operator holds}, operator.isOrdering = true → outcome operator ≠ .ok holds := by
    intro operator holds hordering hok
    obtain ⟨e, he⟩ := herror operator hordering
    cases he.symm.trans hok
  exact ⟨⟨equal, hequal, hnotEqual⟩, Or.inr herror, fun hg => absurd hg (hnever rfl),
    fun hl => absurd hl (hnever rfl), fun hl => absurd hl (hnever rfl)⟩

end Outcomes

/-- An order is asked for by every comparison. -/
theorem accepts_eq_holdsIn {operator : Operator} (hop : operator ≠ .minus) (order : Ordering) :
    operator.accepts order = some (holdsIn (some order) operator) := by
  cases operator with
  | minus => exact absurd rfl hop
  | _ => cases order <;> rfl

/-- Numbers are compared for their order; with `nan` there is none. -/
theorem compareNumbers_eq_holdsIn {operator : Operator} (hop : operator ≠ .minus)
    (x y : Binary64) :
    operator.compareNumbers x y = .ok (holdsIn (Binary64.order? x y) operator) := by
  unfold compareNumbers
  generalize Binary64.order? x y = order?
  cases operator with
  | minus => exact absurd rfl hop
  | _ => rcases order? with _ | _ | _ | _ <;> rfl

end Operator

/-! ### Comparisons with a literal -/

namespace Criterion

/-- Without a number on either side the values themselves are compared. -/
theorem compareFilled_of_no_number {locale : Locale} {left : Cell} {right : Text}
    (hleft : left.numeric? locale = none) (hright : locale.readNumber? right = none)
    (operator : Operator) :
    compareFilled locale operator left right = compareGeneric operator left right := by
  rw [compareFilled, hright, signed_none, hleft]

/-- Values that are no numbers are compared for one order, or only as equal or not. -/
theorem coherent_compareGeneric (left : Cell) (right : Text) :
    Operator.Coherent fun operator => compareGeneric operator left right := by
  cases hliteral : compareLiteral left right with
  | ordered order =>
    refine Operator.coherent_of_order (some order) fun operator hop => ?_
    rw [compareGeneric, hliteral, LiteralComparison.satisfies?,
      Operator.accepts_eq_holdsIn hop order]
  | unordered equal =>
    have hequal : compareGeneric .equal left right = .ok equal := by
      rw [compareGeneric, hliteral, LiteralComparison.satisfies?]
    have hnotEqual : compareGeneric .notEqual left right = .ok !equal := by
      rw [compareGeneric, hliteral, LiteralComparison.satisfies?]
    refine Operator.coherent_of_unordered hequal hnotEqual fun operator hordering => ?_
    have hnone : (LiteralComparison.unordered equal).satisfies? operator = none :=
      satisfies?_eq_none_iff.mpr (Or.inr ⟨hordering, equal, rfl⟩)
    refine ⟨⟨operator, left.kindName, right⟩, ?_⟩
    rw [compareGeneric, hliteral, hnone]

/-- The order of a value and a literal by their numbers: a literal that is a date and no number
counts by its serial number. There is none when one of them is no number. -/
def numericOrder? (locale : Locale) (left : Cell) (right : Text) : Option Ordering :=
  match left.numeric? locale, locale.readNumber? right, locale.readDate? right with
  | some x, some y, _ => Binary64.order? x y
  | some x, none, some date => Binary64.order? x date.serial
  | _, _, _ => none

/-- With a number on one side at least, a pair is compared by the order of the numbers. -/
theorem compareFilled_eq_holdsIn {locale : Locale} {operator : Operator} (hop : operator ≠ .minus)
    {left : Cell} {right : Text}
    (hnumber : left.numeric? locale ≠ none ∨ locale.readNumber? right ≠ none) :
    compareFilled locale operator left right =
      .ok (operator.holdsIn (numericOrder? locale left right)) := by
  rw [compareFilled, signed_of_ne_minus hop, numericOrder?]
  cases hleft : left.numeric? locale with
  | none =>
    cases hright : locale.readNumber? right with
    | none => simp [hleft, hright] at hnumber
    | some y => rfl
  | some x =>
    cases locale.readNumber? right with
    | some y => exact Operator.compareNumbers_eq_holdsIn hop x y
    | none =>
      cases locale.readDate? right with
      | some date => exact Operator.compareNumbers_eq_holdsIn hop x date.serial
      | none => rfl

/-- **The comparisons of one pair belong together**, whichever way the pair is compared. -/
theorem coherent_compareFilled (locale : Locale) (left : Cell) (right : Text) :
    Operator.Coherent fun operator => compareFilled locale operator left right := by
  by_cases hnumber : left.numeric? locale ≠ none ∨ locale.readNumber? right ≠ none
  · exact Operator.coherent_of_order _ fun _ hop => compareFilled_eq_holdsIn hop hnumber
  · obtain ⟨hleft, hright⟩ : left.numeric? locale = none ∧ locale.readNumber? right = none := by
      simpa [not_or] using hnumber
    simp only [compareFilled_of_no_number hleft hright]
    exact coherent_compareGeneric left right

end Criterion

/-- **The comparisons of a criterion do not contradict each other.** Written in front of one
literal that holds none of their marks and starts as a literal does, and decided for one value
that is not empty, the six comparisons have outcomes that belong together, in every locale and
with any matcher. -/
theorem coherent_evaluate (matcher : Matcher) (locale : Locale) {value : Cell}
    (hvalue : value ≠ .empty) {literal : Text} (hstart : literal.head?.any startsLiteral = true)
    (hmarks : literal.any isComparisonMark = false) :
    Operator.Coherent fun operator =>
      evaluate matcher locale value (operator.token ++ literal) := by
  have hfilled : value.isEmpty = false := by
    cases value with
    | empty => exact absurd rfl hvalue
    | _ => rfl
  obtain ⟨first, rest, rfl, hfirst⟩ := Text.exists_cons_of_head? hstart
  have hall : ∀ c ∈ first :: rest, isComparisonMark c = false := by
    simpa [List.any_eq_false] using hmarks
  have hcompared : ∀ operator, operator ≠ .minus →
      evaluate matcher locale value (operator.token ++ first :: rest) =
        Criterion.compareFilled locale operator value (first :: rest) := by
    intro operator hop
    rw [evaluate_token_append matcher locale value hop (by simpa using hfirst) hall,
      Criterion.compareWith, hfilled]
    rfl
  exact (Criterion.coherent_compareFilled locale value (first :: rest)).congr hcompared

/-- With a literal that is a date to American readers and no number, the comparisons of a text
belong together, and so do those of a truth value, where the orders are in error. -/
theorem coherent_evaluate_date :
    Cell.text "May".toList ≠ .empty ∧ Cell.boolean true ≠ .empty ∧
      ("1/15/2024".toList).head?.any startsLiteral = true ∧
      ("1/15/2024".toList).any isComparisonMark = false ∧
      (Operator.Coherent fun operator => evaluate .exact .americanEnglish (.text "May".toList)
        (operator.token ++ "1/15/2024".toList)) ∧
      (Operator.Coherent fun operator => evaluate .wildcard .americanEnglish (.boolean true)
        (operator.token ++ "1/15/2024".toList)) ∧
      evaluate .wildcard .americanEnglish (.boolean true) "<>1/15/2024".toList = .ok true ∧
      (evaluate .wildcard .americanEnglish (.boolean true) "<1/15/2024".toList).isOk = false := by
  have htext : Cell.text "May".toList ≠ .empty := Cell.noConfusion
  have htruth : Cell.boolean true ≠ .empty := Cell.noConfusion
  have hstart : ("1/15/2024".toList).head?.any startsLiteral = true := by decide +kernel
  have hmarks : ("1/15/2024".toList).any isComparisonMark = false := by decide
  exact ⟨htext, htruth, hstart, hmarks,
    coherent_evaluate .exact .americanEnglish htext hstart hmarks,
    coherent_evaluate .wildcard .americanEnglish htruth hstart hmarks,
    by decide +kernel, by decide +kernel⟩

end Spreadsheet
