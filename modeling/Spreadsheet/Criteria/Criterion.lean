/-
# Criteria

A criterion is the text by which values are counted or summed: an operator with a
literal, such as `>=10`, or a pattern, such as `app*`. It is first read into its
form, and then decided for a value.

* `ofText_eq_comparison` — a text that starts with an operator is a comparison, and
  its literal is the text without the operator's token.
-/

import Spreadsheet.Criteria.Matcher
import Spreadsheet.Criteria.Operator

namespace Spreadsheet

/-- A criterion in its form. The empty criterion asks for an empty cell. -/
inductive Criterion where
  | blank
  | comparison (operator : Operator) (literal : Text)
  | pattern (text : Text)
deriving DecidableEq

namespace Criterion

/-! ### Reading -/

/-- The leading characters that may be an operator: the first character, unless
it is a letter or a numeral, and the next one, unless it is one of these or a
blank. -/
def candidate? (text : Text) : Option Text :=
  match text.trim with
  | [] => none
  | first :: rest =>
    if isLetterOrNumeral first then none
    else
      match rest with
      | [] => some [first]
      | second :: _ =>
        if isLetterOrNumeral second || isBlank second then some [first] else some [first, second]

/-- The operator of a candidate. A sign after an operator of one character belongs
to the literal. -/
def operatorOf? (candidate : Text) : Option Operator :=
  match Operator.ofToken? candidate with
  | some operator => some operator
  | none =>
    match candidate with
    | [first, second] =>
      if second = '-' ∨ second = '+' then Operator.ofToken? [first] else none
    | _ => none

/-- The operator that the text starts with. -/
def operator? (text : Text) : Option Operator :=
  (candidate? text).bind operatorOf?

/-- The form of a criterion. The literal of a comparison is the whole text without
any occurrence of the operator's token. -/
def ofText (text : Text) : Criterion :=
  if text = [] then .blank
  else
    match operator? text with
    | some operator => .comparison operator (text.removeAll operator.token)
    | none => .pattern text

theorem ofText_eq_comparison {text : Text} {operator : Operator}
    (h : operator? text = some operator) :
    ofText text = .comparison operator (text.removeAll operator.token) := by
  have hne : text ≠ [] := by
    rintro rfl
    exact Option.some_ne_none _ h.symm
  rw [ofText, if_neg hne, h]

/-! ### Deciding -/

/-- How a value that is no number compares with a literal: by an order, or only by
being equal or not. -/
inductive LiteralComparison where
  | ordered (order : Ordering)
  | unordered (equal : Bool)
deriving DecidableEq

/-- Compares a value with a literal: texts by their order without regard to case,
truth values with a truth value, and every other value by its natural text. -/
def compareLiteral (left : Cell) (right : Text) : LiteralComparison :=
  match left with
  | .text text => .ordered (foldedOrder text right)
  | .boolean truth =>
    match truthValue? right with
    | some other => .ordered (truthOrder truth other)
    | none => .unordered false
  | other => .unordered (foldedEqual other.naturalText right)

/-- Whether the comparison satisfies the operator, if the operator can tell. -/
def LiteralComparison.satisfies? (operator : Operator) : LiteralComparison → Option Bool
  | .ordered order => operator.accepts order
  | .unordered equal =>
    match operator with
    | .equal => some equal
    | .notEqual => some !equal
    | _ => none

/-- Decides an operator between a value that is no number and a literal. -/
def compareGeneric (operator : Operator) (left : Cell) (right : Text) :
    Except InvalidComparison Bool :=
  match (compareLiteral left right).satisfies? operator with
  | some holds => .ok holds
  | none => .error ⟨operator, left.kindName, right⟩

/-- The operator and the number of a literal that is a number: a minus sign asks
for the number with the other sign. -/
def signed (operator : Operator) (right : Option Binary64) : Operator × Option Binary64 :=
  match operator, right with
  | .minus, some number => (.equal, some number.neg)
  | _, _ => (operator, right)

/-- Decides a comparison of a value that is not empty with a literal that is not
empty. -/
def compareFilled (locale : Locale) (operator : Operator) (left : Cell) (right : Text) :
    Except InvalidComparison Bool :=
  let (operator, rightNumber?) := signed operator (locale.readNumber? right)
  match left.numeric? locale, rightNumber?, locale.readDate? right with
  | some leftNumber, some rightNumber, _ => operator.compareNumbers leftNumber rightNumber
  | some leftNumber, none, some date => operator.compareNumbers leftNumber date.serial
  | some _, none, none => .ok (operator == .notEqual)
  | none, some _, _ => .ok (operator == .notEqual)
  | none, none, _ => compareGeneric operator left right

/-- Decides a comparison. An empty cell equals an empty literal and differs from
every other. -/
def compareWith (locale : Locale) (operator : Operator) (left : Cell) (right : Text) :
    Except InvalidComparison Bool :=
  match left.isEmpty, right.isEmpty with
  | true, true => .ok (operator == .equal)
  | true, false | false, true => .ok (operator == .notEqual)
  | false, false => compareFilled locale operator left right

/-- Whether a value satisfies a criterion. -/
def holds (matcher : Matcher) (locale : Locale) (value : Cell) :
    Criterion → Except InvalidComparison Bool
  | .blank => .ok value.isEmpty
  | .comparison operator literal => compareWith locale operator value literal
  | .pattern text => .ok (matcher locale text value == some .eq)

/-- Whether a value satisfies one of the criteria, from the left up to the first
that holds or fails. -/
def holdsAny (matcher : Matcher) (locale : Locale) (value : Cell) :
    List Criterion → Except InvalidComparison Bool
  | [] => .ok false
  | criterion :: rest =>
    match criterion.holds matcher locale value with
    | .ok false => holdsAny matcher locale value rest
    | decided => decided

end Criterion

/-- Whether a value satisfies the criterion that a text writes. -/
def evaluate (matcher : Matcher) (locale : Locale) (value : Cell) (text : Text) :
    Except InvalidComparison Bool :=
  (Criterion.ofText text).holds matcher locale value

/-- Whether a value satisfies one of the criteria that the texts write. -/
def evaluateAny (matcher : Matcher) (locale : Locale) (value : Cell) (texts : List Text) :
    Except InvalidComparison Bool :=
  Criterion.holdsAny matcher locale value (texts.map Criterion.ofText)

end Spreadsheet
