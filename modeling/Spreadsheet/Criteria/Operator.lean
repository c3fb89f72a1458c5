/-
# Operators of criteria

The six comparisons and the minus sign, which a criterion may start with, and the
error of an operator that cannot compare its operands.

* `ofToken?_token`, `token_ofToken?` — operators and their tokens correspond.
-/

import Spreadsheet.Numeric.Notation
import Spreadsheet.Text.Quoted

namespace Spreadsheet

/-- What a criterion may start with. The minus sign is no comparison: in front of
a number it is the number's sign. -/
inductive Operator where
  | equal
  | notEqual
  | greater
  | greaterOrEqual
  | less
  | lessOrEqual
  | minus
deriving DecidableEq

namespace Operator

/-- The operator as it is written. -/
def token : Operator → Text
  | equal => "=".toList
  | notEqual => "<>".toList
  | greater => ">".toList
  | greaterOrEqual => ">=".toList
  | less => "<".toList
  | lessOrEqual => "<=".toList
  | minus => "-".toList

/-- All operators. -/
def all : List Operator :=
  [equal, notEqual, greater, greaterOrEqual, less, lessOrEqual, minus]

/-- The operator that is written so, if there is one. -/
def ofToken? (token : Text) : Option Operator :=
  all.find? (fun operator => operator.token == token)

/-- Every operator is found by its token. -/
theorem ofToken?_token (operator : Operator) : ofToken? operator.token = some operator := by
  cases operator <;> decide

/-- An operator that is found has the token. -/
theorem token_ofToken? {token : Text} {operator : Operator} (h : ofToken? token = some operator) :
    operator.token = token := by
  have := List.find?_some h
  simpa using this

/-- Whether the operator asks for equality or its opposite. -/
def isEquality : Operator → Bool
  | equal | notEqual => true
  | _ => false

/-- Whether operands in the given order satisfy the operator; `none` for the minus
sign. -/
def accepts (order : Ordering) : Operator → Option Bool
  | equal => some (order == .eq)
  | notEqual => some (order != .eq)
  | greater => some (order == .gt)
  | greaterOrEqual => some (order != .lt)
  | less => some (order == .lt)
  | lessOrEqual => some (order != .gt)
  | minus => none

end Operator

/-! ### Errors -/

/-- An operator that cannot compare its operands: the name of the left value's
kind, and the text of the right one. -/
structure InvalidComparison where
  operator : Operator
  left : Text
  right : Text
deriving DecidableEq

/-- The error in words. -/
def InvalidComparison.message (e : InvalidComparison) : Text :=
  "illegal operator in expression: \x60".toList ++ e.operator.token ++
    "\x60 cannot compare ".toList ++ e.left ++ " with ".toList ++ e.right.quoted

/-- Compares two numbers. With `nan` only "not equal" holds. -/
def Operator.compareNumbers (operator : Operator) (left right : Binary64) :
    Except InvalidComparison Bool :=
  let order? := Binary64.order? left right
  match operator with
  | .equal => .ok (order? == some .eq)
  | .notEqual => .ok (order? != some .eq)
  | .greater => .ok (order? == some .gt)
  | .greaterOrEqual => .ok (order? == some .gt || order? == some .eq)
  | .less => .ok (order? == some .lt)
  | .lessOrEqual => .ok (order? == some .lt || order? == some .eq)
  | .minus => .error ⟨.minus, "number".toList, right.plainText⟩

/-- On numbers that have an order, comparing is asking the operator about it. -/
theorem Operator.compareNumbers_of_order {operator : Operator} {left right : Binary64}
    {order : Ordering} (h : Binary64.order? left right = some order) (hop : operator ≠ .minus) :
    operator.accepts order = (operator.compareNumbers left right).toOption := by
  cases operator <;> simp only [Operator.compareNumbers, h] <;>
    first
    | exact absurd rfl hop
    | (cases order <;> rfl)

end Spreadsheet
