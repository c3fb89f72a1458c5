/-
# Matching values without an operator

A criterion that starts with no operator is a pattern. How a value compares with
it depends on the value: a text by wildcards, or by order when the pattern has
none; a number, a date or a truth value by the value that the pattern writes.
-/

import Spreadsheet.Cell.Basic
import Spreadsheet.Criteria.Glob
import Spreadsheet.Locale.DateText

namespace Spreadsheet

/-- A way to compare a value with a pattern; `none` when they cannot be
compared. -/
abbrev Matcher := Locale → (pattern : Text) → Cell → Option Ordering

/-- The truth value that a text writes, in any case and with blanks around it. -/
def truthValue? (text : Text) : Option Bool :=
  if text.trim.equalsIgnoringAsciiCase "TRUE".toList then some true
  else if text.trim.equalsIgnoringAsciiCase "FALSE".toList then some false
  else none

/-- The order of truth values, false before true. -/
def truthOrder (a b : Bool) : Ordering :=
  compare a.toNat b.toNat

/-- The order of texts without regard to case. -/
def foldedOrder (a b : Text) : Ordering :=
  Text.order a.foldCase b.foldCase

/-- Whether two texts are equal without regard to case. -/
def foldedEqual (a b : Text) : Bool :=
  a.foldCase == b.foldCase

namespace Matcher

/-- Compares a text with a pattern: less when wildcards do not match it. -/
def compareText (pattern text : Text) : Ordering :=
  if Glob.hasWildcards pattern then
    if Glob.matchesText pattern.foldCase text.foldCase then .eq else .lt
  else foldedOrder text (Glob.unescape pattern)

/-- Compares an instant with the number or the date that the pattern writes. -/
def compareInstant (locale : Locale) (pattern : Text) (value : Instant) : Option Ordering :=
  match locale.readNumber? pattern with
  | some number => Binary64.order? value.serial number
  | none => (locale.readDate? pattern).map value.order

/-- The matcher of criteria. -/
def wildcard : Matcher := fun locale pattern value =>
  match value with
  | .empty => if pattern.isEmpty then some .eq else none
  | .text text => some (compareText pattern text)
  | .number number => (locale.readNumber? pattern).bind (Binary64.order? number)
  | .integer n => (locale.readNumber? pattern).bind (Binary64.order? (.ofInt n.toInt))
  | .dateTime instant => compareInstant locale pattern instant
  | .boolean truth => (truthValue? pattern).map (truthOrder truth)
  | .duration _ => some (if foldedEqual value.naturalText pattern.trim then .eq else .lt)

/-- A number is compared with the number that the pattern writes. -/
theorem wildcard_number (locale : Locale) (pattern : Text) (x : Binary64) :
    wildcard locale pattern (.number x) =
      (locale.readNumber? pattern).bind (Binary64.order? x) := rfl

/-- The matcher that takes a pattern for the natural text of a value. -/
def exact : Matcher := fun _ pattern value =>
  if value.naturalText = pattern then some .eq else none

end Matcher

end Spreadsheet
