/-
# Month names

A month is recognised by its full or abbreviated name in the locale, then in
English, without regard to case or a final dot, and at last by the first three
or more letters of its English name.

* `monthNamed?_full` — each full name of a locale names a month whose full name
  folds to the same text.
-/

import Spreadsheet.Locale.Registry
import Spreadsheet.Text.CaseFold

namespace Spreadsheet

namespace Locale

/-- A month name in the form that look-up compares: lower case, no final dots. -/
def monthKey (name : Text) : Text :=
  (name.dropTrailing (· == '.')).foldCase

/-- The first month of the list whose name has the given key. -/
def monthWithKey? (names : Vector Text 12) (key : Text) : Option (Fin 12) :=
  (List.finRange 12).find? (fun month => monthKey names[month] == key)

/-- The month with the given name; January is 0. -/
def monthNamed? (locale : Locale) (name : Text) : Option (Fin 12) :=
  let key := monthKey name
  (monthWithKey? locale.monthNames key).orElse fun _ =>
  (monthWithKey? locale.abbreviatedMonthNames key).orElse fun _ =>
  (monthWithKey? englishMonths key).orElse fun _ =>
  (monthWithKey? englishMonthsShort key).orElse fun _ =>
  if 3 ≤ key.length then
    (List.finRange 12).find? (fun month => (englishMonths[month]).foldCase.startsWith key)
  else none

theorem monthWithKey?_some {names : Vector Text 12} {key : Text} {month : Fin 12}
    (h : monthWithKey? names key = some month) : monthKey names[month] = key := by
  have := List.find?_some h
  simpa using this

/-- A full name of the locale names a month with that key. -/
theorem monthNamed?_full (locale : Locale) (month : Fin 12) :
    ∃ found, locale.monthNamed? locale.monthNames[month] = some found ∧
      monthKey locale.monthNames[found] = monthKey locale.monthNames[month] := by
  cases hfound : monthWithKey? locale.monthNames (monthKey locale.monthNames[month]) with
  | some found =>
    refine ⟨found, ?_, monthWithKey?_some hfound⟩
    rw [monthNamed?]
    simp only [hfound, Option.orElse_some]
  | none =>
    have := List.find?_eq_none.1 hfound month (List.mem_finRange month)
    simp at this

end Locale

end Spreadsheet
