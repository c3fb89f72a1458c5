/-
# Style tables

The cell formats of a workbook, by their place, and its number formats, by their
identifier. A cell format names a number format; a style or an identifier that is
not known means the first number format, which belongs to identifier 0.

* `cellFormat?_addCellFormat` — adding a cell format leaves the earlier ones.
* `formattedText_display` — the text of a cell under a style is the cell under the
  style's format.
-/

import Std.Data.HashMap
import Spreadsheet.Format.Render

namespace Spreadsheet

/-- A number format with its identifier. -/
structure NumberFormatEntry where
  id : Nat
  format : ResolvedFormat

/-- The formats of a workbook. The entries are in the order in which their
identifiers first came, and the index gives their places. -/
structure StyleTable where
  cellFormats : List Nat
  entries : List NumberFormatEntry
  index : Std.HashMap Nat Nat

namespace StyleTable

/-- The identifier of the general format. -/
def generalId : Nat := 0

/-- A table with the general format, and one cell format that uses it. -/
def initial : StyleTable where
  cellFormats := [generalId]
  entries := [⟨generalId, .general⟩]
  index := (∅ : Std.HashMap Nat Nat).insert generalId 0

/-- The table with one more cell format, and the style that denotes it. -/
def addCellFormat (table : StyleTable) (formatId : Nat) : StyleTable × Nat :=
  ({ table with cellFormats := table.cellFormats ++ [formatId] }, table.cellFormats.length)

/-- The table with a number format under an identifier, in the place of the one it
had before. -/
def addNumberFormat (table : StyleTable) (id : Nat) (format : ResolvedFormat) : StyleTable :=
  match table.index[id]? with
  | some place =>
    { table with
      entries := table.entries.modify place (fun entry => { entry with format := format }) }
  | none =>
    { table with
      entries := table.entries ++ [⟨id, format⟩]
      index := table.index.insert id table.entries.length }

/-- The identifier of the number format of a style. -/
def cellFormat? (table : StyleTable) (style : Nat) : Option Nat :=
  table.cellFormats[style]?

/-- The number format under an identifier. -/
def numberFormat? (table : StyleTable) (id : Nat) : Option ResolvedFormat := do
  let place ← table.index[id]?
  let entry ← table.entries[place]?
  return entry.format

/-- The first number format. -/
def general (table : StyleTable) : ResolvedFormat :=
  match table.entries with
  | [] => .general
  | entry :: _ => entry.format

/-- The format that a style means. -/
def resolve (table : StyleTable) (style : Nat) : ResolvedFormat :=
  ((table.cellFormat? style).bind table.numberFormat?).getD table.general

/-- The text of a cell under a style, to show it or to measure it. -/
def formattedText (table : StyleTable) (style : Nat) (forWidth : Bool) (override : Option Locale)
    (value : Cell) : Text :=
  if value.isEmpty then []
  else
    let format := table.resolve style
    renderWith format (format.templates forWidth) override value

/-- Adding a cell format leaves the earlier styles, and its style denotes it. -/
theorem cellFormat?_addCellFormat (table : StyleTable) (formatId style : Nat) :
    (table.addCellFormat formatId).1.cellFormat? style =
      if style = (table.addCellFormat formatId).2 then some formatId
      else table.cellFormat? style := by
  by_cases h : style = (table.addCellFormat formatId).2
  · rw [if_pos h, h]
    exact List.getElem?_concat_length
  · rw [if_neg h]
    have hne : style ≠ table.cellFormats.length := h
    show (table.cellFormats ++ [formatId])[style]? = table.cellFormats[style]?
    by_cases hlt : style < table.cellFormats.length
    · exact List.getElem?_append_left hlt
    · rw [List.getElem?_eq_none (by rw [List.length_append, List.length_singleton]; omega),
        List.getElem?_eq_none (by omega)]

/-- The text of a cell under a style is the cell under the style's format. -/
theorem formattedText_display (table : StyleTable) (style : Nat) (override : Option Locale)
    (value : Cell) :
    table.formattedText style false override value =
      render (table.resolve style) override value := by
  rw [formattedText, render]
  by_cases h : value.isEmpty = true
  · have hvalue : value = .empty := by
      cases value <;> first | rfl | exact absurd h Bool.false_ne_true
    rw [if_pos h, hvalue, renderWith]
  · rw [if_neg h]

end StyleTable

end Spreadsheet
