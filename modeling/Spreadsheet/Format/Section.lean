/-
# Sections of a pattern

A number pattern has sections separated by semicolons. A semicolon inside quotes
or after a backslash is text and separates nothing.

* `sections_ne_nil` — a pattern has at least one section.
* `join_sections` — the sections with semicolons between them are the pattern.
-/

import Spreadsheet.Text.Basic

namespace Spreadsheet

/-- Where a reader of a pattern stands: in plain text, after a backslash, or inside
quotes of one kind. -/
inductive ScanState where
  | plain
  | escaped
  | quoted (quote : Char)
deriving DecidableEq

namespace ScanState

/-- The state after one more character. -/
def next : ScanState → Char → ScanState
  | plain, c => if c = '\\' then escaped else if c = '"' ∨ c = '\'' then quoted c else plain
  | escaped, _ => plain
  | quoted quote, c => if c = quote then plain else quoted quote

end ScanState

/-- Puts a character in front of the first part. -/
def consFirst (c : Char) : List Text → List Text
  | [] => [[c]]
  | part :: parts => (c :: part) :: parts

/-- The sections of the rest of a pattern, from a state of the reader. -/
def sectionsFrom : ScanState → Text → List Text
  | _, [] => [[]]
  | state, c :: rest =>
    if state = .plain ∧ c = ';' then [] :: sectionsFrom .plain rest
    else consFirst c (sectionsFrom (state.next c) rest)

/-- The sections of a pattern. -/
def sections (pattern : Text) : List Text :=
  sectionsFrom .plain pattern

theorem consFirst_ne_nil (c : Char) (parts : List Text) : consFirst c parts ≠ [] := by
  cases parts <;> exact List.cons_ne_nil _ _

theorem sectionsFrom_ne_nil (state : ScanState) (text : Text) : sectionsFrom state text ≠ [] := by
  cases text with
  | nil => exact List.cons_ne_nil _ _
  | cons c rest =>
    rw [sectionsFrom]
    split
    · exact List.cons_ne_nil _ _
    · exact consFirst_ne_nil _ _

/-- A pattern has at least one section. -/
theorem sections_ne_nil (pattern : Text) : sections pattern ≠ [] :=
  sectionsFrom_ne_nil .plain pattern

theorem intercalate_consFirst (separator : Text) (c : Char) {parts : List Text} (h : parts ≠ []) :
    separator.intercalate (consFirst c parts) = c :: separator.intercalate parts := by
  obtain ⟨part, rest, rfl⟩ := List.exists_cons_of_ne_nil h
  cases rest <;> simp [consFirst, List.intercalate, List.intersperse]

theorem join_sectionsFrom (state : ScanState) (text : Text) :
    [';'].intercalate (sectionsFrom state text) = text := by
  induction text generalizing state with
  | nil => rfl
  | cons c rest ih =>
    rw [sectionsFrom]
    split
    · rename_i h
      obtain ⟨part, parts, hparts⟩ :=
        List.exists_cons_of_ne_nil (sectionsFrom_ne_nil .plain rest)
      have ihPlain := ih .plain
      rw [hparts] at ihPlain ⊢
      rw [h.2, ← ihPlain]
      simp [List.intercalate, List.intersperse]
    · rw [intercalate_consFirst _ _ (sectionsFrom_ne_nil _ _), ih]

/-- The sections with semicolons between them are the pattern. -/
theorem join_sections (pattern : Text) : [';'].intercalate (sections pattern) = pattern :=
  join_sectionsFrom .plain pattern

end Spreadsheet
