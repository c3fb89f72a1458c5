/-
# Patterns without literals

A pattern that is written with places, points, commas and exponents only is one section. Its
places, points and commas are read one by one, and a finite number under it is its magnitude
with the sign of the locale in front.

* `lexemes_append` — a run of places, points and commas is read character by character.
* `formatNumber_of_sections` — a finite number under a pattern of one section.
-/

import Mathlib.Data.Bool.AllAny
import Spreadsheet.Format.Number
import Spreadsheet.Proofs.SectionLexemes
import Spreadsheet.Proofs.WrittenNumber

namespace Spreadsheet

/-! ### The items of a pattern -/

/-- A run of places, points and commas is read character by character. -/
theorem lexemes_append {front : Text} (h : ∀ c ∈ front, c ∈ ['0', '#', '.', ',']) (back : Text) :
    lexemes (front ++ back) = front.map Lexeme.bare ++ lexemes back := by
  have hbare : ∀ c ∈ ['0', '#', '.', ','], c ≠ '\\' ∧ ¬(c = '"' ∨ c = '\'') ∧
      ¬(c = 'E' ∨ c = 'e') := List.all_iff_forall_prop.mp (by decide)
  induction front with
  | nil => rfl
  | cons c rest ih =>
    rw [List.forall_mem_cons] at h
    obtain ⟨hescape, hquote, hmarker⟩ := hbare c h.1
    have hbefore : (Lexeme.bare c).Before (rest ++ back) :=
      .bare hescape hquote fun hexponent => absurd hexponent hmarker
    rw [List.map_cons, List.cons_append, List.cons_append, ← ih h.2]
    exact Lexeme.lexemes_source_append hbefore

theorem mem_of_mem_firstPointOnly {items : List Item} {item : Item}
    (h : item ∈ firstPointOnly items) : item ∈ items := by
  induction items with
  | nil => exact h
  | cons first rest ih =>
    rw [firstPointOnly] at h
    split at h
    · rcases List.mem_cons.mp h with rfl | hmem
      · exact List.mem_cons_self
      · exact List.mem_cons_of_mem _ (List.mem_of_mem_filter hmem)
    · rcases List.mem_cons.mp h with rfl | hmem
      · exact List.mem_cons_self
      · exact List.mem_cons_of_mem _ (ih hmem)

theorem mem_firstPointOnly {items : List Item} {item : Item} (h : item ∈ items)
    (hpoint : item ≠ .point) : item ∈ firstPointOnly items := by
  induction items with
  | nil => exact h
  | cons first rest ih =>
    rw [firstPointOnly]
    rcases List.mem_cons.mp h with rfl | hmem
    · rw [if_neg hpoint]
      exact List.mem_cons_self
    · split
      · exact List.mem_cons_of_mem _ (List.mem_filter.mpr ⟨hmem, by simpa using hpoint⟩)
      · exact List.mem_cons_of_mem _ (ih hmem)

theorem firstPointOnly_concat (items : List Item) {item : Item} (hpoint : item ≠ .point) :
    firstPointOnly (items ++ [item]) = firstPointOnly items ++ [item] := by
  induction items with
  | nil => simp [firstPointOnly, hpoint]
  | cons first rest ih =>
    rw [List.cons_append, firstPointOnly, firstPointOnly]
    split
    · rw [List.filter_append, List.filter_cons_of_pos (by simpa using hpoint), List.filter_nil]
      rfl
    · rw [ih, List.cons_append]

/-! ### Patterns of one section -/

section OneSection

variable {pattern : Text} (h : sections pattern = [pattern])
include h

theorem filledSection?_succ (index : Nat) : filledSection? pattern (index + 1) = none := by
  rw [filledSection?, h]
  rfl

theorem sectionFor_of_sections (x : Binary64) : sectionFor pattern x = (pattern, true) := by
  rw [sectionFor, filledSection?_succ h 0, filledSection?_succ h 1, ite_self, ite_self, h]
  rfl

/-- A finite number has the sign of the locale in front of its magnitude, unless it is
rounded to zero. -/
theorem formatNumber_of_sections (hne : pattern ≠ [])
    (hgeneral : pattern.trim.equalsIgnoringAsciiCase generalName = false) {x : Binary64}
    (hx : x.isFinite = true) (locale : Locale) :
    formatNumber locale pattern x =
      (if x.isNegative && !((NumberPattern.ofText pattern).shown x).isZero then
        locale.negativeSign else []) ++ (NumberPattern.ofText pattern).text locale x := by
  have hempty : pattern.isEmpty = false := List.isEmpty_eq_false_iff.mpr hne
  rw [formatNumber, hx, hgeneral, hempty, formatSection, sectionFor_of_sections h]
  simp only [filledSection?_succ h 1, ite_self, Bool.true_and, Bool.not_true, Bool.false_eq_true,
    if_false]

end OneSection

/-- A pattern of places, points, commas and exponents. -/
structure IsBarePattern (pattern : Text) : Prop where
  mem : ∀ c ∈ pattern, c ∈ ['0', '#', '.', ',', 'E', 'e', '+', '-']
  ne_nil : pattern ≠ []

namespace IsBarePattern

variable {pattern : Text} (h : IsBarePattern pattern)
include h

theorem sections_eq : sections pattern = [pattern] := by
  have hplain : ∀ c ∈ ['0', '#', '.', ',', 'E', 'e', '+', '-'],
      ¬(ScanState.plain = .plain ∧ c = ';') ∧ ScanState.plain.next c = .plain :=
    List.all_iff_forall_prop.mp (by decide)
  exact sections_of_plain fun c hc => hplain c (h.mem c hc)

/-- It is not the name of the general format. -/
theorem not_general : pattern.trim.equalsIgnoringAsciiCase generalName = false := by
  have hchars : ∀ c ∈ ['0', '#', '.', ',', 'E', 'e', '+', '-'],
      isBlank c = false ∧ c.toLower ≠ 'g' := List.all_iff_forall_prop.mp (by decide)
  have htrim : pattern.trim = pattern :=
    Text.trim_of_visible fun c hc => (hchars c (h.mem c hc)).1
  rw [htrim, Text.equalsIgnoringAsciiCase, beq_eq_false_iff_ne]
  intro heq
  have hletter : 'g' ∈ pattern.map Char.toLower := by
    rw [heq]
    decide
  obtain ⟨c, hc, hlower⟩ := List.mem_map.mp hletter
  exact (hchars c (h.mem c hc)).2 hlower

/-- A finite number has the sign of the locale in front of its magnitude, unless it is
rounded to zero. -/
theorem formatNumber_eq {x : Binary64} (hx : x.isFinite = true) (locale : Locale) :
    formatNumber locale pattern x =
      (if x.isNegative && !((NumberPattern.ofText pattern).shown x).isZero then
        locale.negativeSign else []) ++ (NumberPattern.ofText pattern).text locale x :=
  formatNumber_of_sections h.sections_eq h.ne_nil h.not_general hx locale

end IsBarePattern

end Spreadsheet
