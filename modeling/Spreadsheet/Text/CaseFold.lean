/-
# Folding case

Text is compared without regard to case by its lower case. The lower case of a
capital sigma depends on its place: it is the final form at the end of a word,
that is, when a cased letter stands before it and none after it, characters
without a case of their own being passed over.

* `foldCase_append` — a text without a capital sigma folds part by part.
-/

import Spreadsheet.Text.Casing
import Spreadsheet.Text.Lowercase

namespace Spreadsheet

namespace Text

/-- Whether the first character that is not passed over is a cased letter. -/
def meetsCased (text : Text) : Bool :=
  match text.dropWhile CharClass.caseIgnorable.contains with
  | [] => false
  | c :: _ => CharClass.cased.contains c

/-- The lower case of a text, given the text before it in reverse. -/
def foldCaseAfter (before : Text) : Text → Text
  | [] => []
  | c :: rest =>
    (if c = 'Σ' then
      if meetsCased before && !meetsCased rest then ['ς'] else ['σ']
    else lowercase c) ++ foldCaseAfter (c :: before) rest

/-- The lower case of a text, in which comparisons ignore case. -/
def foldCase (text : Text) : Text :=
  foldCaseAfter [] text

/-- Without a capital sigma, folding goes character by character. -/
theorem foldCaseAfter_eq_flatMap {text : Text} (noSigma : 'Σ' ∉ text) (before : Text) :
    foldCaseAfter before text = text.flatMap lowercase := by
  induction text generalizing before with
  | nil => rfl
  | cons c rest ih =>
    rw [List.mem_cons, not_or] at noSigma
    rw [foldCaseAfter, if_neg (Ne.symm noSigma.1), ih noSigma.2, List.flatMap_cons]

/-- A text of characters that are their own lower case is its own folding. -/
theorem foldCase_eq_self {text : Text} (h : ∀ c ∈ text, c ≠ 'Σ' ∧ lowercase c = [c]) :
    foldCase text = text := by
  have noSigma : 'Σ' ∉ text := fun hmem => (h 'Σ' hmem).1 rfl
  have hmap : text.map lowercase = text.map fun c => [c] :=
    List.map_congr_left fun c hc => (h c hc).2
  rw [foldCase, foldCaseAfter_eq_flatMap noSigma, List.flatMap_def, hmap, ← List.flatMap_def,
    List.flatMap_singleton']

/-- Texts without a capital sigma fold part by part. -/
theorem foldCase_append {a b : Text} (ha : 'Σ' ∉ a) (hb : 'Σ' ∉ b) :
    foldCase (a ++ b) = foldCase a ++ foldCase b := by
  have hab : 'Σ' ∉ a ++ b := by simp [ha, hb]
  simp only [foldCase, foldCaseAfter_eq_flatMap ha, foldCaseAfter_eq_flatMap hb,
    foldCaseAfter_eq_flatMap hab, List.flatMap_append]

end Text

end Spreadsheet
