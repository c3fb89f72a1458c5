/-
# Blanks

White space is the Unicode property `White_Space`: the ASCII blanks, the next
line control, and the space and line separators.

* `isBlank_of_isWhitespace` — every character core counts as white space is a
  blank.
* `trim_eq_self` — a text that neither starts nor ends with a blank is its own
  trimming.
-/

import Spreadsheet.Text.Basic
import Spreadsheet.Text.CharClass

namespace Spreadsheet

/-- The characters with the property `White_Space`. -/
def CharClass.whiteSpace : CharClass := ⟨
  [(0x09, 0x0D), (0x20, 0x20), (0x85, 0x85), (0xA0, 0xA0), (0x1680, 0x1680), (0x2000, 0x200A),
   (0x2028, 0x2029), (0x202F, 0x202F), (0x205F, 0x205F), (0x3000, 0x3000)]⟩

/-- Whether the character is white space. -/
def isBlank (c : Char) : Bool :=
  CharClass.whiteSpace.contains c

/-- Blanks extend core's white space. -/
theorem isBlank_of_isWhitespace {c : Char} (h : c.isWhitespace = true) : isBlank c = true := by
  simp only [Char.isWhitespace, Bool.or_eq_true, decide_eq_true_eq] at h
  rcases h with ((rfl | rfl) | rfl) | rfl <;> decide

namespace Text

/-- The text without the white space at its start. -/
def trimStart (text : Text) : Text :=
  text.dropWhile isBlank

/-- The text without the white space at its end. -/
def trimEnd (text : Text) : Text :=
  text.dropTrailing isBlank

/-- The text without the white space at its two ends. -/
def trim (text : Text) : Text :=
  text.trimStart.trimEnd

/-- Trimming changes only texts with a blank at an end. -/
theorem trim_eq_self {text : Text} (hhead : text.head?.all (fun c => !isBlank c) = true)
    (hlast : text.getLast?.all (fun c => !isBlank c) = true) : text.trim = text := by
  cases text with
  | nil => rfl
  | cons c rest =>
    have hc : isBlank c = false := by simpa using hhead
    have hstart : trimStart (c :: rest) = c :: rest := by simp [trimStart, hc]
    rw [trim, hstart, trimEnd, dropTrailing]
    rw [← List.head?_reverse] at hlast
    cases hrev : (c :: rest).reverse with
    | nil => simp at hrev
    | cons l before =>
      rw [hrev] at hlast
      have hl : isBlank l = false := by simpa using hlast
      rw [List.dropWhile_cons_of_neg (by simp [hl]), ← hrev, List.reverse_reverse]

end Text

end Spreadsheet
