/-
# Criteria of an operator and a literal

An operator written in front of a literal is read as that operator with that literal,
whatever the operator's length: a longer operator is not taken for a shorter one, a sign
at the start of the literal is not taken for a part of the operator, and removing the
token wherever it occurs removes it once.

* `operator?_token_append` — the operator is found.
* `ofText_token_append` — the criterion is the comparison with the literal.
* `evaluate_pattern` — a criterion without an operator is left to the matcher.
-/

import Spreadsheet.Criteria.Criterion
import Spreadsheet.Proofs.TextCuts

namespace Spreadsheet

/-- Whether a literal may start with the character: none of these is taken for a part of
the operator. -/
def startsLiteral (c : Char) : Bool :=
  isLetterOrNumeral c || isBlank c || c == '+' || c == '-'

/-- Whether the operators of comparison are written with the character. -/
def isComparisonMark (c : Char) : Bool :=
  c == '=' || c == '<' || c == '>'

/-- What the characters of a comparison are: neither letters nor blanks. -/
theorem comparisonMark_visible {c : Char} (h : isComparisonMark c = true) :
    isLetterOrNumeral c = false ∧ isBlank c = false := by
  simp only [isComparisonMark, Bool.or_eq_true, beq_iff_eq] at h
  rcases h with (rfl | rfl) | rfl <;> decide

namespace Operator

/-- A comparison is written with one or two of its marks. -/
theorem token_cases {operator : Operator} (hop : operator ≠ .minus) :
    (∃ mark, operator.token = [mark] ∧ isComparisonMark mark = true ∧
        ofToken? [mark, '+'] = none ∧ ofToken? [mark, '-'] = none) ∨
      ∃ mark second, operator.token = [mark, second] ∧ isComparisonMark mark = true ∧
        isComparisonMark second = true := by
  cases operator with
  | minus => exact absurd rfl hop
  | equal => exact Or.inl ⟨'=', by decide⟩
  | greater => exact Or.inl ⟨'>', by decide⟩
  | less => exact Or.inl ⟨'<', by decide⟩
  | notEqual => exact Or.inr ⟨'<', '>', by decide⟩
  | greaterOrEqual => exact Or.inr ⟨'>', '=', by decide⟩
  | lessOrEqual => exact Or.inr ⟨'<', '=', by decide⟩

end Operator

namespace Criterion

/-! ### Finding the operator -/

/-- A mark alone is the candidate, or a mark with the sign of the literal. -/
theorem candidate?_mark_append {mark : Char} {literal : Text} (hmark : isComparisonMark mark = true)
    (hstart : literal.head?.all startsLiteral = true) :
    candidate? (mark :: literal) = some [mark] ∨
      candidate? (mark :: literal) = some [mark, '+'] ∨
      candidate? (mark :: literal) = some [mark, '-'] := by
  obtain ⟨hletter, hblank⟩ := comparisonMark_visible hmark
  rw [candidate?, Text.trim_cons hblank]
  dsimp only
  rw [hletter]
  cases htrim : Text.trimEnd literal with
  | nil => exact Or.inl rfl
  | cons second rest =>
    -- the second character is the first one of the literal
    have hprefix := Text.dropTrailing_isPrefix isBlank literal
    rw [← Text.trimEnd, htrim] at hprefix
    obtain ⟨rest', rfl⟩ := hprefix
    have hsecond : startsLiteral second = true := by simpa using hstart
    simp only [startsLiteral, Bool.or_eq_true, beq_iff_eq] at hsecond
    simp only [Bool.false_eq_true, if_false]
    rcases hsecond with ((hnumeral | hblank) | rfl) | rfl
    · exact Or.inl (by rw [hnumeral, Bool.true_or, if_pos rfl])
    · exact Or.inl (by rw [hblank, Bool.or_true, if_pos rfl])
    · exact Or.inr (Or.inl (if_neg (by decide)))
    · exact Or.inr (Or.inr (if_neg (by decide)))

/-- A mark and a character that is neither a letter nor a blank are the candidate. -/
theorem candidate?_pair {mark second : Char} (rest : Text) (hmark : isComparisonMark mark = true)
    (hletter : isLetterOrNumeral second = false) (hblank : isBlank second = false) :
    candidate? (mark :: second :: rest) = some [mark, second] := by
  obtain ⟨hmarkLetter, hmarkBlank⟩ := comparisonMark_visible hmark
  rw [candidate?, Text.trim_cons hmarkBlank, Text.trimEnd_cons hblank]
  simp [hmarkLetter, hletter, hblank]

/-- **The operator in front of a literal is found.** After an operator of two characters
the literal may start with anything. -/
theorem operator?_token_append {operator : Operator} (hop : operator ≠ .minus) {literal : Text}
    (hstart : operator.token.length = 2 ∨ literal.head?.all startsLiteral = true) :
    operator? (operator.token ++ literal) = some operator := by
  have hfound := Operator.ofToken?_token operator
  rcases Operator.token_cases hop with
    ⟨mark, htoken, hmark, hplus, hminus⟩ | ⟨mark, second, htoken, hmark, hsecond⟩
  · have hhead : literal.head?.all startsLiteral = true :=
      hstart.resolve_left (by simp [htoken])
    rw [htoken] at hfound ⊢
    rw [List.singleton_append, operator?]
    rcases candidate?_mark_append hmark hhead with h | h | h
    · simp only [h, Option.bind_some, operatorOf?, hfound]
    · simpa [h, operatorOf?, hplus] using hfound
    · simpa [h, operatorOf?, hminus] using hfound
  · obtain ⟨hletter, hblank⟩ := comparisonMark_visible hsecond
    rw [htoken] at hfound ⊢
    rw [operator?, List.cons_append, List.singleton_append,
      candidate?_pair literal hmark hletter hblank]
    simp only [Option.bind_some, operatorOf?, hfound]

/-! ### Reading the criterion -/

/-- **An operator in front of a literal without its marks is the comparison with that
literal.** -/
theorem ofText_token_append {operator : Operator} (hop : operator ≠ .minus) {literal : Text}
    (hstart : operator.token.length = 2 ∨ literal.head?.all startsLiteral = true)
    (hmarks : ∀ c ∈ literal, isComparisonMark c = false) :
    ofText (operator.token ++ literal) = .comparison operator literal := by
  rw [ofText_eq_comparison (operator?_token_append hop hstart)]
  have hmem : ∀ mark, isComparisonMark mark = true → mark ∉ literal := by
    intro mark hmark hmem
    rw [hmarks mark hmem] at hmark
    cases hmark
  rcases Operator.token_cases hop with ⟨mark, htoken, hmark, -⟩ | ⟨mark, second, htoken, hmark, -⟩
  · rw [htoken, Text.removeAll_token_append (hmem mark hmark)]
  · rw [htoken, Text.removeAll_token_append (hmem mark hmark)]

end Criterion

/-- What a criterion of an operator and a literal decides. -/
theorem evaluate_token_append (matcher : Matcher) (locale : Locale) (value : Cell)
    {operator : Operator} (hop : operator ≠ .minus) {literal : Text}
    (hstart : literal.head?.all startsLiteral = true)
    (hmarks : ∀ c ∈ literal, isComparisonMark c = false) :
    evaluate matcher locale value (operator.token ++ literal) =
      Criterion.compareWith locale operator value literal := by
  rw [evaluate, Criterion.ofText_token_append hop (Or.inr hstart) hmarks]
  rfl

/-- A criterion without an operator is left to the matcher. -/
theorem evaluate_pattern (matcher : Matcher) (locale : Locale) (value : Cell) {text : Text}
    (hne : text ≠ []) (h : Criterion.operator? text = none) :
    evaluate matcher locale value text = .ok (matcher locale text value == some .eq) := by
  rw [evaluate, Criterion.ofText, if_neg hne, h]
  rfl

end Spreadsheet
