/-
# Text templates

A text template shows a text in the place of each placeholder `{0}`, which may
carry a width or a format that is ignored. Doubled braces stand for single ones,
and a brace that is neither doubled nor part of a placeholder for itself.

* `substitute_plain` — a template without braces is shown as it is.
-/

import Spreadsheet.Text.Blank

namespace Spreadsheet

/-- The text after a placeholder whose opening brace has been read: the number 0,
anything after a comma or a colon, and the closing brace. -/
def afterPlaceholder? (text : Text) : Option Text :=
  match Text.breakAt (· == '\x7d') text with
  | (_, []) => none
  | (body, _ :: rest) =>
    if Text.trim (body.takeWhile (fun c => !(c == ',' || c == ':'))) = ['0'] then some rest
    else none

theorem length_afterPlaceholder? {text rest : Text} (h : afterPlaceholder? text = some rest) :
    rest.length < text.length := by
  unfold afterPlaceholder? at h
  have hle := (List.dropWhile_sublist (fun c => !(c == '\x7d')) (l := text)).length_le
  split at h
  · exact (Option.some_ne_none _ h.symm).elim
  · rename_i body brace left hbreak
    have hdrop := (Prod.mk.inj hbreak).2
    rw [hdrop, List.length_cons] at hle
    split at h
    · cases h
      omega
    · exact (Option.some_ne_none _ h.symm).elim

/-- The template with a value in the place of its placeholders. -/
def substitute (value : Text) (template : Text) : Text :=
  match template with
  | [] => []
  | [c] => [c]
  | c :: d :: rest =>
    if c = d ∧ (c = '\x7b' ∨ c = '\x7d') then c :: substitute value rest
    else if c = '\x7b' then
      match _h : afterPlaceholder? (d :: rest) with
      | some after => value ++ substitute value after
      | none => c :: substitute value (d :: rest)
    else c :: substitute value (d :: rest)
termination_by template.length
decreasing_by
  · exact Nat.lt_succ_of_lt (Nat.lt_succ_self _)
  · exact Nat.lt_succ_of_lt (length_afterPlaceholder? _h)
  · exact Nat.lt_succ_self _
  · exact Nat.lt_succ_self _

/-- A template without braces is shown as it is. -/
theorem substitute_plain (value : Text) {template : Text}
    (h : ∀ c ∈ template, c ≠ '\x7b' ∧ c ≠ '\x7d') : substitute value template = template := by
  fun_induction substitute value template with
  | case1 => rfl
  | case2 => rfl
  | case3 c d rest hbrace ih =>
    have hc := h c List.mem_cons_self
    exact absurd hbrace.2 (not_or.2 hc)
  | case4 d rest _ after _ ih =>
    exact absurd rfl (h _ List.mem_cons_self).1
  | case5 d rest _ _ ih =>
    exact absurd rfl (h _ List.mem_cons_self).1
  | case6 c d rest _ _ ih =>
    rw [ih (fun e he => h e (List.mem_cons_of_mem _ he))]

end Spreadsheet
