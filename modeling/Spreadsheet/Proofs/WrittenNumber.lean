/-
# Whole numbers written in digits

What the readers of numbers, dates and times have in common: a text of digits writes a
whole number, with or without leading zeros.

* `Text.writes_number` — a number that is shown is written so.
* `Numeral.count?_eq_some` — it is read again as a count.
* `Numeral.toRat_toBinary64` — and as a floating point number, exactly.
-/

import Spreadsheet.Locale.DateText
import Spreadsheet.Proofs.Binary64Rounding
import Spreadsheet.Proofs.TextCuts

namespace Spreadsheet

-- A power of a natural number is core's, whatever other instances are in scope.
attribute [local instance (high)] instPowNat

/-! ### Digits -/

/-- There are ten digits. -/
theorem mem_digits_of_isDigit {c : Char} (h : c.isDigit = true) : c ∈ "0123456789".toList := by
  rw [Char.isDigit_iff_toNat] at h
  have hlow : 48 ≤ c.toNat := h.1
  have hhigh : c.toNat ≤ 57 := h.2
  have hcodes : ∀ code < 58, 48 ≤ code → Char.ofNat code ∈ "0123456789".toList := by decide
  have hmem := hcodes c.toNat (by omega) hlow
  rwa [Char.ofNat_toNat] at hmem

/-- What holds of the ten digits holds of every digit. -/
theorem forall_isDigit {p : Char → Prop} [DecidablePred p]
    (h : "0123456789".toList.all (fun c => decide (p c)) = true) {c : Char}
    (hc : c.isDigit = true) : p c :=
  of_decide_eq_true (List.all_eq_true.mp h c (mem_digits_of_isDigit hc))

/-- What a digit is to the readers: a numeral and no letter, neither a blank nor a mark
between the parts of a date or of a time, and its own lower case. -/
structure DigitKind (c : Char) : Prop where
  numeral : isLetterOrNumeral c = true
  letter : isLetter c = false
  blank : isBlank c = false
  part : separatesDateParts c = false
  colon : (c == ':') = false
  timeMark : (c == 'T') = false
  lower : lowercase c = [c]

theorem isDigit_kind {c : Char} (hc : c.isDigit = true) : DigitKind c := by
  obtain ⟨numeral, letter, blank, part, colon, timeMark, lower⟩ :=
    forall_isDigit (p := fun c => isLetterOrNumeral c = true ∧ isLetter c = false ∧
      isBlank c = false ∧ separatesDateParts c = false ∧ (c == ':') = false ∧ (c == 'T') = false ∧
        lowercase c = [c]) (by decide +kernel) hc
  exact { numeral, letter, blank, part, colon, timeMark, lower }

namespace Text

/-- The text of digits writes the number. -/
structure Writes (digits : Text) (n : Nat) : Prop where
  ne_nil : digits ≠ []
  isDigit : ∀ c ∈ digits, c.isDigit = true
  value : Nat.ofDigitChars 10 digits 0 = n

namespace Writes

section

variable {digits : Text} {n : Nat} (h : digits.Writes n)
include h

/-- A written number starts with a digit. -/
theorem exists_cons : ∃ first rest, digits = first :: rest ∧ first.isDigit = true := by
  obtain ⟨first, rest, rfl⟩ := List.exists_cons_of_ne_nil h.ne_nil
  exact ⟨first, rest, rfl, h.isDigit first List.mem_cons_self⟩

/-- It ends with a digit. -/
theorem exists_concat : ∃ before last, digits = before ++ [last] ∧ last.isDigit = true := by
  obtain ⟨before, last, rfl⟩ : ∃ before last, digits = before ++ [last] :=
    ⟨_, _, (List.dropLast_append_getLast h.ne_nil).symm⟩
  exact ⟨before, last, rfl, h.isDigit last (by simp)⟩

/-- It holds no character but digits. -/
theorem notMem {c : Char} (hc : c.isDigit = false) : c ∉ digits := by
  intro hmem
  rw [h.isDigit c hmem] at hc
  cases hc

/-- It holds no blank. -/
theorem visible : ∀ c ∈ digits, isBlank c = false := by
  intro c hc
  exact (isDigit_kind (h.isDigit c hc)).blank

/-- It holds no letter. -/
theorem any_isLetter : digits.any isLetter = false := by
  rw [List.any_eq_false]
  intro c hc
  rw [(isDigit_kind (h.isDigit c hc)).letter]
  exact Bool.false_ne_true

/-- Trimming changes nothing. -/
theorem trim_eq : digits.trim = digits :=
  trim_of_visible h.visible

/-- No blank stands before it. -/
theorem trimStart_append (rest : Text) : trimStart (digits ++ rest) = digits ++ rest := by
  obtain ⟨first, others, rfl, hfirst⟩ := h.exists_cons
  exact List.dropWhile_cons_of_neg (by simp [(isDigit_kind hfirst).blank])

/-- It is the leading run of digits when no digit follows. -/
theorem leadingRun {rest : Text} (hrest : ∀ c ∈ rest.head?, c.isDigit = false) :
    (digits ++ rest).takeWhile Char.isDigit = digits ∧
      (digits ++ rest).dropWhile Char.isDigit = rest :=
  leadingRun_append h.isDigit hrest

/-- It is one field of a date. -/
theorem fields_eq : digits.fields separatesDateParts = [digits] := by
  apply fields_of_forall h.ne_nil
  intro c hc
  exact (isDigit_kind (h.isDigit c hc)).part

/-- It is one part of what is split at a mark. -/
theorem split_eq {mark : Char} (hmark : mark.isDigit = false) :
    digits.split (· == mark) = [digits] := by
  apply split_of_forall
  intro c hc
  exact beq_false_of_ne fun heq => h.notMem hmark (heq ▸ hc)

end

/-- Written numbers one after the other write one number. -/
theorem append {a b : Text} {m n : Nat} (ha : a.Writes m) (hb : b.Writes n) :
    (a ++ b).Writes (m * 10 ^ b.length + n) where
  ne_nil := by simp [ha.ne_nil]
  isDigit := by
    intro c hc
    exact (List.mem_append.mp hc).elim (ha.isDigit c) (hb.isDigit c)
  value := by
    rw [Nat.ofDigitChars_append, ha.value, Nat.ofDigitChars_eq_ofDigitChars_zero, hb.value,
      Nat.mul_comm]

end Writes

/-- A number that is shown with leading zeros is written. -/
theorem writes_number (width n : Nat) : (number width n).Writes n where
  ne_nil := by simp [number, padLeft]
  isDigit := by
    intro c hc
    rw [number, padLeft, List.mem_append] at hc
    rcases hc with hzero | hdigit
    · rw [List.eq_of_mem_replicate hzero]
      rfl
    · exact Nat.isDigit_of_mem_toDigits (by decide) (by decide) hdigit
  value := by
    rw [number, padLeft, Nat.ofDigitChars_append, Nat.ofDigitChars_replicate_zero, Nat.mul_zero,
      Nat.ofDigitChars_ten_toDigits]

/-- Different numbers are shown differently. -/
theorem number_injective (width : Nat) : Function.Injective (number width) := by
  intro m n h
  rw [← (writes_number width m).value, h, (writes_number width n).value]

/-- A number that fits is shown in the width. -/
theorem length_number {width n : Nat} (hwidth : 0 < width) (h : n < 10 ^ width) :
    (number width n).length = width := by
  have hle := (Nat.length_toDigits_le_iff (by decide) hwidth).mpr h
  rw [number, padLeft, List.length_append, List.length_replicate]
  omega

/-- A number that fits in some places needs no more than these, unless the width asks for
more. -/
theorem length_number_le {width places n : Nat} (hplaces : 0 < places) (hwidth : width ≤ places)
    (h : n < 10 ^ places) : (number width n).length ≤ places := by
  have hle := (Nat.length_toDigits_le_iff (by decide) hplaces).mpr h
  rw [number, padLeft, List.length_append, List.length_replicate]
  omega

end Text

/-! ### Reading written numbers -/

namespace Numeral

/-- A written number is read as a count. -/
theorem count?_eq_some {digits : Text} {n : Nat} (h : digits.Writes n) :
    count? digits = some n := by
  obtain ⟨first, rest, rfl, hfirst⟩ := h.exists_cons
  have hsign : first ≠ '+' := by
    rintro rfl
    cases hfirst
  have hall : (first :: rest).all Char.isDigit = true := List.all_eq_true.mpr h.isDigit
  unfold count?
  extract_lets unsigned
  have hunsigned : unsigned = first :: rest := by
    unfold unsigned
    split
    · rename_i heq
      exact absurd (List.head_eq_of_cons_eq heq) hsign
    · rfl
  simp only [hunsigned]
  rw [if_pos ⟨h.ne_nil, hall⟩, h.value]

/-- Without a sign, it is read as the numeral of its digits. -/
theorem ofPlain?_eq_some {digits : Text} {n : Nat} (h : digits.Writes n) :
    ofPlain? digits = some ⟨false, digits, [], 0⟩ := by
  obtain ⟨first, rest, rfl, hfirst⟩ := h.exists_cons
  unfold ofPlain?
  split
  · rename_i heq
    rw [List.head_eq_of_cons_eq heq] at hfirst
    cases hfirst
  · rename_i heq
    rw [List.head_eq_of_cons_eq heq] at hfirst
    cases hfirst
  · exact ofUnsigned?_digits h.ne_nil h.isDigit

/-- A numeral that writes a whole number is read exactly, up to the numbers of 53 bits. -/
theorem toRat_toBinary64 {digits : Text} {n : Nat} (h : digits.Writes n) (hn : n < 2 ^ 53) :
    (toBinary64 ⟨false, digits, [], 0⟩).isFinite = true ∧
      (toBinary64 ⟨false, digits, [], 0⟩).toRat = n := by
  have hcoefficient : coefficient ⟨false, digits, [], 0⟩ = n := by
    rw [coefficient, List.append_nil, h.value]
  have hcount : digitCount n < 310 := by
    rcases Nat.lt_or_ge (digitCount n) 310 with hlt | hge
    · exact hlt
    · have hpow := pow_le_of_digitCount (k := digitCount n - 1) (n := n) (by omega)
      have hlarge : 10 ^ 16 ≤ 10 ^ (digitCount n - 1) :=
        Nat.pow_le_pow_right (by decide) (by omega)
      omega
  rw [toBinary64]
  simp only [hcoefficient, place, List.length_nil]
  by_cases hzero : n = 0
  · subst hzero
    rw [if_pos rfl]
    exact ⟨rfl, by simp [Binary64.toRat, Binary64.zero, Binary64.signedUnits]⟩
  · rw [if_neg hzero, if_neg (by omega), if_neg (by omega)]
    have hexact := Binary64.toRat_ofInt (n := n) (by omega)
    have hsign : ¬((n : Int) : Rat) < 0 := not_lt.mpr (by positivity)
    have hround : nearestScaled false n (0 - (0 : Nat)) = Binary64.ofInt n := by
      rw [Binary64.ofInt, Binary64.ofRat, decide_eq_false hsign]
      simp [nearestScaled]
    rw [hround]
    exact_mod_cast hexact

end Numeral

end Spreadsheet
