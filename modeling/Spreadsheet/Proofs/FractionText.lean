/-
# Texts of fractions

A number under a fraction pattern is a sign, a whole part and a fraction, of which only what is
there is written, with blanks around the numerator and the denominator where the pattern has more
room. Such a text can be read in one way only, and what is read is what was shown.

* `WrittenFraction.ofText?` — the reader of such texts.
* `WrittenFraction.ofText?_text` — it reads what a fraction pattern writes.
-/

import Spreadsheet.Format.Fraction
import Spreadsheet.Proofs.JsonNumbers

namespace Spreadsheet

-- A power of a natural number is core's, whatever other instances are in scope.
attribute [local instance (high)] instPowNat

/-! ### Padding -/

namespace Text

variable {digits : Text} {n : Nat}

/-- Blanks in front of a number belong to no field. -/
theorem Writes.fields_padLeft (h : digits.Writes n) (width : Nat) :
    fields isBlank (padLeft ' ' width digits) = [digits] := by
  rw [padLeft]
  induction width - digits.length with
  | zero => exact fields_of_forall h.ne_nil h.visible
  | succ count ih => rwa [List.replicate_succ, List.cons_append, fields_cons_separator (by decide)]

/-- Blanks after a number are trimmed. -/
theorem Writes.trimEnd_padRight (h : digits.Writes n) (width : Nat) :
    trimEnd (padRight ' ' width digits) = digits := by
  have hblanks : ∀ c ∈ List.replicate (width - digits.length) ' ', isBlank c = true := by
    intro c hc
    rw [List.eq_of_mem_replicate hc]
    decide
  rw [padRight, trimEnd, dropTrailing_append_of_forall hblanks, dropTrailing_eq_self h.visible]

end Text

/-! ### Reading a fraction -/

/-- The text of a fraction, taken apart: its sign, and the whole part and the fraction that it
writes. -/
structure WrittenFraction where
  negative : Bool
  whole : Option Nat
  fraction : Option (Nat × Nat)
deriving DecidableEq

namespace WrittenFraction

/-- The magnitude that is written; what is absent is zero. -/
def magnitude (written : WrittenFraction) : Rat :=
  (written.whole.getD 0 : Nat) + written.fraction.elim 0 fun (num, den) => (num : Rat) / den

/-- The whole part, if there is one, and the numerator, which stand before the slash. -/
def front? (before : Text) : Option (Option Nat × Nat) :=
  match Text.fields isBlank before with
  | [num] => (Numeral.count? num).map fun num => (none, num)
  | [whole, num] =>
    (Numeral.count? whole).bind fun whole => (Numeral.count? num).map fun num => (some whole, num)
  | _ => none

/-- A fraction without a sign: a whole number, or a front, a slash and a denominator. -/
def ofUnsigned? (negative : Bool) (text : Text) : Option WrittenFraction :=
  match Text.breakAt (· == '/') text with
  | (whole, []) => (Numeral.count? whole).map fun whole => ⟨negative, some whole, none⟩
  | (before, _ :: after) =>
    (front? before).bind fun (whole, num) =>
      (Numeral.count? (Text.trimEnd after)).map fun den => ⟨negative, whole, some (num, den)⟩

/-- What the text of a fraction writes. -/
def ofText? : Text → Option WrittenFraction
  | '-' :: text => ofUnsigned? true text
  | text => ofUnsigned? false text

/-- What is written of a mixed number: zero has no sign, and of the parts only those that are not
zero are there, or a zero for both. -/
def ofMixed (negative : Bool) (mixed : MixedNumber) : WrittenFraction where
  negative := negative && (mixed.whole != 0 || mixed.num != 0)
  whole := if mixed.num ≠ 0 ∧ mixed.whole = 0 then none else some mixed.whole
  fraction := if mixed.num = 0 then none else some (mixed.num, mixed.den)

/-! ### Reading what was written -/

section Reading

variable {wholeDigits digits : Text} {whole num den : Nat}

theorem slash_notMem_digits (h : digits.Writes num) : ∀ c ∈ digits, (c == '/') = false := by
  intro c hc
  rw [beq_eq_false_iff_ne]
  rintro rfl
  exact h.notMem (by decide) hc

theorem slash_notMem_padLeft (h : digits.Writes num) (width : Nat) :
    ∀ c ∈ Text.padLeft ' ' width digits, (c == '/') = false := by
  rw [Text.padLeft, List.forall_mem_append]
  refine ⟨fun c hc => ?_, slash_notMem_digits h⟩
  rw [List.eq_of_mem_replicate hc]
  decide

/-- A whole number alone. -/
theorem ofUnsigned?_whole (h : digits.Writes whole) (negative : Bool) :
    ofUnsigned? negative digits = some ⟨negative, some whole, none⟩ := by
  have hslash : ∀ c ∈ digits, (!(c == '/')) = true := fun c hc => by
    rw [slash_notMem_digits h c hc, Bool.not_false]
  obtain ⟨htake, hdrop⟩ := Text.leadingRun_eq_self hslash
  rw [ofUnsigned?, Text.breakAt, htake, hdrop]
  dsimp only
  rw [Numeral.count?_eq_some h, Option.map_some]

theorem front?_padLeft (h : digits.Writes num) (width : Nat) :
    front? (Text.padLeft ' ' width digits) = some (none, num) := by
  rw [front?, h.fields_padLeft]
  dsimp only
  rw [Numeral.count?_eq_some h, Option.map_some]

theorem front?_whole (hwhole : wholeDigits.Writes whole) (h : digits.Writes num) (width : Nat) :
    front? (wholeDigits ++ ' ' :: Text.padLeft ' ' width digits) = some (some whole, num) := by
  have hblank : isBlank ' ' = true := by decide
  have hfields := Text.fields_append_separator wholeDigits hblank (Text.padLeft ' ' width digits)
  rw [Text.fields_of_forall hwhole.ne_nil hwhole.visible, h.fields_padLeft] at hfields
  rw [front?, hfields]
  dsimp only [List.singleton_append]
  rw [Numeral.count?_eq_some hwhole, Numeral.count?_eq_some h]
  rfl

/-- A front, a slash and a denominator. -/
theorem ofUnsigned?_fraction {front : Text} {whole? : Option Nat}
    (hslash : ∀ c ∈ front, (c == '/') = false) (hfront : front? front = some (whole?, num))
    (hden : digits.Writes den) (negative : Bool) (width : Nat) :
    ofUnsigned? negative (front ++ '/' :: Text.padRight ' ' width digits) =
      some ⟨negative, whole?, some (num, den)⟩ := by
  rw [ofUnsigned?, Text.breakAt_append_cons hslash (beq_self_eq_true '/')]
  dsimp only
  rw [hfront, hden.trimEnd_padRight, Numeral.count?_eq_some hden]
  rfl

end Reading

variable (pattern : FractionPattern) (negative : Bool) (mixed : MixedNumber)

/-- **What a fraction pattern writes without a sign is read back.** -/
theorem ofUnsigned?_text :
    ofUnsigned? negative (pattern.text false mixed) =
      some { ofMixed false mixed with negative } := by
  have hwhole := (Text.writes_toDigits mixed.whole).1
  have hnum := (Text.writes_toDigits mixed.num).1
  have hden := (Text.writes_toDigits mixed.den).1
  have hslash := slash_notMem_padLeft hnum pattern.numeratorWidth
  unfold FractionPattern.text ofMixed
  dsimp only [signText, Bool.false_and, Bool.false_eq_true, if_false, List.nil_append]
  by_cases hzero : mixed.num = 0
  · simp only [hzero, if_true, ne_eq, not_true_eq_false, false_and, if_false]
    exact ofUnsigned?_whole hwhole negative
  · by_cases hnone : mixed.whole = 0
    · simp only [hzero, hnone, if_true, if_false, ne_eq, not_false_eq_true, true_and]
      exact ofUnsigned?_fraction hslash (front?_padLeft hnum _) hden negative _
    · have hfront : ∀ c ∈ Nat.toDigits 10 mixed.whole ++ ' ' ::
          Text.padLeft ' ' pattern.numeratorWidth (Nat.toDigits 10 mixed.num),
          (c == '/') = false := by
        rw [List.forall_mem_append, List.forall_mem_cons]
        exact ⟨slash_notMem_digits hwhole, by decide, hslash⟩
      have hread := ofUnsigned?_fraction hfront (front?_whole hwhole hnum _) hden negative
        pattern.denominatorWidth
      rw [List.append_assoc, List.cons_append] at hread
      simp only [hzero, hnone, if_false, ne_eq, not_false_eq_true, and_false]
      exact hread

/-- Without a sign it holds digits, blanks and a slash only. -/
theorem minus_notMem_text : '-' ∉ pattern.text false mixed := by
  have hdigits : ∀ n : Nat, '-' ∉ Nat.toDigits 10 n := fun n =>
    (Text.writes_toDigits n).1.notMem (by decide)
  have hblanks : ∀ n : Nat, '-' ∉ List.replicate n ' ' := fun n hmem =>
    absurd (List.eq_of_mem_replicate hmem) (by decide)
  unfold FractionPattern.text Text.padLeft Text.padRight
  dsimp only [signText, Bool.false_and, Bool.false_eq_true, if_false, List.nil_append]
  split
  · exact hdigits mixed.whole
  · split <;> simp [hdigits, hblanks]

/-- The sign stands in front of what is written without it. -/
theorem text_eq_signText :
    pattern.text negative mixed =
      signText (ofMixed negative mixed).negative ++ pattern.text false mixed := by
  have hnone : signText false = [] := rfl
  unfold FractionPattern.text ofMixed
  dsimp only
  rw [Bool.false_and, hnone]
  split
  · rfl
  · split
    · rfl
    · simp only [List.nil_append, List.append_assoc]

/-- **What a fraction pattern writes is read back.** -/
theorem ofText?_text : ofText? (pattern.text negative mixed) = some (ofMixed negative mixed) := by
  rw [text_eq_signText]
  cases hsign : (ofMixed negative mixed).negative with
  | true =>
    rw [signText, if_pos rfl, List.singleton_append, ofText?, ofUnsigned?_text, ← hsign]
    rfl
  | false =>
    have hunsigned : ofText? (pattern.text false mixed) =
        ofUnsigned? false (pattern.text false mixed) := by
      unfold ofText?
      split
      · rename_i rest htext
        exact absurd (htext ▸ List.mem_cons_self) (minus_notMem_text pattern mixed)
      · rfl
    rw [signText, if_neg Bool.false_ne_true, List.nil_append, hunsigned, ofUnsigned?_text, ← hsign]
    rfl

/-- A text starts with a minus sign when it writes one. -/
theorem head?_text :
    (pattern.text negative mixed).head? = some '-' ↔ (ofMixed negative mixed).negative = true := by
  rw [text_eq_signText]
  cases (ofMixed negative mixed).negative with
  | true => exact ⟨fun _ => rfl, fun _ => rfl⟩
  | false =>
    refine ⟨fun hhead => absurd (List.mem_of_mem_head? hhead) ?_, fun h => absurd h (by decide)⟩
    exact minus_notMem_text pattern mixed

end WrittenFraction

end Spreadsheet
