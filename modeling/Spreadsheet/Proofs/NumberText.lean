/-
# Texts that are numbers in a locale, and texts that are not

A number is written with digits, signs, the separators of the locale, the mark of an
exponent, and blanks around it. So no number holds a mark of a comparison, and digits
that a slash or a dash follows are no number; but digits with group separators anywhere
among them are one.

* `Locale.mem_of_readNumber?` — what a number is written with.
* `Locale.readNumber?_eq_none` — digits and a mark that ends them without a number.
* `Locale.readNumber?_grouped` — digits and group separators.
-/

import Spreadsheet.Proofs.NumberGrammar

namespace Spreadsheet

-- A power of a natural number is core's, whatever other instances are in scope.
attribute [local instance (high)] instPowNat

/-- Whether the character stands in the exponent of a number, its mark included. -/
def inExponent (c : Char) : Bool :=
  c.isDigit || c == '+' || c == '-' || c == 'e' || c == 'E'

namespace Numeral

/-- What an exponent is written with. -/
theorem SpellsExponent.inExponent_of_mem {k : Int} {tail : Text}
    (h : SpellsExponent k tail) {c : Char} (hc : c ∈ tail) : inExponent c = true := by
  have hmarks : ∀ mark ∈ ['e', 'E'], inExponent mark = true :=
    List.all_iff_forall_prop.mp (by decide)
  have hdigits : ∀ {digits : Text} {n : Nat}, digits.Writes n → c ∈ digits →
      inExponent c = true := by
    intro digits n hwrites hmem
    simp [inExponent, hwrites.isDigit c hmem]
  cases h with
  | none => cases hc
  | unsigned hmark hwrites =>
    rcases List.mem_cons.mp hc with rfl | hmem
    · exact hmarks c hmark
    · exact hdigits hwrites hmem
  | plus hmark hwrites =>
    rcases List.mem_cons.mp hc with rfl | hmem
    · exact hmarks c hmark
    · rcases List.mem_cons.mp hmem with rfl | hmem
      · rfl
      · exact hdigits hwrites hmem
  | minus hmark hwrites =>
    rcases List.mem_cons.mp hc with rfl | hmem
    · exact hmarks c hmark
    · rcases List.mem_cons.mp hmem with rfl | hmem
      · rfl
      · exact hdigits hwrites hmem

/-- Digits are no numeral with what follows them when that starts with a character that
continues none. -/
theorem ofUnsigned?_eq_none {point : Char} {groups : Char → Bool} {negative : Bool}
    {first c : Char} {marks rest : Text} (hfirst : first.isDigit = true)
    (hmarks : ∀ d ∈ marks, d.isDigit = true) (hc : groups c = false) (hpoint : c ≠ point)
    (hexponent : inExponent c = false ∨ c = '-') :
    ofUnsigned? point groups negative (first :: marks ++ c :: rest) = none := by
  have hdigit : c.isDigit = false := by
    rcases hexponent with h | rfl
    · simp only [inExponent, Bool.or_eq_false_iff] at h
      exact h.1.1.1.1
    · rfl
  have hmark : ¬(c = 'e' ∨ c = 'E') := by
    rintro (rfl | rfl) <;> simp [inExponent] at hexponent
  have hdigits : ∀ d ∈ marks, (d.isDigit || groups d) = true :=
    fun d hd => by rw [hmarks d hd, Bool.true_or]
  have hwhole :=
    Locale.wholePart_append_of_digits (c :: rest) hfirst hdigits (by simp [hdigit, hc])
  rw [ofUnsigned?, hwhole]
  simp [fractionPart, hpoint, tail?, hmark]

end Numeral

namespace Locale

/-! ### The characters of the parts -/

section Parts

variable {locale : Locale}

theorem SpellsSign.eq_of_mem {negative : Bool} {sign : Text} (h : locale.SpellsSign negative sign)
    {c : Char} (hc : c ∈ sign) : c = '+' ∨ c = '-' ∨ c ∈ locale.negativeSign := by
  cases h with
  | none => cases hc
  | plus => exact Or.inl (List.mem_singleton.mp hc)
  | minus => exact Or.inr (Or.inl (List.mem_singleton.mp hc))
  | own => exact Or.inr (Or.inr hc)

/-- What the integer part and the fraction are written with. -/
theorem eq_of_mem_unsigned {whole integer digits fraction : Text}
    (hinteger : locale.SpellsInteger whole integer)
    (hfraction : locale.SpellsFraction digits fraction) {c : Char} (hc : c ∈ integer ++ fraction) :
    c.isDigit = true ∨ c = locale.groupSeparator ∨ c = locale.decimalSeparator := by
  rcases List.mem_append.mp hc with hmem | hmem
  · cases hinteger with
    | none => cases hmem
    | digits hfirst hmarks =>
      rcases List.mem_cons.mp hmem with rfl | hmem
      · exact Or.inl hfirst
      · exact (hmarks c hmem).imp_right Or.inl
  · cases hfraction with
    | none => cases hmem
    | point hdigits =>
      rcases List.mem_cons.mp hmem with rfl | hmem
      · exact Or.inr (Or.inr rfl)
      · exact Or.inl (hdigits c hmem)

/-- What a number without a sign is written with. -/
theorem mem_unsigned {whole integer digits fraction tail : Text} {k : Int}
    (hinteger : locale.SpellsInteger whole integer)
    (hfraction : locale.SpellsFraction digits fraction) (htail : Numeral.SpellsExponent k tail)
    {c : Char} (hc : c ∈ integer ++ (fraction ++ tail)) :
    c = locale.groupSeparator ∨ c = locale.decimalSeparator ∨ inExponent c = true := by
  rw [← List.append_assoc] at hc
  rcases List.mem_append.mp hc with hmem | hmem
  · rcases eq_of_mem_unsigned hinteger hfraction hmem with hdigit | hgroup | hpoint
    · exact Or.inr (Or.inr (by simp [inExponent, hdigit]))
    · exact Or.inl hgroup
    · exact Or.inr (Or.inl hpoint)
  · exact Or.inr (Or.inr (htail.inExponent_of_mem hmem))

end Parts

/-! ### The characters of a number -/

/-- Whether numbers of the locale are written with the character. -/
def writesNumbersWith (locale : Locale) (c : Char) : Bool :=
  isBlank c || inExponent c || c == locale.decimalSeparator || c == locale.groupSeparator ||
    locale.negativeSign.contains c

/-- **What a number is written with.** -/
theorem mem_of_readNumber? {locale : Locale} {text : Text} {x : Binary64}
    (h : locale.readNumber? text = some x) {c : Char} (hc : c ∈ text) :
    locale.writesNumbersWith c = true := by
  obtain ⟨hread, -⟩ := Option.filter_eq_some_iff.mp h
  obtain ⟨numeral, hnumeral, -⟩ := Option.map_eq_some_iff.mp hread
  have hspells := spells_of_numeral? hnumeral
  simp only [writesNumbersWith, Bool.or_eq_true, beq_iff_eq, List.contains_iff_mem]
  rcases Text.isBlank_or_mem_trim hc with hblank | htrim
  · simp [hblank]
  · generalize text.trim = trimmed at hspells htrim
    cases hspells with
    | parts hsign hinteger hfraction htail _ =>
      rcases List.mem_append.mp htrim with hmem | hmem
      · rcases hsign.eq_of_mem hmem with rfl | rfl | hown
        · simp [inExponent]
        · simp [inExponent]
        · simp [hown]
      · rcases mem_unsigned hinteger hfraction htail hmem with hgroup | hpoint | hexponent
        · simp [hgroup]
        · simp [hpoint]
        · simp [hexponent]

/-- **What a number starts with**: a blank, a sign, a digit, or the separator of the
decimals. -/
theorem head_of_readNumber? {locale : Locale} {c : Char} {rest : Text} {x : Binary64}
    (h : locale.readNumber? (c :: rest) = some x) :
    isBlank c = true ∨ c = '+' ∨ c = '-' ∨ locale.negativeSign.head? = some c ∨
      c.isDigit = true ∨ c = locale.decimalSeparator := by
  obtain ⟨hread, -⟩ := Option.filter_eq_some_iff.mp h
  obtain ⟨numeral, hnumeral, -⟩ := Option.map_eq_some_iff.mp hread
  have hspells := spells_of_numeral? hnumeral
  cases hblank : isBlank c with
  | true => exact Or.inl rfl
  | false =>
    rw [Text.trim_cons hblank] at hspells
    right
    generalize htrimmed : c :: Text.trimEnd rest = trimmed at hspells
    cases hspells with
    | @parts _ _ _ _ _ _ tail _ hsign hinteger hfraction _ hne =>
      obtain ⟨first, others, hunsigned, hfirst⟩ := exists_first_unsigned tail hinteger hfraction hne
      rw [hunsigned] at htrimmed
      cases hsign with
      | none =>
        obtain rfl : c = first := List.head_eq_of_cons_eq htrimmed
        exact Or.inr (Or.inr (Or.inr hfirst))
      | plus => exact Or.inl (List.head_eq_of_cons_eq htrimmed)
      | minus => exact Or.inr (Or.inl (List.head_eq_of_cons_eq htrimmed))
      | own =>
        right; right
        cases hown : locale.negativeSign with
        | nil =>
          rw [hown, List.nil_append] at htrimmed
          obtain rfl : c = first := List.head_eq_of_cons_eq htrimmed
          exact Or.inr hfirst
        | cons sign signs =>
          rw [hown, List.cons_append] at htrimmed
          exact Or.inl (by rw [List.head?_cons, List.head_eq_of_cons_eq htrimmed])

/-! ### Texts that start with a digit -/

/-- In the registered locales no sign is a digit. -/
theorem readSign_digit {locale : Locale} (hlocale : locale ∈ registered) {first : Char}
    (hfirst : first.isDigit = true) (rest : Text) :
    locale.readSign (first :: rest) = (false, first :: rest) :=
  readSign_unsigned (distinct_of_registered locale hlocale) rest (Or.inl hfirst)

/-- Digits are no number with what follows them when that starts with a character that
continues none. -/
theorem readNumber?_eq_none {locale : Locale} (hlocale : locale ∈ registered) {digits : Text}
    {n : Nat} (hdigits : digits.Writes n) {c : Char} (rest : Text) (hblank : isBlank c = false)
    (hc : locale.writesNumbersWith c = false ∨ c = '-') :
    locale.readNumber? (digits ++ c :: rest) = none := by
  have hdash : ∀ locale ∈ registered, locale.decimalSeparator ≠ '-' ∧
      locale.groupSeparator ≠ '-' := by decide
  have hmarks : (c == locale.groupSeparator) = false ∧ c ≠ locale.decimalSeparator ∧
      (inExponent c = false ∨ c = '-') := by
    rcases hc with h | rfl
    · simp only [writesNumbersWith, Bool.or_eq_false_iff] at h
      exact ⟨h.1.2, by simpa using h.1.1.2, Or.inl h.1.1.1.2⟩
    · obtain ⟨hpoint, hgroup⟩ := hdash locale hlocale
      exact ⟨by simpa using hgroup.symm, hpoint.symm, Or.inr rfl⟩
  obtain ⟨first, marks, rfl, hfirst⟩ := hdigits.exists_cons
  have htrim : Text.trim (first :: marks ++ c :: rest) =
      first :: marks ++ c :: Text.trimEnd rest := by
    rw [List.cons_append, Text.trim_cons (isDigit_kind hfirst).blank, Text.trimEnd,
      Text.dropTrailing_append_cons hblank]
    rfl
  have hnone : locale.numeral? (first :: marks ++ c :: rest) = none := by
    rw [numeral?, htrim, List.cons_append, readSign_digit hlocale hfirst]
    exact Numeral.ofUnsigned?_eq_none hfirst
      (fun d hd => hdigits.isDigit d (List.mem_cons_of_mem _ hd)) hmarks.1 hmarks.2.1 hmarks.2.2
  rw [readNumber?, hnone]
  rfl

/-- **Digits with group separators among them are the number of the digits.** -/
theorem readNumber?_grouped {locale : Locale} (hlocale : locale ∈ registered) {first : Char}
    {marks : Text} {n : Nat} (hfirst : first.isDigit = true)
    (hmarks : ∀ c ∈ marks, c.isDigit = true ∨ c = locale.groupSeparator)
    (hvisible : ∀ c ∈ marks, isBlank c = false)
    (hwrites : Text.Writes ((first :: marks).filter Char.isDigit) n) (hn : n < 2 ^ 53) :
    ∃ x, locale.readNumber? (first :: marks) = some x ∧ x.isFinite = true ∧ x.toRat = n := by
  obtain ⟨hfinite, hvalue⟩ := Numeral.toRat_toBinary64 hwrites hn
  have htrim : Text.trim (first :: marks) = first :: marks :=
    Text.trim_of_visible (List.forall_mem_cons.mpr ⟨(isDigit_kind hfirst).blank, hvisible⟩)
  have hspells : locale.Spells ⟨false, (first :: marks).filter Char.isDigit, [], 0⟩
      (Text.trim (first :: marks)) := by
    rw [htrim]
    have hinteger : locale.SpellsInteger ((first :: marks).filter Char.isDigit)
        (first :: marks) := by
      rw [List.filter_cons_of_pos hfirst]
      exact .digits hfirst hmarks
    have hparts := Spells.parts .none hinteger .none .none (Or.inl hwrites.ne_nil)
    rwa [List.append_nil, List.append_nil, List.nil_append] at hparts
  have hnumeral := (numeral?_eq_some_iff (distinct_of_registered locale hlocale)).mpr hspells
  refine ⟨_, ?_, hfinite, hvalue⟩
  rw [readNumber?, hnumeral, Option.map_some, Option.filter_some, if_pos hfinite]

end Locale

end Spreadsheet
