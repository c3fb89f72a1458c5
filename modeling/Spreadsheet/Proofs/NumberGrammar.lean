/-
# The grammar of numbers

What a text has to look like to be a number in a locale, written down as a grammar that does
not mention the reader: a sign, an integer part with group separators, a fraction and an
exponent, each of which may be missing, but not all digits. In every registered locale the
reader finds exactly the numerals of the grammar, and rounds the number they denote.

* `Numeral.tail?_eq_some_iff`, `Numeral.ofUnsigned?_eq_some_iff`, `Locale.numeral?_eq_some_iff`
  — the exponent, the number without its sign, and the whole text are read exactly as the
  grammar says.
* `Locale.readNumber?_spells` — which texts are numbers, and which number each of them is.
-/

import Mathlib.Data.Bool.AllAny
import Spreadsheet.Locale.Number
import Spreadsheet.Proofs.NumeralRounding
import Spreadsheet.Proofs.WrittenNumber

namespace Spreadsheet

-- A power of a natural number is core's, whatever other instances are in scope.
attribute [local instance (high)] instPowNat

/-! ### The grammar -/

/-- An exponent: nothing, or its mark, a sign if there is one, and digits. -/
inductive Numeral.SpellsExponent : Int → Text → Prop where
  | none : SpellsExponent 0 []
  | unsigned {mark : Char} {digits : Text} {n : Nat} :
      mark ∈ ['e', 'E'] → digits.Writes n → SpellsExponent n (mark :: digits)
  | plus {mark : Char} {digits : Text} {n : Nat} :
      mark ∈ ['e', 'E'] → digits.Writes n → SpellsExponent n (mark :: '+' :: digits)
  | minus {mark : Char} {digits : Text} {n : Nat} :
      mark ∈ ['e', 'E'] → digits.Writes n → SpellsExponent (-n) (mark :: '-' :: digits)

namespace Locale

/-- A sign, if there is one, and whether it makes the number negative. -/
inductive SpellsSign (locale : Locale) : Bool → Text → Prop where
  | none : SpellsSign locale false []
  | plus : SpellsSign locale false ['+']
  | minus : SpellsSign locale true ['-']
  | own : SpellsSign locale true locale.negativeSign

/-- The digits of an integer part, and its text: nothing, or a digit and after it digits and
group separators. -/
inductive SpellsInteger (locale : Locale) : Text → Text → Prop where
  | none : SpellsInteger locale [] []
  | digits {first : Char} {marks : Text} :
      first.isDigit = true → (∀ c ∈ marks, c.isDigit = true ∨ c = locale.groupSeparator) →
      SpellsInteger locale (first :: marks.filter Char.isDigit) (first :: marks)

/-- The digits of a fraction, and its text: nothing, or the separator of the decimals and
after it digits, if any. -/
inductive SpellsFraction (locale : Locale) : Text → Text → Prop where
  | none : SpellsFraction locale [] []
  | point {digits : Text} :
      (∀ c ∈ digits, c.isDigit = true) →
      SpellsFraction locale digits (locale.decimalSeparator :: digits)

/-- A numeral and its text: a sign, an integer part, a fraction and an exponent, with a digit
in front of the exponent. -/
inductive Spells (locale : Locale) : Numeral → Text → Prop where
  | parts {negative : Bool} {sign whole integer digits fraction tail : Text} {k : Int} :
      locale.SpellsSign negative sign → locale.SpellsInteger whole integer →
      locale.SpellsFraction digits fraction → Numeral.SpellsExponent k tail →
      whole ≠ [] ∨ digits ≠ [] →
      Spells locale ⟨negative, whole, digits, k⟩ (sign ++ (integer ++ (fraction ++ tail)))

end Locale

/-! ### Exponents -/

namespace Numeral

/-- Written digits are read as an exponent. -/
theorem exponent?_writes {digits : Text} {n : Nat} (h : digits.Writes n) :
    exponent? digits = some (n : Int) := by
  have hall : digits ≠ [] ∧ digits.all Char.isDigit = true :=
    ⟨h.ne_nil, List.all_eq_true.mpr h.isDigit⟩
  have hvalue := h.value
  obtain ⟨first, rest, rfl, hfirst⟩ := h.exists_cons
  unfold exponent?
  dsimp only
  split
  · rename_i heq
    rw [List.head_eq_of_cons_eq heq] at hfirst
    cases hfirst
  · rename_i heq
    rw [List.head_eq_of_cons_eq heq] at hfirst
    cases hfirst
  · rw [if_pos hall, hvalue]

theorem exponent?_plus {digits : Text} {n : Nat} (h : digits.Writes n) :
    exponent? ('+' :: digits) = some (n : Int) := by
  have hall : digits ≠ [] ∧ digits.all Char.isDigit = true :=
    ⟨h.ne_nil, List.all_eq_true.mpr h.isDigit⟩
  rw [exponent?]
  dsimp only
  rw [if_pos hall, h.value]

theorem exponent?_minus {digits : Text} {n : Nat} (h : digits.Writes n) :
    exponent? ('-' :: digits) = some (-(n : Int)) := by
  have hall : digits ≠ [] ∧ digits.all Char.isDigit = true :=
    ⟨h.ne_nil, List.all_eq_true.mpr h.isDigit⟩
  rw [exponent?]
  dsimp only
  rw [if_pos hall, h.value, Option.map_some]

/-- What is read as an exponent is written digits, with a sign or without one. -/
theorem exponent?_cases {text : Text} {k : Int} (h : exponent? text = some k) :
    ∃ (digits : Text) (n : Nat), digits.Writes n ∧
      (text = digits ∧ k = n ∨ text = '+' :: digits ∧ k = n ∨ text = '-' :: digits ∧ k = -n) := by
  have hwrites : ∀ digits : Text, digits ≠ [] ∧ digits.all Char.isDigit = true →
      digits.Writes (Nat.ofDigitChars 10 digits 0) :=
    fun digits hdigits => ⟨hdigits.1, List.all_eq_true.mp hdigits.2, rfl⟩
  unfold exponent? at h
  dsimp only at h
  split at h
  · rename_i digits
    split at h
    · rename_i hdigits
      exact ⟨digits, _, hwrites digits hdigits, Or.inr (Or.inl ⟨rfl, (Option.some.inj h).symm⟩)⟩
    · cases h
  · rename_i digits
    split at h
    · rename_i hdigits
      exact ⟨digits, _, hwrites digits hdigits, Or.inr (Or.inr ⟨rfl, (Option.some.inj h).symm⟩)⟩
    · cases h
  · split at h
    · rename_i hdigits
      exact ⟨text, _, hwrites text hdigits, Or.inl ⟨rfl, (Option.some.inj h).symm⟩⟩
    · cases h

/-- **The rest of a numeral is read as the exponent that it spells.** -/
theorem tail?_eq_some_iff {tail : Text} {k : Int} :
    tail? tail = some k ↔ SpellsExponent k tail := by
  constructor
  · intro h
    cases tail with
    | nil =>
      obtain rfl := Option.some.inj h
      exact .none
    | cons mark rest =>
      rw [tail?] at h
      split at h
      · rename_i hmark
        have hmark : mark ∈ ['e', 'E'] := by simpa using hmark
        obtain ⟨digits, n, hdigits, ⟨rfl, rfl⟩ | ⟨rfl, rfl⟩ | ⟨rfl, rfl⟩⟩ := exponent?_cases h
        · exact .unsigned hmark hdigits
        · exact .plus hmark hdigits
        · exact .minus hmark hdigits
      · cases h
  · intro h
    have hread : ∀ {mark : Char} (rest : Text), mark ∈ ['e', 'E'] →
        tail? (mark :: rest) = exponent? rest := by
      intro mark rest hmark
      rw [tail?, if_pos (by simpa using hmark)]
    cases h with
    | none => rfl
    | unsigned hmark hdigits => rw [hread _ hmark, exponent?_writes hdigits]
    | plus hmark hdigits => rw [hread _ hmark, exponent?_plus hdigits]
    | minus hmark hdigits => rw [hread _ hmark, exponent?_minus hdigits]

/-- An exponent with the sign that it needs, or with a plus sign. -/
theorem spellsExponent_signed {mark : Char} {digits : Text} {k : Int} (plus : Bool)
    (hmark : mark ∈ ['e', 'E']) (hdigits : digits.Writes k.natAbs) :
    SpellsExponent k
      (mark :: ((if k < 0 then ['-'] else if plus then ['+'] else []) ++ digits)) := by
  by_cases hneg : k < 0
  · have hk : k = -(k.natAbs : Int) := by omega
    rw [if_pos hneg]
    conv => arg 1; rw [hk]
    exact .minus hmark hdigits
  · have hk : k = (k.natAbs : Int) := by omega
    rw [if_neg hneg]
    conv => arg 1; rw [hk]
    cases plus with
    | true => exact .plus hmark hdigits
    | false => exact .unsigned hmark hdigits

/-- An exponent starts with its mark. -/
theorem SpellsExponent.mem_head? {k : Int} {tail : Text} (h : SpellsExponent k tail) :
    ∀ c ∈ tail.head?, c ∈ ['e', 'E'] := by
  intro c hc
  cases h with
  | none => cases hc
  | unsigned hmark _ =>
    obtain rfl := Option.some.inj hc
    exact hmark
  | plus hmark _ =>
    obtain rfl := Option.some.inj hc
    exact hmark
  | minus hmark _ =>
    obtain rfl := Option.some.inj hc
    exact hmark

/-- So it does not start with a digit. -/
theorem SpellsExponent.not_isDigit_head? {k : Int} {tail : Text} (h : SpellsExponent k tail) :
    ∀ c ∈ tail.head?, c.isDigit = false := by
  have hmarks : ∀ mark ∈ ['e', 'E'], mark.isDigit = false :=
    List.all_iff_forall_prop.mp (by decide)
  exact fun c hc => hmarks c (h.mem_head? c hc)

end Numeral

namespace Locale

/-! ### Separators and signs -/

/-- The separators and the sign of the locale are told apart from digits, from blanks,
and from the mark of an exponent. -/
structure Distinct (locale : Locale) : Prop where
  point_digit : locale.decimalSeparator.isDigit = false
  point_blank : isBlank locale.decimalSeparator = false
  point_group : locale.decimalSeparator ≠ locale.groupSeparator
  point_sign : locale.decimalSeparator ∉ ['+', '-', '\u2212']
  point_mark : locale.decimalSeparator ∉ ['e', 'E']
  group_digit : locale.groupSeparator.isDigit = false
  group_mark : locale.groupSeparator ∉ ['e', 'E']
  sign : locale.negativeSign = ['-'] ∨ locale.negativeSign = ['\u2212']

theorem distinct_of_registered : ∀ locale ∈ registered, locale.Distinct := by
  have hfacts : ∀ locale ∈ registered,
      locale.decimalSeparator.isDigit = false ∧ isBlank locale.decimalSeparator = false ∧
        locale.decimalSeparator ≠ locale.groupSeparator ∧
        locale.decimalSeparator ∉ ['+', '-', '\u2212'] ∧
        locale.decimalSeparator ∉ ['e', 'E'] ∧
        locale.groupSeparator.isDigit = false ∧ locale.groupSeparator ∉ ['e', 'E'] ∧
        (locale.negativeSign = ['-'] ∨ locale.negativeSign = ['\u2212']) := by
    decide
  intro locale hlocale
  obtain ⟨point_digit, point_blank, point_group, point_sign, point_mark, group_digit, group_mark,
    sign⟩ := hfacts locale hlocale
  exact { point_digit, point_blank, point_group, point_sign, point_mark, group_digit, group_mark,
          sign }

/-! ### Numbers without a sign -/

section Unsigned

variable {locale : Locale}

/-- What is read before the point is an integer part. -/
theorem spellsInteger_wholePart (locale : Locale) (text : Text) :
    locale.SpellsInteger
        ((Numeral.wholePart (· == locale.groupSeparator) text).1.filter Char.isDigit)
        (Numeral.wholePart (· == locale.groupSeparator) text).1 ∧
      text = (Numeral.wholePart (· == locale.groupSeparator) text).1 ++
        (Numeral.wholePart (· == locale.groupSeparator) text).2 := by
  unfold Numeral.wholePart
  split
  · rename_i hhead
    obtain ⟨first, rest, rfl, hfirst⟩ := Text.exists_cons_of_head? hhead
    constructor
    · rw [List.takeWhile_cons_of_pos (by simp [hfirst]), List.filter_cons_of_pos hfirst]
      apply SpellsInteger.digits hfirst
      intro c hc
      simpa using List.mem_takeWhile_imp hc
    · rw [List.takeWhile_append_dropWhile]
  · exact ⟨.none, rfl⟩

/-- What is read after the point is a fraction. -/
theorem exists_spellsFraction (locale : Locale) (text : Text) :
    ∃ fraction, locale.SpellsFraction
        (Numeral.fractionPart locale.decimalSeparator text).1 fraction ∧
      text = fraction ++ (Numeral.fractionPart locale.decimalSeparator text).2 := by
  cases text with
  | nil => exact ⟨[], .none, rfl⟩
  | cons first rest =>
    rw [Numeral.fractionPart]
    split
    · rename_i hpoint
      refine ⟨first :: rest.takeWhile Char.isDigit, ?_, ?_⟩
      · rw [hpoint]
        exact .point fun c hc => List.mem_takeWhile_imp hc
      · rw [List.cons_append, List.takeWhile_append_dropWhile]
    · exact ⟨[], .none, rfl⟩

/-- An integer part is empty exactly when it has no digits. -/
theorem SpellsInteger.eq_nil_iff {whole integer : Text} (h : locale.SpellsInteger whole integer) :
    integer = [] ↔ whole = [] := by
  cases h with
  | none => simp
  | digits => simp

/-- The parts of a number have no digit when both of them are empty. -/
theorem SpellsInteger.isEmpty_iff {whole integer digits : Text}
    (h : locale.SpellsInteger whole integer) :
    (integer.isEmpty && digits.isEmpty) = true ↔ ¬(whole ≠ [] ∨ digits ≠ []) := by
  rw [Bool.and_eq_true, List.isEmpty_iff, List.isEmpty_iff, h.eq_nil_iff, not_or, not_not, not_not]

/-- The digits of an integer part are what is left of it without the separators. -/
theorem SpellsInteger.filter_eq {whole integer : Text} (h : locale.SpellsInteger whole integer) :
    integer.filter Char.isDigit = whole := by
  cases h with
  | none => rfl
  | digits hfirst _ => rw [List.filter_cons_of_pos hfirst]

/-- A numeral that is read has the parts of the grammar. -/
theorem exists_spells_unsigned {negative : Bool} {text : Text} {numeral : Numeral}
    (h : Numeral.ofUnsigned? locale.decimalSeparator (· == locale.groupSeparator) negative text =
      some numeral) :
    ∃ whole integer digits fraction tail k, locale.SpellsInteger whole integer ∧
      locale.SpellsFraction digits fraction ∧ Numeral.SpellsExponent k tail ∧
      (whole ≠ [] ∨ digits ≠ []) ∧ text = integer ++ (fraction ++ tail) ∧
      numeral = ⟨negative, whole, digits, k⟩ := by
  obtain ⟨hinteger, htext⟩ := spellsInteger_wholePart locale text
  obtain ⟨fraction, hfraction, hrest⟩ := exists_spellsFraction locale
    (Numeral.wholePart (· == locale.groupSeparator) text).2
  unfold Numeral.ofUnsigned? at h
  dsimp only at h
  split at h
  · cases h
  · rename_i hne
    obtain ⟨k, htail, rfl⟩ := Option.map_eq_some_iff.mp h
    rw [hinteger.isEmpty_iff, not_not] at hne
    refine ⟨_, _, _, _, _, k, hinteger, hfraction, Numeral.tail?_eq_some_iff.mp htail, hne, ?_,
      rfl⟩
    rw [← hrest]
    exact htext

/-- Digits and group marks after a first digit are the digits before the point. -/
theorem wholePart_append_of_digits {groups : Char → Bool} {first : Char} {marks : Text}
    (rest : Text) (hfirst : first.isDigit = true)
    (hmarks : ∀ c ∈ marks, (c.isDigit || groups c) = true)
    (hrest : rest.head?.all (fun c => !(c.isDigit || groups c)) = true) :
    Numeral.wholePart groups (first :: marks ++ rest) = (first :: marks, rest) := by
  have hall : ∀ c ∈ first :: marks, (c.isDigit || groups c) = true := by
    rw [List.forall_mem_cons]
    exact ⟨by rw [hfirst, Bool.true_or], hmarks⟩
  have hstop : ∀ c ∈ rest.head?, (c.isDigit || groups c) = false := by
    rw [Option.all_eq_true] at hrest
    exact fun c hc => by simpa using hrest c hc
  obtain ⟨htake, hdrop⟩ := Text.leadingRun_append hall hstop
  rw [Numeral.wholePart, if_pos (by simp [hfirst]), htake, hdrop]

/-- An integer part ends where the fraction or the exponent starts. -/
theorem SpellsInteger.wholePart_append {whole integer rest : Text}
    (h : locale.SpellsInteger whole integer)
    (hrest : ∀ c ∈ rest.head?, c.isDigit = false ∧ c ≠ locale.groupSeparator) :
    Numeral.wholePart (· == locale.groupSeparator) (integer ++ rest) = (integer, rest) := by
  cases h with
  | none =>
    cases rest with
    | nil => rfl
    | cons c rest =>
      rw [List.nil_append, Numeral.wholePart, if_neg]
      simp [(hrest c rfl).1]
  | digits hfirst hmarks =>
    apply wholePart_append_of_digits rest hfirst
    · intro c hc
      simpa using hmarks c hc
    · rw [Option.all_eq_true]
      intro c hc
      simp [hrest c hc]

variable (hlocale : locale.Distinct)
include hlocale

/-- A fraction and an exponent start with the separator of the decimals or with the mark of the
exponent, neither of which belongs to an integer part. -/
theorem SpellsFraction.head?_append {digits fraction tail : Text} {k : Int}
    (hfraction : locale.SpellsFraction digits fraction) (htail : Numeral.SpellsExponent k tail) :
    ∀ c ∈ (fraction ++ tail).head?, c.isDigit = false ∧ c ≠ locale.groupSeparator := by
  intro c hc
  cases hfraction with
  | none =>
    exact ⟨htail.not_isDigit_head? c hc,
      ne_of_mem_of_not_mem (htail.mem_head? c hc) hlocale.group_mark⟩
  | point =>
    obtain rfl := Option.some.inj hc
    exact ⟨hlocale.point_digit, hlocale.point_group⟩

/-- A fraction ends where the exponent starts. -/
theorem SpellsFraction.fractionPart_append {digits fraction tail : Text} {k : Int}
    (hfraction : locale.SpellsFraction digits fraction) (htail : Numeral.SpellsExponent k tail) :
    Numeral.fractionPart locale.decimalSeparator (fraction ++ tail) = (digits, tail) := by
  have hhead := htail.mem_head?
  have hdigit := htail.not_isDigit_head?
  clear htail
  cases hfraction with
  | none =>
    cases tail with
    | nil => rfl
    | cons c tail =>
      have hpoint := ne_of_mem_of_not_mem (hhead c rfl) hlocale.point_mark
      rw [List.nil_append, Numeral.fractionPart, if_neg hpoint]
  | point hdigits =>
    obtain ⟨htake, hdrop⟩ := Text.leadingRun_append hdigits hdigit
    rw [List.cons_append, Numeral.fractionPart, if_pos rfl, htake, hdrop]

/-- **A number without a sign is read exactly in the parts of the grammar.** -/
theorem ofUnsigned?_eq_some_iff {negative : Bool} {text : Text} {numeral : Numeral} :
    Numeral.ofUnsigned? locale.decimalSeparator (· == locale.groupSeparator) negative text =
        some numeral ↔
      ∃ whole integer digits fraction tail k, locale.SpellsInteger whole integer ∧
        locale.SpellsFraction digits fraction ∧ Numeral.SpellsExponent k tail ∧
        (whole ≠ [] ∨ digits ≠ []) ∧ text = integer ++ (fraction ++ tail) ∧
        numeral = ⟨negative, whole, digits, k⟩ := by
  refine ⟨exists_spells_unsigned, ?_⟩
  rintro ⟨whole, integer, digits, fraction, tail, k, hinteger, hfraction, htail, hne, rfl, rfl⟩
  have hwhole := hinteger.wholePart_append (hfraction.head?_append hlocale htail)
  have hsome : ¬((integer.isEmpty && digits.isEmpty) = true) := by
    rwa [hinteger.isEmpty_iff, not_not]
  rw [Numeral.ofUnsigned?]
  simp only [hwhole, hfraction.fractionPart_append hlocale htail]
  rw [if_neg hsome, Numeral.tail?_eq_some_iff.mpr htail, hinteger.filter_eq, Option.map_some]

end Unsigned

/-- A number without a sign starts with a digit or with the separator of the decimals. -/
theorem exists_first_unsigned {locale : Locale} {whole integer digits fraction : Text} (tail : Text)
    (hinteger : locale.SpellsInteger whole integer)
    (hfraction : locale.SpellsFraction digits fraction) (hne : whole ≠ [] ∨ digits ≠ []) :
    ∃ first rest, integer ++ (fraction ++ tail) = first :: rest ∧
      (first.isDigit = true ∨ first = locale.decimalSeparator) := by
  cases hinteger with
  | digits hfirst => exact ⟨_, _, rfl, Or.inl hfirst⟩
  | none =>
    cases hfraction with
    | none => simp at hne
    | point => exact ⟨_, _, rfl, Or.inr rfl⟩

/-! ### Signs -/

/-- A text that starts with a digit or with the separator of the decimals has no sign. -/
theorem readSign_unsigned {locale : Locale} (hlocale : locale.Distinct) {first : Char}
    (rest : Text) (h : first.isDigit = true ∨ first = locale.decimalSeparator) :
    locale.readSign (first :: rest) = (false, first :: rest) := by
  have hsigns : first ∉ ['+', '-', '\u2212'] := by
    rcases h with hdigit | rfl
    · intro hmem
      have hplain : ['+', '-', '\u2212'].all (fun sign => !sign.isDigit) = true := by decide
      simpa [hdigit] using List.all_eq_true.mp hplain first hmem
    · exact hlocale.point_sign
  obtain ⟨hplus, hminus, hother⟩ : first ≠ '+' ∧ first ≠ '-' ∧ first ≠ '\u2212' := by
    simpa using hsigns
  have hnegative : Text.afterLeading? locale.negativeSign (first :: rest) = none := by
    rcases hlocale.sign with hsign | hsign
    · simp [hsign, Text.afterLeading?, hminus.symm]
    · simp [hsign, Text.afterLeading?, hother.symm]
  unfold readSign
  split
  · rename_i heq
    exact absurd (List.head_eq_of_cons_eq heq) hplus
  · rename_i heq
    exact absurd (List.head_eq_of_cons_eq heq) hminus
  · rw [hnegative]

/-- What is taken off the front of a number is a sign. -/
theorem exists_spellsSign (locale : Locale) (text : Text) :
    ∃ sign, locale.SpellsSign (locale.readSign text).1 sign ∧
      text = sign ++ (locale.readSign text).2 := by
  unfold readSign
  split
  · exact ⟨['+'], .plus, rfl⟩
  · exact ⟨['-'], .minus, rfl⟩
  · split
    · rename_i rest hsign
      exact ⟨locale.negativeSign, .own, Text.afterLeading?_eq_some_iff.mp hsign⟩
    · exact ⟨[], .none, rfl⟩

/-- The negative sign of the locale is read as one. -/
theorem readSign_negativeSign {locale : Locale} (hlocale : locale.Distinct) (rest : Text) :
    locale.readSign (locale.negativeSign ++ rest) = (true, rest) := by
  rcases hlocale.sign with hsign | hsign
  · rw [hsign]
    rfl
  · simp [hsign, readSign, Text.afterLeading?]

/-- A sign is told apart from what may follow it, a digit or the separator of the decimals. -/
theorem SpellsSign.readSign_append {locale : Locale} (hlocale : locale.Distinct) {negative : Bool}
    {sign : Text} (h : locale.SpellsSign negative sign) {first : Char} (rest : Text)
    (hfirst : first.isDigit = true ∨ first = locale.decimalSeparator) :
    locale.readSign (sign ++ first :: rest) = (negative, first :: rest) := by
  cases h with
  | none => exact readSign_unsigned hlocale rest hfirst
  | plus => rfl
  | minus => rfl
  | own => exact readSign_negativeSign hlocale _

/-! ### Whole texts -/

variable {locale : Locale} {text : Text}

/-- A numeral that is read from a text is spelled there. -/
theorem spells_of_numeral? {numeral : Numeral} (h : locale.numeral? text = some numeral) :
    locale.Spells numeral text.trim := by
  rw [numeral?] at h
  generalize text.trim = trimmed at h
  obtain ⟨sign, hsign, htext⟩ := exists_spellsSign locale trimmed
  generalize locale.readSign trimmed = parts at h hsign htext
  obtain ⟨negative, unsigned⟩ := parts
  obtain ⟨whole, integer, digits, fraction, tail, k, hinteger, hfraction, htail, hne, hunsigned,
    hnumeral⟩ := exists_spells_unsigned h
  rw [htext, hunsigned, hnumeral]
  exact .parts hsign hinteger hfraction htail hne

/-- **The numerals that are read are those that the grammar has.** -/
theorem numeral?_eq_some_iff (hlocale : locale.Distinct) {numeral : Numeral} :
    locale.numeral? text = some numeral ↔ locale.Spells numeral text.trim := by
  refine ⟨spells_of_numeral?, ?_⟩
  rw [numeral?]
  generalize text.trim = trimmed
  intro h
  cases h with
  | @parts negative sign whole integer digits fraction tail k hsign hinteger hfraction htail
      hne =>
    obtain ⟨first, rest, hcons, hfirst⟩ := exists_first_unsigned tail hinteger hfraction hne
    have hread : Numeral.ofUnsigned? locale.decimalSeparator (· == locale.groupSeparator) negative
        (integer ++ (fraction ++ tail)) = some ⟨negative, whole, digits, k⟩ :=
      (ofUnsigned?_eq_some_iff hlocale).mpr
        ⟨_, _, _, _, _, _, hinteger, hfraction, htail, hne, rfl, rfl⟩
    rw [hcons] at hread ⊢
    rw [hsign.readSign_append hlocale rest hfirst]
    exact hread

/-- **Which texts are numbers, and which number each of them is.** A text is a number exactly
when, without the blanks around it, it is spelled as the grammar says and the number that it
denotes is rounded to a finite one; and it is that number, which is the nearest one. A zero
keeps the sign it is written with. -/
theorem readNumber?_spells (hlocale : locale ∈ registered) (text : Text) :
    (∀ y, locale.readNumber? text = some y ↔
      ∃ numeral, locale.Spells numeral text.trim ∧
        (Binary64.ofRat numeral.toRat).isFinite = true ∧
        y = if numeral.toRat = 0 then .zero numeral.negative else .ofRat numeral.toRat) ∧
    ∀ numeral y, locale.Spells numeral text.trim → locale.readNumber? text = some y →
      y.IsNearest numeral.toRat := by
  have hdistinct := distinct_of_registered locale hlocale
  constructor
  · intro y
    rw [readNumber?, Option.filter_eq_some_iff]
    constructor
    · rintro ⟨hread, hfinite⟩
      obtain ⟨numeral, hnumeral, rfl⟩ := Option.map_eq_some_iff.mp hread
      rw [numeral.isFinite_toBinary64] at hfinite
      exact ⟨numeral, (numeral?_eq_some_iff hdistinct).mp hnumeral, hfinite,
        numeral.toBinary64_eq⟩
    · rintro ⟨numeral, hspells, hfinite, rfl⟩
      rw [← numeral.toBinary64_eq, (numeral?_eq_some_iff hdistinct).mpr hspells,
        numeral.isFinite_toBinary64]
      exact ⟨rfl, hfinite⟩
  · intro numeral y hspells hread
    rw [readNumber?, (numeral?_eq_some_iff hdistinct).mpr hspells,
      Option.filter_eq_some_iff] at hread
    obtain ⟨hsome, hfinite⟩ := hread
    obtain rfl := Option.some.inj hsome
    exact Numeral.isNearest_toBinary64 hfinite

/-- Blanks around the number, the sign U+2212, a no-break space among the digits, a comma in
front of the decimals, and an exponent. -/
theorem readNumber?_spells_swedish :
    swedish ∈ registered ∧
      swedish.Spells ⟨true, "1234".toList, "5".toList, 2⟩
        (Text.trim " \u22121\u00a0234,5E+02\u2003".toList) ∧
      swedish.readNumber? " \u22121\u00a0234,5E+02\u2003".toList = some (.ofRat (-123450)) ∧
      (Binary64.ofRat (-123450)).IsNearest (-123450) := by
  have hlocale : swedish ∈ registered := by decide
  have hspells : swedish.Spells ⟨true, "1234".toList, "5".toList, 2⟩
      (Text.trim " \u22121\u00a0234,5E+02\u2003".toList) := by
    have htrim : Text.trim " \u22121\u00a0234,5E+02\u2003".toList = swedish.negativeSign ++
        ('1' :: "\u00a0234".toList ++ ([swedish.decimalSeparator, '5'] ++
          'E' :: '+' :: "02".toList)) := by decide
    have hmarks : ∀ c ∈ "\u00a0234".toList, c.isDigit = true ∨ c = swedish.groupSeparator :=
      List.all_iff_forall_prop.mp (by decide)
    have hdecimals : ∀ c ∈ ['5'], c.isDigit = true := List.all_iff_forall_prop.mp (by decide)
    have hinteger : swedish.SpellsInteger "1234".toList ('1' :: "\u00a0234".toList) :=
      .digits rfl hmarks
    have hfraction : swedish.SpellsFraction ['5'] [swedish.decimalSeparator, '5'] :=
      .point hdecimals
    have hexponent : Numeral.SpellsExponent 2 ('E' :: '+' :: "02".toList) :=
      .plus (by decide) ⟨by decide, List.all_iff_forall_prop.mp (by decide), by decide⟩
    rw [htrim]
    exact .parts .own hinteger hfraction hexponent (Or.inl (List.cons_ne_nil _ _))
  have hvalue : Numeral.toRat ⟨true, "1234".toList, "5".toList, 2⟩ = -123450 := by decide +kernel
  obtain ⟨hread, hnearest⟩ := readNumber?_spells hlocale " \u22121\u00a0234,5E+02\u2003".toList
  have hsome := (hread _).mpr ⟨_, hspells, by rw [hvalue]; decide +kernel, rfl⟩
  have hnear := hnearest _ _ hspells hsome
  rw [hvalue, if_neg (by decide)] at hsome hnear
  exact ⟨hlocale, hspells, hsome, hnear⟩

end Locale

end Spreadsheet
