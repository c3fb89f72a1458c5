/-
# Reading a number from its parts

A number is written as a sign, digits before the point with group separators among
them, the separator of the decimals with digits behind it, and an exponent. In every
registered locale these parts spell a numeral, and the number is read that they denote.

* `Locale.spells_write`, `Locale.numeral?_write` — a written number spells its parts, and they
  are found again.
* `Locale.readNumber?_write` — the number that is read is the rounded value of its parts.
-/

import Spreadsheet.Proofs.DigitValue
import Spreadsheet.Proofs.NumberText

namespace Spreadsheet

-- A power of a natural number is core's, whatever other instances are in scope.
attribute [local instance (high)] instPowNat

/-! ### Texts of digits -/

namespace Digits

theorem isDigit_of_mem_text {digits : List Nat} (h : ∀ digit ∈ digits, digit < 10) {c : Char}
    (hc : c ∈ text digits) : c.isDigit = true := by
  obtain ⟨digit, hdigit, rfl⟩ := List.mem_map.mp hc
  rw [Nat.isDigit_digitChar, decide_eq_true (h digit hdigit)]

/-- The digits are read from their text. -/
theorem ofDigitChars_text {digits : List Nat} (h : ∀ digit ∈ digits, digit < 10) :
    Nat.ofDigitChars 10 (text digits) 0 = value digits := by
  have hback : (text digits).map (fun c => c.toNat - '0'.toNat) = digits := by
    have hdigit : digits.map ((fun c => c.toNat - '0'.toNat) ∘ Nat.digitChar) = digits.map id :=
      List.map_congr_left fun digit hmem => toNat_digitChar (h digit hmem)
    rw [text, List.map_map, hdigit, List.map_id]
  conv => rhs; rw [← hback]
  rw [value, List.foldl_map]
  rfl

end Digits

/-! ### The ends of a text -/

namespace Text

variable {p : Char → Prop} {a b : Text}

theorem forall_head?_append (ha : ∀ c ∈ a.head?, p c) (hb : ∀ c ∈ b.head?, p c) :
    ∀ c ∈ (a ++ b).head?, p c := by
  cases a with
  | nil => exact hb
  | cons c rest => exact ha

theorem forall_getLast?_append (ha : ∀ c ∈ a.getLast?, p c) (hb : ∀ c ∈ b.getLast?, p c) :
    ∀ c ∈ (a ++ b).getLast?, p c := by
  rw [List.getLast?_append]
  cases hlast : b.getLast? with
  | none => exact ha
  | some last =>
    rw [hlast] at hb
    exact hb

/-- A text that starts and ends with visible characters is its own trimming. -/
theorem trim_of_ends {text : Text} (hhead : ∀ c ∈ text.head?, isBlank c = false)
    (hlast : ∀ c ∈ text.getLast?, isBlank c = false) : trim text = text := by
  refine trim_of_head ?_ ?_
  · rw [Option.all_eq_true]
    intro c hc
    rw [hhead c hc, Bool.not_false]
  · cases text using List.reverseRecOn with
    | nil => rfl
    | append_singleton before last => exact dropTrailing_concat (hlast last (by simp)) before

end Text

/-- No character of an exponent is a blank. -/
theorem isBlank_of_inExponent {c : Char} (h : inExponent c = true) : isBlank c = false := by
  simp only [inExponent, Bool.or_eq_true, beq_iff_eq] at h
  rcases h with (((hdigit | rfl) | rfl) | rfl) | rfl
  · exact (isDigit_kind hdigit).blank
  all_goals decide

/-! ### The number that digits denote -/

namespace Numeral

variable {integer fraction : List Nat} (hinteger : ∀ digit ∈ integer, digit < 10)
  (hfraction : ∀ digit ∈ fraction, digit < 10) (negative : Bool) (k : Int)
include hinteger hfraction

theorem coefficient_digits :
    coefficient ⟨negative, Digits.text integer, Digits.text fraction, k⟩ =
      Digits.value (integer ++ fraction) := by
  have htext : Digits.text integer ++ Digits.text fraction = Digits.text (integer ++ fraction) :=
    List.map_append.symm
  rw [coefficient, htext, Digits.ofDigitChars_text]
  intro digit hdigit
  exact (List.mem_append.mp hdigit).elim (hinteger digit) (hfraction digit)

/-- A numeral denotes its digits, counted in the place of the last one. -/
theorem toRat_digits :
    toRat ⟨negative, Digits.text integer, Digits.text fraction, k⟩ =
      (if negative then -1 else 1) *
        ((Digits.value (integer ++ fraction) : Rat) * 10 ^ (k - fraction.length)) := by
  have hplace : place ⟨negative, Digits.text integer, Digits.text fraction, k⟩ =
      k - fraction.length := by
    simp [place, Digits.text]
  rw [toRat_eq, coefficient_digits hinteger hfraction, hplace]

end Numeral

/-! ### Numbers in parts -/

namespace Locale

/-- A number as the locale writes it: a sign, the digits before the point, the
separator when digits follow it, these digits, and an exponent. -/
def write (locale : Locale) (negative : Bool) (whole fraction tail : Text) : Text :=
  (if negative then locale.negativeSign else []) ++
    (whole ++ ((if fraction = [] then [] else locale.decimalSeparator :: fraction) ++ tail))

/-- The text writes digits with group separators of the locale between them. -/
structure WritesDigits (locale : Locale) (digits : List Nat) (text : Text) : Prop where
  digit_lt : ∀ digit ∈ digits, digit < 10
  mem : ∀ c ∈ text, c.isDigit = true ∨ c = locale.groupSeparator
  head? : ∀ c ∈ text.head?, c.isDigit = true
  getLast? : ∀ c ∈ text.getLast?, c.isDigit = true
  filter : text.filter Char.isDigit = Digits.text digits

theorem WritesDigits.ne_nil {locale : Locale} {digits : List Nat} {text : Text}
    (h : locale.WritesDigits digits text) (hne : digits ≠ []) : text ≠ [] := by
  rintro rfl
  have hfilter := h.filter
  rw [List.filter_nil, Digits.text, eq_comm, List.map_eq_nil_iff] at hfilter
  exact hne hfilter

/-- Digits in a row are written digits. -/
theorem writesDigits_text (locale : Locale) {digits : List Nat}
    (h : ∀ digit ∈ digits, digit < 10) : locale.WritesDigits digits (Digits.text digits) := by
  have hmem : ∀ c ∈ Digits.text digits, c.isDigit = true := fun c => Digits.isDigit_of_mem_text h
  exact
    { digit_lt := h
      mem := fun c hc => Or.inl (hmem c hc)
      head? := fun c hc => hmem c (List.mem_of_mem_head? hc)
      getLast? := fun c hc => hmem c (List.mem_of_mem_getLast? hc)
      filter := List.filter_eq_self.mpr hmem }

section Reading

variable {locale : Locale} {digits : List Nat} {whole fraction : Text}

/-- Written digits spell an integer part. -/
theorem WritesDigits.spellsInteger (h : locale.WritesDigits digits whole) :
    locale.SpellsInteger (Digits.text digits) whole := by
  rw [← h.filter]
  cases whole with
  | nil => exact .none
  | cons first marks =>
    have hfirst := h.head? first rfl
    rw [List.filter_cons_of_pos hfirst]
    exact .digits hfirst fun c hc => h.mem c (List.mem_cons_of_mem _ hc)

/-- The separator with digits behind it spells a fraction. -/
theorem spellsFraction_write (h : ∀ c ∈ fraction, c.isDigit = true) :
    locale.SpellsFraction fraction
      (if fraction = [] then [] else locale.decimalSeparator :: fraction) := by
  split
  · rename_i hnil
    rw [hnil]
    exact .none
  · exact .point h

theorem spellsSign_write (locale : Locale) (negative : Bool) :
    locale.SpellsSign negative (if negative then locale.negativeSign else []) := by
  cases negative with
  | false => exact .none
  | true => exact .own

/-- Behind the sign there is a digit or the separator of the decimals. -/
theorem exists_first_write (hwhole : locale.WritesDigits digits whole)
    (hfraction : ∀ c ∈ fraction, c.isDigit = true) (hne : whole ≠ [] ∨ fraction ≠ [])
    (tail : Text) :
    ∃ first rest, whole ++ ((if fraction = [] then [] else locale.decimalSeparator :: fraction) ++
        tail) = first :: rest ∧ (first.isDigit = true ∨ first = locale.decimalSeparator) :=
  exists_first_unsigned tail hwhole.spellsInteger (spellsFraction_write hfraction)
    (hne.imp_left (mt hwhole.spellsInteger.eq_nil_iff.mpr))

/-- A number that is written in parts spells them. -/
theorem spells_write (hwhole : locale.WritesDigits digits whole)
    (hfraction : ∀ c ∈ fraction, c.isDigit = true) (hne : whole ≠ [] ∨ fraction ≠ [])
    (negative : Bool) {tail : Text} {k : Int} (htail : Numeral.SpellsExponent k tail) :
    locale.Spells ⟨negative, Digits.text digits, fraction, k⟩
      (locale.write negative whole fraction tail) :=
  .parts (spellsSign_write locale negative) hwhole.spellsInteger (spellsFraction_write hfraction)
    htail (hne.imp_left (mt hwhole.spellsInteger.eq_nil_iff.mpr))

variable (hlocale : locale.Distinct) (hwhole : locale.WritesDigits digits whole)
  (hfraction : ∀ c ∈ fraction, c.isDigit = true) (hne : whole ≠ [] ∨ fraction ≠ [])
include hlocale hwhole hfraction hne

/-- The sign of a written number is told apart from its digits. -/
theorem readSign_write (negative : Bool) (tail : Text) :
    locale.readSign (locale.write negative whole fraction tail) = (negative,
      whole ++ ((if fraction = [] then [] else locale.decimalSeparator :: fraction) ++ tail)) := by
  obtain ⟨first, rest, hunsigned, hfirst⟩ := exists_first_write hwhole hfraction hne tail
  rw [write, hunsigned]
  exact (spellsSign_write locale negative).readSign_append hlocale rest hfirst

/-- A written number starts and ends with visible characters. -/
theorem trim_write (negative : Bool) {tail : Text}
    (htail : ∀ c ∈ tail.getLast?, isBlank c = false) :
    (locale.write negative whole fraction tail).trim =
      locale.write negative whole fraction tail := by
  have hsign : ∀ c ∈ (if negative then locale.negativeSign else [] : Text), isBlank c = false := by
    intro c hc
    cases negative with
    | false => cases hc
    | true =>
      rw [if_pos rfl] at hc
      rcases hlocale.sign with hsign | hsign <;>
        rw [hsign, List.mem_singleton] at hc <;> subst hc <;> decide
  have hdigit : ∀ c : Char, c.isDigit = true → isBlank c = false := fun c hc =>
    (isDigit_kind hc).blank
  refine Text.trim_of_ends (Text.forall_head?_append
    (fun c hc => hsign c (List.mem_of_mem_head? hc)) ?_) (Text.forall_getLast?_append
    (fun c hc => hsign c (List.mem_of_mem_getLast? hc)) (Text.forall_getLast?_append
    (fun c hc => hdigit c (hwhole.getLast? c hc)) (Text.forall_getLast?_append ?_ htail)))
  · obtain ⟨first, rest, hunsigned, hfirst⟩ := exists_first_write hwhole hfraction hne tail
    rw [hunsigned]
    rintro c hc
    obtain rfl : first = c := by simpa using hc
    rcases hfirst with hfirst | rfl
    · exact hdigit first hfirst
    · exact hlocale.point_blank
  · split
    · simp
    · rename_i hfill
      intro c hc
      rw [List.getLast?_cons_of_ne_nil hfill] at hc
      exact hdigit c (hfraction c (List.mem_of_mem_getLast? hc))

/-- **A number that is written in parts is read in these parts.** -/
theorem numeral?_write (negative : Bool) {tail : Text} {k : Int}
    (htail : Numeral.SpellsExponent k tail) :
    locale.numeral? (locale.write negative whole fraction tail) =
      some ⟨negative, Digits.text digits, fraction, k⟩ := by
  have htrim := trim_write hlocale hwhole hfraction hne negative fun c hc => isBlank_of_inExponent
    (htail.inExponent_of_mem (List.mem_of_mem_getLast? hc))
  rw [numeral?_eq_some_iff hlocale, htrim]
  exact spells_write hwhole hfraction hne negative htail

/-- A character behind the digits that belongs to no number keeps the text from being one. -/
theorem readNumber?_write_eq_none (negative : Bool) {tail : Text}
    (hlast : ∀ c ∈ tail.getLast?, isBlank c = false) {c : Char} (hc : c ∈ tail)
    (hgroup : c ≠ locale.groupSeparator) (hpoint : c ≠ locale.decimalSeparator)
    (hexponent : inExponent c = false) :
    locale.readNumber? (locale.write negative whole fraction tail) = none := by
  have hnone : locale.numeral? (locale.write negative whole fraction tail) = none := by
    rw [numeral?, trim_write hlocale hwhole hfraction hne negative hlast,
      readSign_write hlocale hwhole hfraction hne, Option.eq_none_iff_forall_ne_some]
    intro numeral hread
    have hmem := List.mem_append_right whole (List.mem_append_right
      (if fraction = [] then [] else locale.decimalSeparator :: fraction) hc)
    obtain ⟨_, _, _, _, _, _, hinteger, hdigits, hexponents, -, htext, -⟩ :=
      exists_spells_unsigned hread
    rw [htext] at hmem
    rcases mem_unsigned hinteger hdigits hexponents hmem with hmark | hmark | hmark
    · exact hgroup hmark
    · exact hpoint hmark
    · rw [hexponent] at hmark
      cases hmark
  rw [readNumber?, hnone]
  rfl

end Reading

/-- **A number that is written in parts is read as the floating point number that its
value is rounded to**, when that is finite. -/
theorem readNumber?_write {locale : Locale} (hlocale : locale ∈ registered) {negative : Bool}
    {integer fraction : List Nat} {whole tail : Text} {k : Int}
    (hwhole : locale.WritesDigits integer whole) (hfraction : ∀ digit ∈ fraction, digit < 10)
    (htail : Numeral.tail? tail = some k) (hne : integer ≠ [] ∨ fraction ≠ [])
    (hsign : Digits.value (integer ++ fraction) ≠ 0 ∨ negative = false) :
    locale.readNumber? (locale.write negative whole (Digits.text fraction) tail) =
      (some (Binary64.ofRat ((if negative then -1 else 1) *
        ((Digits.value (integer ++ fraction) : Rat) * 10 ^ (k - fraction.length))))).filter
          Binary64.isFinite := by
  have hnumeral := numeral?_write (distinct_of_registered locale hlocale) hwhole
    (fun c hc => Digits.isDigit_of_mem_text hfraction hc)
    (hne.imp hwhole.ne_nil fun h => by simpa [Digits.text] using h) negative
    (Numeral.tail?_eq_some_iff.mp htail)
  rw [readNumber?, hnumeral, Option.map_some, Numeral.toBinary64_eq_ofRat
    (by rwa [Numeral.coefficient_digits hwhole.digit_lt hfraction]),
    Numeral.toRat_digits hwhole.digit_lt hfraction]

end Locale

end Spreadsheet
