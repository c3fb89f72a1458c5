/-
# Numbers with an exponent

A number that starts with a digit can hold a minus sign in its exponent only. Without that
sign it is written with the greater exponent, which no locale takes for a date: its last field
ends with the exponent, and no name of a month holds a digit.

* `Locale.exists_writesExponent` — where a minus sign stands in a number.
* `Locale.monthNamed?_eq_none` — no name of a month holds a digit.
* `Locale.readDate?_removeAll_minus` — without its minus sign a number is no date.
-/

import Spreadsheet.Proofs.CaseContext
import Spreadsheet.Proofs.NumberText

namespace Spreadsheet

/-- A digit is no letter of either case. -/
theorem isPlainMark_of_isDigit {c : Char} (h : c.isDigit = true) : isPlainMark c = true :=
  forall_isDigit (p := fun c => isPlainMark c = true) (by decide) h

/-- A minus sign of an exponent stands after its mark. -/
theorem Numeral.SpellsExponent.exists_of_minus_mem {tail : Text} {k : Int}
    (h : SpellsExponent k tail) (hminus : '-' ∈ tail) :
    ∃ mark digits, tail = mark :: '-' :: digits ∧ (mark = 'e' ∨ mark = 'E') ∧ digits ≠ [] ∧
      ∀ c ∈ digits, c.isDigit = true := by
  have hmarks : '-' ∉ ['e', 'E'] := by decide
  cases h with
  | none => cases hminus
  | unsigned hmark hdigits =>
    exact absurd hminus (List.not_mem_cons_of_ne_of_not_mem (ne_of_mem_of_not_mem hmark hmarks).symm
      (hdigits.notMem rfl))
  | plus hmark hdigits =>
    exact absurd hminus (List.not_mem_cons_of_ne_of_not_mem (ne_of_mem_of_not_mem hmark hmarks).symm
      (List.not_mem_cons_of_ne_of_not_mem (by decide) (hdigits.notMem rfl)))
  | minus hmark hdigits =>
    exact ⟨_, _, rfl, List.mem_pair.mp hmark, hdigits.ne_nil, hdigits.isDigit⟩

namespace Locale

/-! ### Names of months -/

/-- The form in which names of months are compared keeps digits. -/
theorem mem_monthKey_iff {digit : Char} (hdigit : digit.isDigit = true) {name : Text} :
    digit ∈ monthKey name ↔ digit ∈ name := by
  rw [monthKey, Text.mem_foldCase_iff (isPlainMark_of_isDigit hdigit)]
  obtain ⟨dots, hname, hdots⟩ := Text.exists_dropTrailing_append (· == '.') name
  have hnot : digit ∉ dots := by
    intro hmem
    rw [beq_iff_eq.mp (hdots digit hmem)] at hdigit
    cases hdigit
  conv => rhs; rw [hname]
  rw [List.mem_append, or_iff_left hnot]

/-- **No name of a month holds a digit.** -/
theorem monthNamed?_eq_none {locale : Locale} (hlocale : locale ∈ registered) {name : Text}
    {digit : Char} (hdigit : digit.isDigit = true) (hname : digit ∈ name) :
    locale.monthNamed? name = none := by
  have hnames : ∀ locale ∈ registered, ∀ names ∈ [locale.monthNames,
      locale.abbreviatedMonthNames, englishMonths, englishMonthsShort], ∀ month : Fin 12,
        names[month].any Char.isDigit = false := by
    decide
  have hnot : ∀ names ∈ [locale.monthNames, locale.abbreviatedMonthNames, englishMonths,
      englishMonthsShort], ∀ month : Fin 12, digit ∉ names[month] := by
    intro names hmem month hdigitMem
    have hnone := hnames locale hlocale names hmem month
    rw [List.any_eq_false] at hnone
    exact hnone digit hdigitMem hdigit
  have hkey : digit ∈ monthKey name := (mem_monthKey_iff hdigit).mpr hname
  have hlookup : ∀ names ∈ [locale.monthNames, locale.abbreviatedMonthNames, englishMonths,
      englishMonthsShort], monthWithKey? names (monthKey name) = none := by
    intro names hmem
    rw [Option.eq_none_iff_forall_ne_some]
    intro month hfound
    rw [← monthWithKey?_some hfound, mem_monthKey_iff hdigit] at hkey
    exact hnot names hmem month hkey
  have hstart : ∀ month : Fin 12,
      (englishMonths[month]).foldCase.startsWith (monthKey name) = false := by
    intro month
    rw [Bool.eq_false_iff]
    intro hstarts
    obtain ⟨rest, hrest⟩ := Option.isSome_iff_exists.mp hstarts
    have hmem : digit ∈ (englishMonths[month]).foldCase := by
      rw [Text.afterLeading?_eq_some_iff.mp hrest]
      exact List.mem_append_left rest hkey
    rw [Text.mem_foldCase_iff (isPlainMark_of_isDigit hdigit)] at hmem
    exact hnot englishMonths (by simp) month hmem
  simpa [monthNamed?, hlookup] using fun _ => hstart

/-! ### Digits, a mark and an exponent -/

/-- The parts of a number with an exponent that has no sign: digits and separators from a digit
on, the mark, and the digits of the exponent. -/
structure WritesExponent (locale : Locale) (body : Text) (mark : Char) (digits : Text) :
    Prop where
  head? : body.head?.any Char.isDigit = true
  body : ∀ c ∈ body, c.isDigit = true ∨ c = locale.groupSeparator ∨ c = locale.decimalSeparator
  mark : mark = 'e' ∨ mark = 'E'
  ne_nil : digits ≠ []
  isDigit : ∀ c ∈ digits, c.isDigit = true

namespace WritesExponent

variable {locale : Locale} {body digits blanks : Text} {mark : Char}
  (h : locale.WritesExponent body mark digits)
include h

/-- The mark of the exponent is a letter. -/
theorem mark_kind : mark.isDigit = false ∧ separatesDateParts mark = false ∧
    isBlank mark = false ∧ mark ∉ ['-', ':'] := by
  rcases h.mark with rfl | rfl <;> decide

/-- A number with an exponent starts with a visible character and ends with one. -/
theorem trim_append (hblanks : ∀ c ∈ blanks, isBlank c = true) :
    Text.trim (body ++ mark :: digits ++ blanks) = body ++ mark :: digits := by
  obtain ⟨first, rest, rfl, hfirst⟩ := Text.exists_cons_of_head? h.head?
  have hword : Text.trimEnd (mark :: digits) = mark :: digits :=
    Text.dropTrailing_eq_self (List.forall_mem_cons.mpr
      ⟨h.mark_kind.2.2.1, fun c hc => (isDigit_kind (h.isDigit c hc)).blank⟩)
  rw [List.cons_append, List.cons_append, Text.trim_cons (isDigit_kind hfirst).blank,
    Text.trimEnd, Text.dropTrailing_append_of_forall hblanks,
    Text.dropTrailing_append (List.cons_ne_nil _ _) hword]

variable (hlocale : locale ∈ registered)
include hlocale

/-- It holds neither a minus sign nor a colon. -/
theorem notMem : ∀ c ∈ ['-', ':'], c ∉ body ∧ c ∉ digits := by
  have hmarks : ∀ locale ∈ registered, ['-', ':'].all (fun c =>
      !c.isDigit && c != locale.groupSeparator && c != locale.decimalSeparator) = true := by
    decide
  intro c hc
  have hmark := List.all_eq_true.mp (hmarks locale hlocale) c hc
  simp only [Bool.and_eq_true, Bool.not_eq_true', bne_iff_ne] at hmark
  obtain ⟨⟨hother, hgroup⟩, hpoint⟩ := hmark
  have hdigit : c.isDigit ≠ true := by simp [hother]
  exact ⟨fun hmem => (h.body c hmem).elim hdigit fun hseparator => hseparator.elim hgroup hpoint,
    fun hmem => hdigit (h.isDigit c hmem)⟩

/-- Without minus signs, the exponent is left. -/
theorem removeAll_minus (hblanks : ∀ c ∈ blanks, isBlank c = true) :
    Text.removeAll (body ++ mark :: '-' :: digits ++ blanks) ['-'] =
      body ++ mark :: digits ++ blanks := by
  have hkeeps : ∀ text : Text, '-' ∉ text → text.filter (fun c => c != '-') = text := by
    intro text hnot
    refine List.filter_eq_self.mpr fun c hc => ?_
    simp only [bne_iff_ne]
    rintro rfl
    exact hnot hc
  obtain ⟨hbody, hdigits⟩ := h.notMem hlocale '-' (by simp)
  have hmark : mark ≠ '-' := fun heq => h.mark_kind.2.2.2 (by simp [heq])
  have hblank : '-' ∉ blanks := fun hmem => absurd (hblanks '-' hmem) (by decide)
  rw [Text.removeAll_mark]
  simp [hkeeps body hbody, hkeeps digits hdigits, hkeeps blanks hblank, hmark]

/-- It is no date. -/
theorem datePart?_eq_none : locale.datePart? (body ++ mark :: digits) = none := by
  have hseparators : ∀ locale ∈ registered, isLetter locale.groupSeparator = false ∧
      isLetter locale.decimalSeparator = false := by decide +kernel
  have hword : ∀ c ∈ mark :: digits, separatesDateParts c = false :=
    List.forall_mem_cons.mpr ⟨h.mark_kind.2.1, fun c hc => (isDigit_kind (h.isDigit c hc)).part⟩
  have hletter : ∀ c ∈ body, isLetter c = false := by
    intro c hc
    rcases h.body c hc with hdigit | rfl | rfl
    · exact (isDigit_kind hdigit).letter
    · exact (hseparators locale hlocale).1
    · exact (hseparators locale hlocale).2
  obtain ⟨before, lead, hfields, hbefore⟩ :=
    Text.fields_append_word body (List.cons_ne_nil mark digits) hword
  unfold datePart?
  split
  · rename_i a b c hparts
    rw [hfields] at hparts
    -- the exponent stands in the last of the three fields
    obtain ⟨rfl, hlast⟩ : before = [a, b] ∧ [lead ++ mark :: digits] = [c] :=
      List.append_inj' (hparts.trans (List.singleton_append (x := a)).symm) rfl
    have hc : lead ++ mark :: digits = c := List.head_eq_of_cons_eq hlast
    have hnumbers : c.all Char.isDigit = false := by
      simp [← hc, h.mark_kind.1]
    have hnoLetter : ∀ part ∈ [a, b], part.any isLetter = false := by
      intro part hpart
      rw [List.any_eq_false]
      intro d hd
      rw [hletter d (hbefore part hpart d hd)]
      exact Bool.false_ne_true
    have hnamed : locale.namedDate? c a b = none := by
      obtain ⟨digit, hdigit⟩ := List.exists_mem_of_ne_nil digits h.ne_nil
      have hmonth : locale.monthNamed? c = none :=
        monthNamed?_eq_none hlocale (h.isDigit digit hdigit) (by simp [← hc, hdigit])
      rw [namedDate?, hmonth]
      rfl
    simp [hnumbers, hnoLetter, hnamed]
  · rfl

/-- **A number with an exponent is no date**, with blanks after it or without. -/
theorem readDate?_eq_none (hblanks : ∀ c ∈ blanks, isBlank c = true) :
    locale.readDate? (body ++ mark :: digits ++ blanks) = none := by
  have htrim := h.trim_append hblanks
  obtain ⟨hbody, hdigits⟩ := h.notMem hlocale ':' (by simp)
  have hmark : ':' ≠ mark := fun heq => h.mark_kind.2.2.2 (by simp [← heq])
  have hcolon : ':' ∉ body ++ mark :: digits := by
    simp [hbody, hdigits, hmark]
  rw [readDate?_no_colon (by rwa [htrim]), htrim, h.datePart?_eq_none hlocale, Option.map_none]

end WritesExponent

/-- **Where a minus sign stands in a number** that starts with a digit: in its exponent. -/
theorem exists_writesExponent {locale : Locale} (hlocale : locale ∈ registered) {literal : Text}
    {y : Binary64} (hread : locale.readNumber? literal = some y)
    (hdigit : literal.head?.any Char.isDigit = true) (hminus : '-' ∈ literal) :
    ∃ body mark digits blanks, literal = body ++ mark :: '-' :: digits ++ blanks ∧
      locale.WritesExponent body mark digits ∧ ∀ c ∈ blanks, isBlank c = true := by
  have hdash : ∀ locale ∈ registered, '-' ≠ locale.groupSeparator ∧
      '-' ≠ locale.decimalSeparator := by decide
  obtain ⟨first, rest, rfl, hfirst⟩ := Text.exists_cons_of_head? hdigit
  obtain ⟨hsome, -⟩ := Option.filter_eq_some_iff.mp hread
  obtain ⟨numeral, hnumeral, -⟩ := Option.map_eq_some_iff.mp hsome
  rw [numeral?, Text.trim_cons (isDigit_kind hfirst).blank, readSign_digit hlocale hfirst]
    at hnumeral
  obtain ⟨blanks, hrest, hblanks⟩ := Text.exists_dropTrailing_append isBlank rest
  obtain ⟨_, integer, _, fraction, tail, k, hinteger, hfraction, htail, -, hunsigned, -⟩ :=
    exists_spells_unsigned hnumeral
  have hbody : ∀ c ∈ integer ++ fraction, _ := fun c => eq_of_mem_unsigned hinteger hfraction
  rw [← List.append_assoc] at hunsigned
  generalize integer ++ fraction = body at hbody hunsigned
  have htext : first :: rest = body ++ tail ++ blanks :=
    (congrArg (List.cons first) hrest).trans (congrArg (· ++ blanks) hunsigned)
  have hinTail : '-' ∈ tail := by
    rw [htext, List.mem_append, List.mem_append] at hminus
    rcases hminus with (hmem | hmem) | hmem
    · rcases hbody '-' hmem with hdigit | hgroup | hpoint
      · cases hdigit
      · exact absurd hgroup (hdash locale hlocale).1
      · exact absurd hpoint (hdash locale hlocale).2
    · exact hmem
    · exact absurd (hblanks '-' hmem) (by decide)
  obtain ⟨mark, digits, rfl, hmark, hne, hdigits⟩ := htail.exists_of_minus_mem hinTail
  have hhead : body.head?.any Char.isDigit = true := by
    cases body with
    | nil =>
      -- the mark of the exponent is no digit
      obtain rfl : first = mark := List.head_eq_of_cons_eq htext
      rcases hmark with rfl | rfl <;> cases hfirst
    | cons c body =>
      obtain rfl : first = c := List.head_eq_of_cons_eq htext
      exact hfirst
  exact ⟨body, mark, digits, blanks, htext,
    ⟨hhead, hbody, hmark, hne, hdigits⟩, hblanks⟩

/-- Without its minus sign such a number is no date. -/
theorem readDate?_removeAll_minus {locale : Locale} (hlocale : locale ∈ registered)
    {literal : Text} {y : Binary64} (hread : locale.readNumber? literal = some y)
    (hdigit : literal.head?.any Char.isDigit = true) (hminus : '-' ∈ literal) :
    locale.readDate? (literal.removeAll ['-']) = none := by
  obtain ⟨body, mark, digits, blanks, rfl, hwrites, hblanks⟩ :=
    exists_writesExponent hlocale hread hdigit hminus
  rw [hwrites.removeAll_minus hlocale hblanks]
  exact hwrites.readDate?_eq_none hlocale hblanks

end Locale

end Spreadsheet
