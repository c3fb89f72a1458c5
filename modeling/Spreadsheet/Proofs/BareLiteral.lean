/-
# A literal without an operator

A criterion that starts with a letter or a numeral has no operator and is left to the matcher,
which compares by the kind of the value. With an equals sign in front it is a comparison for
equality, which goes by numbers first. For most values both ask for the same: the matcher asks
for an equal instant and the comparison for an equal serial number, which belongs to one
instant only; and what is written in a number is neither a truth value nor a duration.

* `Criterion.operator?_of_letter` — in front of a letter or a numeral there is no operator.
* `Locale.readDate?_whole` — a date that is read is exact to the millisecond.
* `Criterion.compareWith_equal_of_takesBare` — both ask for the same, kind by kind.
* `evaluate_bare_literal` — so the criteria decide the same.
-/

import Spreadsheet.Proofs.AffixPatterns
import Spreadsheet.Proofs.OperatorCoherence
import Spreadsheet.Proofs.SerialIdentity

namespace Spreadsheet

/-! ### Letters and numerals -/

/-- No letter and no numeral is a blank. -/
theorem isBlank_of_isLetterOrNumeral {c : Char} (h : isLetterOrNumeral c = true) :
    isBlank c = false := by
  rw [isLetterOrNumeral, Bool.or_eq_true] at h
  rcases h with hletter | hnumeral
  · exact CharClass.contains_eq_false_of_apart (by decide +kernel) hletter
  · exact CharClass.contains_eq_false_of_apart (by decide +kernel) hnumeral

/-- A criterion that starts with a letter or a numeral has no operator. -/
theorem Criterion.operator?_of_letter {literal : Text}
    (hstart : literal.head?.any isLetterOrNumeral = true) : operator? literal = none := by
  obtain ⟨first, rest, rfl, hfirst⟩ := Text.exists_cons_of_head? hstart
  rw [operator?, candidate?, Text.trim_cons (isBlank_of_isLetterOrNumeral hfirst)]
  dsimp only
  rw [hfirst]
  rfl

namespace Locale

variable {locale : Locale} {literal : Text} {y : Binary64}

/-- A number that starts with a letter or a numeral starts with a digit. -/
theorem isDigit_of_readNumber? (hlocale : locale ∈ registered)
    (hread : locale.readNumber? literal = some y)
    (hstart : literal.head?.any isLetterOrNumeral = true) :
    literal.head?.any Char.isDigit = true := by
  have hmarks : ∀ locale ∈ registered,
      ['+', '-', '\u2212', locale.decimalSeparator].all (fun c => !isLetterOrNumeral c) = true := by
    decide +kernel
  obtain ⟨first, rest, rfl, hfirst⟩ := Text.exists_cons_of_head? hstart
  have hother : first ∉ ['+', '-', '\u2212', locale.decimalSeparator] := by
    intro hmem
    simpa [hfirst] using List.all_eq_true.mp (hmarks locale hlocale) first hmem
  simp only [List.mem_cons, List.not_mem_nil, or_false, not_or] at hother
  obtain ⟨hplus, hminus, hsign, hpoint⟩ := hother
  rcases head_of_readNumber? hread with hblank | h | h | hnegative | hdigit | h
  · rw [isBlank_of_isLetterOrNumeral hfirst] at hblank
    cases hblank
  · exact absurd h hplus
  · exact absurd h hminus
  · rcases (distinct_of_registered locale hlocale).sign with h | h
    · rw [h] at hnegative
      exact absurd (Option.some.inj hnegative).symm hminus
    · rw [h] at hnegative
      exact absurd (Option.some.inj hnegative).symm hsign
  · exact hdigit
  · exact absurd h hpoint

/-- A time of day that is read is exact to the millisecond. -/
theorem timePart?_whole {date : Date} {i : Instant}
    (h : locale.timePart? date literal = some i) : i.nanosecondOfDay % 1000000 = 0 := by
  have hwhole : ∀ {hour minute second millisecond : Nat},
      Instant.at? date hour minute second (millisecond * 1000000) = some i →
        i.nanosecondOfDay % 1000000 = 0 := by
    intro hour minute second millisecond hat
    unfold Instant.at? at hat
    split at hat
    · cases hat
      dsimp only
      omega
    · cases hat
  unfold timePart? at h
  simp only [Option.bind_eq_bind] at h
  split at h
  · simp only [Option.bind_eq_some_iff] at h
    obtain ⟨_, -, _, -, _, -, _, -, _, -, hat⟩ := h
    exact hwhole hat
  · simp only [Option.bind_eq_some_iff] at h
    obtain ⟨_, -, _, -, _, -, _, -, _, -, hat⟩ := h
    exact hwhole hat
  · cases h

/-- **A date that is read is exact to the millisecond.** -/
theorem readDate?_whole {i : Instant} (h : locale.readDate? literal = some i) :
    i.nanosecondOfDay % 1000000 = 0 := by
  unfold readDate? at h
  split at h
  split at h
  · cases h
  · split at h
    · cases h
      rfl
    · exact timePart?_whole h

/-- No number holds a colon. -/
theorem colon_notMem (hlocale : locale ∈ registered) (hread : locale.readNumber? literal = some y) :
    ':' ∉ literal := by
  have hcolon : ∀ locale ∈ registered, locale.writesNumbersWith ':' = false := by decide
  intro hmem
  have hwrites := hcolon locale hlocale
  rw [mem_of_readNumber? hread hmem] at hwrites
  cases hwrites

end Locale

/-! ### Other literals than numbers -/

/-- No truth value starts with a digit. -/
theorem truthValue?_of_digit {literal : Text} (hdigit : literal.head?.any Char.isDigit = true) :
    truthValue? literal = none := by
  obtain ⟨first, rest, rfl, hfirst⟩ := Text.exists_cons_of_head? hdigit
  have hlower : (first.toLower == 't') = false ∧ (first.toLower == 'f') = false :=
    forall_isDigit (p := fun c => (c.toLower == 't') = false ∧ (c.toLower == 'f') = false)
      (by decide) hfirst
  have htrue : "TRUE".toList.map Char.toLower = 't' :: "rue".toList := by decide
  have hfalse : "FALSE".toList.map Char.toLower = 'f' :: "alse".toList := by decide
  rw [truthValue?_eq_none_iff, Text.trim_cons (isDigit_kind hfirst).blank,
    Text.equalsIgnoringAsciiCase, Text.equalsIgnoringAsciiCase, htrue, hfalse, List.map_cons,
    List.cons_beq_cons, List.cons_beq_cons, hlower.1, hlower.2, Bool.false_and, Bool.false_and]
  exact ⟨rfl, rfl⟩

/-- Every duration is shown with a colon. -/
theorem Duration.colon_mem_text (d : Duration) : ':' ∈ d.text := by
  simp [Duration.text]

/-- So it is not shown as a number, which holds none. -/
theorem foldedEqual_duration {locale : Locale} (hlocale : locale ∈ Locale.registered)
    {literal : Text} {y : Binary64} (hread : locale.readNumber? literal = some y) (d : Duration) :
    foldedEqual d.text literal = false := by
  rw [Bool.eq_false_iff]
  intro hequal
  have hfold : d.text.foldCase = literal.foldCase := beq_iff_eq.mp hequal
  have hcolon := d.colon_mem_text
  rw [← Text.mem_foldCase_iff (by decide), hfold, Text.mem_foldCase_iff (by decide)] at hcolon
  exact Locale.colon_notMem hlocale hread hcolon

/-! ### Kinds of values -/

/-- The values that a literal asks for with an equals sign as without one: all but numbers, when
the literal is a date and no number, dates that their serial number does not give back, and
texts that are numbers or are compared with a number or with a pattern. -/
def Cell.TakesBare (locale : Locale) (literal : Text) : Cell → Prop
  | .number _ | .integer _ => locale.readNumber? literal ≠ none ∨ locale.readDate? literal = none
  | .dateTime i => 100 ≤ i.date.year ∧ i.date.year ≤ 9999 ∧ i.nanosecondOfDay % 1000000 = 0
  | .text shown => locale.readNumber? shown = none ∧ locale.readNumber? literal = none ∧
      literal.all Glob.standsForItself = true
  | .duration _ | .boolean _ | .empty => True

namespace Criterion

variable {locale : Locale} {literal : Text} {value : Cell}

/-- With a number on one side at least, equality is that of the numbers. -/
theorem compareFilled_equal_of_number
    (hnumber : value.numeric? locale ≠ none ∨ locale.readNumber? literal ≠ none) :
    compareFilled locale .equal value literal =
      .ok (numericOrder? locale value literal == some .eq) := by
  rw [compareFilled_eq_holdsIn (by decide) hnumber, Operator.holdsIn_equal]

/-- A number is compared as the matcher compares it, unless with a date. -/
theorem compareFilled_equal_number {x : Binary64} (hvalue : value.numeric? locale = some x)
    (hliteral : locale.readNumber? literal ≠ none ∨ locale.readDate? literal = none) :
    compareFilled locale .equal value literal =
      .ok ((locale.readNumber? literal).bind (Binary64.order? x) == some .eq) := by
  rw [compareFilled_equal_of_number (Or.inl (by simp [hvalue])), numericOrder?, hvalue]
  cases hread : locale.readNumber? literal with
  | some y => rfl
  | none =>
    have hdate := hliteral.resolve_left (by simp [hread])
    rw [hdate]
    rfl

/-- An instant is compared by its serial number as the matcher compares it by itself. -/
theorem compareFilled_equal_dateTime {i : Instant} (hlow : 100 ≤ i.date.year)
    (hhigh : i.date.year ≤ 9999) (hwhole : i.nanosecondOfDay % 1000000 = 0) :
    compareFilled locale .equal (.dateTime i) literal =
      .ok (Matcher.wildcard locale literal (.dateTime i) == some .eq) := by
  have hnumeric : (Cell.dateTime i).numeric? locale = some i.serial := rfl
  cases hread : locale.readNumber? literal with
  | some y =>
    rw [Matcher.wildcard_dateTime_of_number i hread, Matcher.wildcard_number]
    exact compareFilled_equal_number hnumeric (Or.inl (by simp [hread]))
  | none =>
    have hmatched := Matcher.wildcard_dateTime_eq_iff i hread
    cases hdate : locale.readDate? literal with
    | none =>
      have hunmatched : Matcher.wildcard locale literal (.dateTime i) ≠ some .eq := by
        rw [Ne, hmatched, hdate]
        exact Option.some_ne_none i ∘ Eq.symm
      rw [compareFilled_equal_number hnumeric (Or.inr hdate), hread,
        beq_eq_false_iff_ne.mpr hunmatched]
      rfl
    | some date =>
      have hserial := Instant.order?_serial_eq_iff hlow hhigh hwhole (Locale.readDate?_whole hdate)
      have horder : numericOrder? locale (.dateTime i) literal =
          Binary64.order? i.serial date.serial := by
        rw [numericOrder?, hnumeric, hread, hdate]
      have hagree : Binary64.order? i.serial date.serial = some .eq ↔
          Matcher.wildcard locale literal (.dateTime i) = some .eq := by
        rw [hserial, hmatched, hdate, Option.some.injEq, eq_comm]
      rw [compareFilled_equal_of_number (Or.inl (by simp [hnumeric])), horder]
      congr 1
      rw [Bool.eq_iff_iff, beq_iff_eq, beq_iff_eq, hagree]

/-- A text that is no number is compared with a literal that is none by its folding. -/
theorem compareFilled_equal_text {shown : Text} (hshown : locale.readNumber? shown = none)
    (hread : locale.readNumber? literal = none)
    (hplain : literal.all Glob.standsForItself = true) :
    compareFilled locale .equal (.text shown) literal =
      .ok (Matcher.wildcard locale literal (.text shown) == some .eq) := by
  have hwildcards : Glob.hasWildcards literal = false := by
    have happend := Glob.hasWildcards_append hplain []
    rwa [List.append_nil] at happend
  have hmatched : Matcher.wildcard locale literal (.text shown) =
      some (foldedOrder shown literal) := by
    simp [Matcher.wildcard, Matcher.compareText, hwildcards, Glob.unescape_eq_self hplain]
  have hnumeric : (Cell.text shown).numeric? locale = none := hshown
  rw [compareFilled_of_no_number hnumeric hread, hmatched]
  rfl

/-- A truth value is compared as the matcher compares it: no number is a truth value. -/
theorem compareFilled_equal_boolean (hlocale : locale ∈ Locale.registered)
    (hstart : literal.head?.any isLetterOrNumeral = true) (truth : Bool) :
    compareFilled locale .equal (.boolean truth) literal =
      .ok (Matcher.wildcard locale literal (.boolean truth) == some .eq) := by
  have hnumeric : (Cell.boolean truth).numeric? locale = none := rfl
  have hmatched : Matcher.wildcard locale literal (.boolean truth) =
      (truthValue? literal).map (truthOrder truth) := rfl
  rw [hmatched]
  cases hread : locale.readNumber? literal with
  | some y =>
    have hnone := truthValue?_of_digit (Locale.isDigit_of_readNumber? hlocale hread hstart)
    rw [compareFilled_equal_of_number (Or.inr (by simp [hread])), numericOrder?, hnumeric, hnone]
    rfl
  | none =>
    rw [compareFilled_of_no_number hnumeric hread, compareGeneric, compareLiteral]
    cases truthValue? literal <;> rfl

/-- A duration is compared as the matcher compares it: no number is shown as one. -/
theorem compareFilled_equal_duration (hlocale : locale ∈ Locale.registered)
    (htrim : literal.trim = literal) (d : Duration) :
    compareFilled locale .equal (.duration d) literal =
      .ok (Matcher.wildcard locale literal (.duration d) == some .eq) := by
  have hnumeric : (Cell.duration d).numeric? locale = none := rfl
  have hmatched : (Matcher.wildcard locale literal (.duration d) == some .eq) =
      foldedEqual d.text literal := by
    have hwildcard : Matcher.wildcard locale literal (.duration d) =
        some (if foldedEqual d.text literal.trim then .eq else .lt) := rfl
    rw [hwildcard, htrim]
    cases foldedEqual d.text literal <;> rfl
  rw [hmatched]
  cases hread : locale.readNumber? literal with
  | some y =>
    rw [compareFilled_equal_of_number (Or.inr (by simp [hread])), numericOrder?, hnumeric,
      foldedEqual_duration hlocale hread]
    rfl
  | none =>
    rw [compareFilled_of_no_number hnumeric hread]
    rfl

/-- **Equality with a literal is what the matcher asks for**, kind by kind. -/
theorem compareWith_equal_of_takesBare (hlocale : locale ∈ Locale.registered)
    (hstart : literal.head?.any isLetterOrNumeral = true) (htrim : literal.trim = literal)
    (hvalue : value.TakesBare locale literal) :
    compareWith locale .equal value literal =
      .ok (Matcher.wildcard locale literal value == some .eq) := by
  obtain ⟨first, rest, hcons, -⟩ := Text.exists_cons_of_head? hstart
  have hliteral : literal.isEmpty = false := by simp [hcons]
  rw [compareWith, hliteral]
  cases value with
  | number x => exact compareFilled_equal_number rfl hvalue
  | integer n => exact compareFilled_equal_number rfl hvalue
  | dateTime i =>
    obtain ⟨hlow, hhigh, hwhole⟩ := hvalue
    exact compareFilled_equal_dateTime hlow hhigh hwhole
  | duration d => exact compareFilled_equal_duration hlocale htrim d
  | text shown =>
    obtain ⟨hshown, hread, hplain⟩ := hvalue
    exact compareFilled_equal_text hshown hread hplain
  | boolean truth => exact compareFilled_equal_boolean hlocale hstart truth
  | empty =>
    have hmatched : Matcher.wildcard locale literal .empty = none := by
      simp [Matcher.wildcard, hcons]
    rw [hmatched]
    rfl

end Criterion

/-- **A literal without an operator asks for what it asks for behind an equals sign.** In a
registered locale, let a literal start with a letter or a numeral, end with a visible character
and hold no equals sign. Then every value that takes it bare satisfies the criterion of the
literal alone exactly when it satisfies the one with the sign. -/
theorem evaluate_bare_literal {locale : Locale} (hlocale : locale ∈ Locale.registered)
    {literal : Text} (hstart : literal.head?.any isLetterOrNumeral = true)
    (hend : literal.getLast?.all (fun c => !isBlank c) = true) (hequals : '=' ∉ literal)
    {value : Cell} (hvalue : value.TakesBare locale literal) :
    evaluate .wildcard locale value literal =
      evaluate .wildcard locale value ("=".toList ++ literal) := by
  obtain ⟨first, rest, hcons, hfirst⟩ := Text.exists_cons_of_head? hstart
  have htrim : literal.trim = literal := by
    refine Text.trim_eq_self ?_ hend
    simp [hcons, isBlank_of_isLetterOrNumeral hfirst]
  have hletter : literal.head?.all startsLiteral = true := by
    simp [hcons, startsLiteral, hfirst]
  have hcompared : evaluate .wildcard locale value ("=".toList ++ literal) =
      Criterion.compareWith locale .equal value literal := by
    have hop : Operator.equal ≠ .minus := by decide
    have hoperator : Criterion.operator? ("=".toList ++ literal) = some .equal :=
      Criterion.operator?_token_append hop (Or.inr hletter)
    have hremoved : Text.removeAll ("=".toList ++ literal) Operator.equal.token = literal :=
      Text.removeAll_token_append hequals
    rw [evaluate, Criterion.ofText_eq_comparison hoperator, hremoved]
    rfl
  rw [evaluate_pattern .wildcard locale value (by simp [hcons])
    (Criterion.operator?_of_letter hstart), hcompared,
    Criterion.compareWith_equal_of_takesBare hlocale hstart htrim hvalue]

/-- In American English, the sixth hour of the leap day of 1600 is asked for by its date, and the
text of a Greek street by the same letters in the other case, with an equals sign or without. -/
theorem evaluate_bare_literal_leapMorning :
    Locale.americanEnglish ∈ Locale.registered ∧
      (Cell.dateTime .leapMorning).TakesBare .americanEnglish "1600-02-29 6:00".toList ∧
      (Cell.text "ΟΔΌΣ".toList).TakesBare .americanEnglish "οδός".toList ∧
      evaluate .wildcard .americanEnglish (.dateTime .leapMorning) "1600-02-29 6:00".toList =
        evaluate .wildcard .americanEnglish (.dateTime .leapMorning)
          "=1600-02-29 6:00".toList ∧
      evaluate .wildcard .americanEnglish (.dateTime .leapMorning) "=1600-02-29 6:00".toList =
        .ok true ∧
      evaluate .wildcard .americanEnglish (.text "ΟΔΌΣ".toList) "οδός".toList =
        evaluate .wildcard .americanEnglish (.text "ΟΔΌΣ".toList) "=οδός".toList ∧
      evaluate .wildcard .americanEnglish (.text "ΟΔΌΣ".toList) "=οδός".toList = .ok true := by
  have hlocale : Locale.americanEnglish ∈ Locale.registered := by decide
  have hdate : (Cell.dateTime .leapMorning).TakesBare .americanEnglish "1600-02-29 6:00".toList :=
    ⟨by decide, by decide, by decide⟩
  have htext : (Cell.text "ΟΔΌΣ".toList).TakesBare .americanEnglish "οδός".toList :=
    ⟨by decide +kernel, by decide +kernel, by decide⟩
  exact ⟨hlocale, hdate, htext,
    evaluate_bare_literal hlocale (by decide +kernel) (by decide +kernel) (by decide) hdate,
    by decide +kernel,
    evaluate_bare_literal hlocale (by decide +kernel) (by decide +kernel) (by decide) htext,
    by decide +kernel⟩

end Spreadsheet
