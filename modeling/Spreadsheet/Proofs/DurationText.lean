/-
# The texts of durations

The text of a duration is numbers with marks between them: colons in the middle, and a point
after the days, if there are any, and before the milliseconds. Splitting it at its marks gives the
numbers back, so no two counts of milliseconds share a text. And no text of a duration is a
number, since no number holds a colon: a criterion compares a duration by its text, and asks for
the milliseconds.

* `Duration.magnitudeText_injective` — the numbers tell the milliseconds.
* `Duration.text_eq_iff` — and so does the text.
* `Locale.readNumber?_durationText` — it is no number.
* `evaluate_durationText` — what a criterion of an operator and such a text decides.
-/

import Spreadsheet.Proofs.BareLiteral

namespace Spreadsheet

namespace Duration

/-! ### Parts -/

/-- The hours, and in front of them the days, if there are any. -/
def hoursText (total : Nat) : Text :=
  (if total / 86400000 = 0 then [] else Text.number 1 (total / 86400000) ++ ['.']) ++
    Text.number 2 (total % 86400000 / 3600000)

/-- The minutes. -/
def minutesText (total : Nat) : Text :=
  Text.number 2 (total % 86400000 / 60000 % 60)

/-- The seconds, and after them the milliseconds, if there are any. -/
def secondsText (total : Nat) : Text :=
  Text.number 2 (total % 86400000 / 1000 % 60) ++
    if total % 86400000 % 1000 = 0 then [] else '.' :: Text.number 3 (total % 86400000 % 1000)

/-- The text of so many milliseconds, without a sign. -/
def magnitudeText (total : Nat) : Text :=
  hoursText total ++ ':' :: (minutesText total ++ ':' :: secondsText total)

theorem text_eq (d : Duration) :
    d.text = (if d.milliseconds < 0 then ['-'] else []) ++ magnitudeText d.milliseconds.natAbs := by
  simp [text, magnitudeText, hoursText, minutesText, secondsText]

/-- A number is digits, whatever its width. -/
theorem isDigit_of_mem_number {width n : Nat} {c : Char} (h : c ∈ Text.number width n) :
    c.isDigit = true :=
  (Text.writes_number width n).isDigit c h

/-- The hours are digits and a point. -/
theorem isDigit_or_point_of_hours {total : Nat} {c : Char} (h : c ∈ hoursText total) :
    c.isDigit = true ∨ c = '.' := by
  rw [hoursText, List.mem_append] at h
  rcases h with hdays | hhours
  · split at hdays
    · cases hdays
    · rw [List.mem_append, List.mem_singleton] at hdays
      exact hdays.imp_left isDigit_of_mem_number
  · exact Or.inl (isDigit_of_mem_number hhours)

/-- So are the seconds. -/
theorem isDigit_or_point_of_seconds {total : Nat} {c : Char} (h : c ∈ secondsText total) :
    c.isDigit = true ∨ c = '.' := by
  rw [secondsText, List.mem_append] at h
  rcases h with hseconds | hmilliseconds
  · exact Or.inl (isDigit_of_mem_number hseconds)
  · split at hmilliseconds
    · cases hmilliseconds
    · rw [List.mem_cons] at hmilliseconds
      exact hmilliseconds.symm.imp_left isDigit_of_mem_number

/-- The text starts with a digit, or with a minus sign. -/
theorem exists_magnitudeText (total : Nat) :
    ∃ first rest, magnitudeText total = first :: rest ∧ first.isDigit = true := by
  obtain ⟨hour, hours, hhour, hhourDigit⟩ :=
    (Text.writes_number 2 (total % 86400000 / 3600000)).exists_cons
  obtain ⟨day, days, hday, hdayDigit⟩ := (Text.writes_number 1 (total / 86400000)).exists_cons
  rw [magnitudeText, hoursText, hhour]
  split
  · exact ⟨hour, _, rfl, hhourDigit⟩
  · rw [hday]
    exact ⟨day, _, rfl, hdayDigit⟩

/-- The text is digits and marks. -/
theorem isDigit_or_mark {d : Duration} {c : Char} (h : c ∈ d.text) :
    c.isDigit = true ∨ c ∈ ['-', ':', '.'] := by
  rw [text_eq, magnitudeText] at h
  simp only [List.mem_append, List.mem_cons] at h
  rcases h with hsign | hhours | rfl | hminutes | rfl | hseconds
  · split at hsign
    · rw [List.mem_singleton.mp hsign]
      exact Or.inr (by decide)
    · cases hsign
  · exact (isDigit_or_point_of_hours hhours).imp_right fun hpoint => by rw [hpoint]; decide
  · exact Or.inr (by decide)
  · exact Or.inl (isDigit_of_mem_number hminutes)
  · exact Or.inr (by decide)
  · exact (isDigit_or_point_of_seconds hseconds).imp_right fun hpoint => by rw [hpoint]; decide

/-! ### The numbers of a text -/

/-- The parts between the colons. -/
theorem split_magnitudeText (total : Nat) :
    (magnitudeText total).split (· == ':') =
      [hoursText total, minutesText total, secondsText total] := by
  have hapart : ∀ c : Char, c.isDigit = true ∨ c = '.' → (c == ':') = false := by
    rintro c (hdigit | rfl)
    · exact (isDigit_kind hdigit).colon
    · rfl
  rw [magnitudeText, Text.split_append_separator _ rfl, Text.split_append_separator _ rfl,
    Text.split_of_forall fun c hc => hapart c (isDigit_or_point_of_hours hc),
    Text.split_of_forall fun c hc => hapart c (isDigit_or_point_of_seconds hc),
    minutesText, (Text.writes_number _ _).split_eq rfl]
  rfl

/-- The days and the hours. -/
theorem split_hoursText (total : Nat) :
    (hoursText total).split (· == '.') =
      if total / 86400000 = 0 then [Text.number 2 (total % 86400000 / 3600000)]
      else [Text.number 1 (total / 86400000), Text.number 2 (total % 86400000 / 3600000)] := by
  rw [hoursText]
  split
  · exact (Text.writes_number _ _).split_eq rfl
  · rw [List.append_assoc, List.singleton_append, Text.split_append_separator _ rfl,
      (Text.writes_number _ _).split_eq rfl, (Text.writes_number _ _).split_eq rfl]
    rfl

/-- The seconds and the milliseconds. -/
theorem split_secondsText (total : Nat) :
    (secondsText total).split (· == '.') =
      if total % 86400000 % 1000 = 0 then [Text.number 2 (total % 86400000 / 1000 % 60)]
      else [Text.number 2 (total % 86400000 / 1000 % 60),
        Text.number 3 (total % 86400000 % 1000)] := by
  rw [secondsText]
  split
  · rw [List.append_nil, (Text.writes_number _ _).split_eq rfl]
  · rw [Text.split_append_separator _ rfl, (Text.writes_number _ _).split_eq rfl,
      (Text.writes_number _ _).split_eq rfl]
    rfl

/-- The hours tell those of all days. -/
theorem hours_eq {m n : Nat} (h : hoursText m = hoursText n) : m / 3600000 = n / 3600000 := by
  have hparts := congrArg (Text.split (· == '.')) h
  rw [split_hoursText, split_hoursText] at hparts
  by_cases hm : m / 86400000 = 0 <;> by_cases hn : n / 86400000 = 0
  · rw [if_pos hm, if_pos hn, List.singleton_inj] at hparts
    have hhours := Text.number_injective 2 hparts
    omega
  · rw [if_pos hm, if_neg hn] at hparts
    simp at hparts
  · rw [if_neg hm, if_pos hn] at hparts
    simp at hparts
  · rw [if_neg hm, if_neg hn] at hparts
    obtain ⟨hdaysText, hhoursText⟩ := List.cons.inj hparts
    have hdays := Text.number_injective 1 hdaysText
    have hhours := Text.number_injective 2 (List.singleton_inj.mp hhoursText)
    omega

/-- The seconds tell the milliseconds of the minute. -/
theorem seconds_eq {m n : Nat} (h : secondsText m = secondsText n) : m % 60000 = n % 60000 := by
  have hparts := congrArg (Text.split (· == '.')) h
  rw [split_secondsText, split_secondsText] at hparts
  by_cases hm : m % 86400000 % 1000 = 0 <;> by_cases hn : n % 86400000 % 1000 = 0
  · rw [if_pos hm, if_pos hn, List.singleton_inj] at hparts
    have hseconds := Text.number_injective 2 hparts
    omega
  · rw [if_pos hm, if_neg hn] at hparts
    simp at hparts
  · rw [if_neg hm, if_pos hn] at hparts
    simp at hparts
  · rw [if_neg hm, if_neg hn] at hparts
    obtain ⟨hsecondsText, hrestText⟩ := List.cons.inj hparts
    have hseconds := Text.number_injective 2 hsecondsText
    have hrest := Text.number_injective 3 (List.singleton_inj.mp hrestText)
    omega

/-- **No two counts of milliseconds are shown alike.** -/
theorem magnitudeText_injective : Function.Injective magnitudeText := by
  intro m n h
  have hparts := congrArg (Text.split (· == ':')) h
  rw [split_magnitudeText, split_magnitudeText] at hparts
  obtain ⟨hhoursText, hrest⟩ := List.cons.inj hparts
  obtain ⟨hminutesText, hsecondsText⟩ := List.cons.inj hrest
  have hhours := hours_eq hhoursText
  have hminutes := Text.number_injective 2 hminutesText
  have hseconds := seconds_eq (List.singleton_inj.mp hsecondsText)
  omega

/-! ### The text and the milliseconds -/

/-- The text without a sign starts with none. -/
theorem magnitudeText_ne_minus (total : Nat) (rest : Text) : magnitudeText total ≠ '-' :: rest := by
  obtain ⟨first, others, hcons, hdigit⟩ := exists_magnitudeText total
  rw [hcons]
  intro heq
  rw [List.head_eq_of_cons_eq heq] at hdigit
  cases hdigit

/-- **The text of a duration tells its whole milliseconds.** -/
theorem text_eq_iff {d e : Duration} : d.text = e.text ↔ d.milliseconds = e.milliseconds := by
  constructor
  · intro h
    rw [text_eq, text_eq] at h
    by_cases hd : d.milliseconds < 0 <;> by_cases he : e.milliseconds < 0
    · rw [if_pos hd, if_pos he] at h
      have habs := magnitudeText_injective (List.append_cancel_left h)
      omega
    · rw [if_pos hd, if_neg he] at h
      exact absurd h.symm (magnitudeText_ne_minus _ _)
    · rw [if_neg hd, if_pos he] at h
      exact absurd h (magnitudeText_ne_minus _ _)
    · rw [if_neg hd, if_neg he] at h
      have habs := magnitudeText_injective (List.append_cancel_left h)
      omega
  · intro h
    rw [text_eq, text_eq, h]

/-- Folding changes nothing. -/
theorem foldCase_text (d : Duration) : d.text.foldCase = d.text := by
  have hmarks : ∀ c ∈ ['-', ':', '.'], c ≠ 'Σ' ∧ isPlainMark c = true :=
    List.all_iff_forall_prop.mp (by decide)
  apply Text.foldCase_eq_self
  intro c hc
  rcases isDigit_or_mark hc with hdigit | hmark
  · refine ⟨?_, (isDigit_kind hdigit).lower⟩
    rintro rfl
    cases hdigit
  · exact (hmarks c hmark).imp_right lowercase_of_isPlainMark

/-- So texts that are compared without regard to case tell the milliseconds too. -/
theorem foldedEqual_text (d e : Duration) :
    foldedEqual d.text e.text = decide (d.milliseconds = e.milliseconds) := by
  rw [foldedEqual, foldCase_text, foldCase_text, Bool.eq_iff_iff, beq_iff_eq, decide_eq_true_iff,
    text_eq_iff]

end Duration

/-! ### Criteria -/

/-- **No text of a duration is a number.** -/
theorem Locale.readNumber?_durationText {locale : Locale} (hlocale : locale ∈ registered)
    (d : Duration) : locale.readNumber? d.text = none := by
  cases hread : locale.readNumber? d.text with
  | none => rfl
  | some y => exact absurd d.colon_mem_text (colon_notMem hlocale hread)

namespace Duration

/-- A text of a duration starts as a literal does, with a digit or with a minus sign. -/
theorem exists_text (d : Duration) :
    ∃ first rest, d.text = first :: rest ∧ startsLiteral first = true := by
  obtain ⟨first, rest, hcons, hdigit⟩ := exists_magnitudeText d.milliseconds.natAbs
  rw [text_eq, hcons]
  split
  · exact ⟨'-', first :: rest, rfl, rfl⟩
  · refine ⟨first, rest, rfl, ?_⟩
    rw [startsLiteral, (isDigit_kind hdigit).numeral]
    rfl

/-- It holds none of the marks that comparisons are written with. -/
theorem isComparisonMark_of_mem {d : Duration} {c : Char} (h : c ∈ d.text) :
    isComparisonMark c = false := by
  have hmarks : ∀ c ∈ ['-', ':', '.'], isComparisonMark c = false :=
    List.all_iff_forall_prop.mp (by decide)
  rcases isDigit_or_mark h with hdigit | hmark
  · exact forall_isDigit (p := fun c => isComparisonMark c = false) (by decide) hdigit
  · exact hmarks c hmark

end Duration

/-- An operator with the text of a duration behind it compares a duration with that text. -/
theorem evaluate_token_durationText (matcher : Matcher) {locale : Locale}
    (hlocale : locale ∈ Locale.registered) {operator : Operator} (hop : operator ≠ .minus)
    (d e : Duration) :
    evaluate matcher locale (.duration d) (operator.token ++ e.text) =
      Criterion.compareGeneric operator (.duration d) e.text := by
  obtain ⟨first, rest, hcons, hfirst⟩ := e.exists_text
  have hstart : e.text.head?.all startsLiteral = true := by
    rw [hcons]
    exact hfirst
  have hfilled : e.text.isEmpty = false := by
    rw [hcons]
    rfl
  rw [evaluate_token_append matcher locale _ hop hstart fun _ => Duration.isComparisonMark_of_mem,
    Criterion.compareWith, hfilled]
  exact Criterion.compareFilled_of_no_number rfl (Locale.readNumber?_durationText hlocale e) operator

/-- **Durations are told apart by their whole milliseconds.** In every registered locale, and
whatever the matcher, two durations have the same natural text exactly when they have the same
whole milliseconds; a criterion of an equals sign and the text of a duration asks for these, and
one of an inequality sign for any others. -/
theorem evaluate_durationText (matcher : Matcher) {locale : Locale}
    (hlocale : locale ∈ Locale.registered) (d e : Duration) :
    ((Cell.duration d).naturalText = (Cell.duration e).naturalText ↔
        d.milliseconds = e.milliseconds) ∧
      evaluate matcher locale (.duration d) ("=".toList ++ (Cell.duration e).naturalText) =
        .ok (decide (d.milliseconds = e.milliseconds)) ∧
      evaluate matcher locale (.duration d) ("<>".toList ++ (Cell.duration e).naturalText) =
        .ok (!decide (d.milliseconds = e.milliseconds)) := by
  have hcompared : Criterion.compareLiteral (.duration d) e.text =
      .unordered (decide (d.milliseconds = e.milliseconds)) := by
    rw [← Duration.foldedEqual_text]
    rfl
  have hdecided : ∀ operator, operator ≠ .minus →
      evaluate matcher locale (.duration d) (operator.token ++ e.text) =
        Criterion.compareGeneric operator (.duration d) e.text :=
    fun _ hop => evaluate_token_durationText matcher hlocale hop d e
  have hequal := hdecided .equal (by decide)
  have hother := hdecided .notEqual (by decide)
  rw [Criterion.compareGeneric, hcompared] at hequal hother
  exact ⟨Duration.text_eq_iff, hequal, hother⟩

/-- Two days, two hours and a millisecond, counted back. -/
def durationBack : Duration :=
  ⟨-180000001000000, by decide⟩

theorem evaluate_durationText_german :
    Locale.german ∈ Locale.registered ∧ durationBack.text = "-2.02:00:00.001".toList ∧
      evaluate .wildcard .german (.duration durationBack) "=-2.02:00:00.001".toList = .ok true := by
  have hlocale : Locale.german ∈ Locale.registered := by decide
  have htext : durationBack.text = "-2.02:00:00.001".toList := by decide
  obtain ⟨-, hequal, -⟩ := evaluate_durationText .wildcard hlocale durationBack durationBack
  rw [decide_eq_true rfl] at hequal
  have hnatural : (Cell.duration durationBack).naturalText = "-2.02:00:00.001".toList := htext
  rw [hnatural] at hequal
  exact ⟨hlocale, htext, hequal⟩

end Spreadsheet
