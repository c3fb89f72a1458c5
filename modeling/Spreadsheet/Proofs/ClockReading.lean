/-
# Reading the times of a clock

A time of day is written in numbers with colons between them: an hour, a minute and, if
need be, a second. The name of a half of the day after them, in the locale or in English,
makes the hour one of twelve.

* `Locale.timePart?_clock` — the numbers of a clock are the time of day, or that of the half
  of the day which is named after them.
* `Locale.readDate?_clock` — so they are after a date.
* `Locale.hourOfDay?_clockHour` — every hour is read back from a clock of twelve hours.
* `Locale.readDate?_withTime` — so every text of a date may have a time of day after it.
-/

import Mathlib.Data.List.Find
import Spreadsheet.Format.DatePattern
import Spreadsheet.Proofs.DateReading
import Spreadsheet.Proofs.Quotient

namespace Spreadsheet

/-! ### Times in numbers -/

/-- The text writes the hour, the minute and the second of a clock with colons between
them; without a second, it is zero. -/
inductive Text.WritesClock : (clock : Text) → (hour minute second : Nat) → Prop
  | minutes {hour minute : Text} {h m : Nat} (hhour : hour.Writes h) (hminute : minute.Writes m) :
    WritesClock (hour ++ ':' :: minute) h m 0
  | seconds {hour minute second : Text} {h m s : Nat} (hhour : hour.Writes h)
    (hminute : minute.Writes m) (hsecond : second.Writes s) :
    WritesClock (hour ++ ':' :: (minute ++ ':' :: second)) h m s

namespace Text

section Clock

variable {clock : Text} {h m s : Nat}

/-- A time of a clock is digits and colons. -/
theorem WritesClock.isDigit_or_colon (hclock : clock.WritesClock h m s) {c : Char}
    (hc : c ∈ clock) : c.isDigit = true ∨ c = ':' := by
  cases hclock with
  | minutes hhour hminute =>
    rw [List.mem_append, List.mem_cons] at hc
    rcases hc with hmem | heq | hmem
    · exact Or.inl (hhour.isDigit c hmem)
    · exact Or.inr heq
    · exact Or.inl (hminute.isDigit c hmem)
  | seconds hhour hminute hsecond =>
    rw [List.mem_append, List.mem_cons, List.mem_append, List.mem_cons] at hc
    rcases hc with hmem | heq | hmem | heq | hmem
    · exact Or.inl (hhour.isDigit c hmem)
    · exact Or.inr heq
    · exact Or.inl (hminute.isDigit c hmem)
    · exact Or.inr heq
    · exact Or.inl (hsecond.isDigit c hmem)

/-- A time of a clock holds no blank and no letter, and is its own lower case. -/
theorem WritesClock.kind (hclock : clock.WritesClock h m s) {c : Char} (hc : c ∈ clock) :
    isBlank c = false ∧ c ≠ 'Σ' ∧ lowercase c = [c] := by
  rcases hclock.isDigit_or_colon hc with hdigit | rfl
  · have hkind := isDigit_kind hdigit
    refine ⟨hkind.blank, ?_, hkind.lower⟩
    rintro rfl
    cases hdigit
  · decide +kernel

/-- Its first number is followed by a colon. -/
theorem WritesClock.exists_hour (hclock : clock.WritesClock h m s) :
    ∃ first hour rest, clock = first :: hour ++ ':' :: rest ∧
      ∀ c ∈ first :: hour, c.isDigit = true := by
  obtain ⟨hour, rest, rfl, hhour⟩ : ∃ hour rest, clock = hour ++ ':' :: rest ∧ hour.Writes h := by
    cases hclock with
    | minutes hhour => exact ⟨_, _, rfl, hhour⟩
    | seconds hhour => exact ⟨_, _, rfl, hhour⟩
  obtain ⟨first, others, rfl, -⟩ := hhour.exists_cons
  exact ⟨first, others, rest, rfl, hhour.isDigit⟩

/-- It ends with a digit. -/
theorem WritesClock.exists_concat (hclock : clock.WritesClock h m s) :
    ∃ before last, clock = before ++ [last] ∧ last.isDigit = true := by
  cases hclock with
  | @minutes hour minute _ _ _ hminute =>
    obtain ⟨before, last, rfl, hlast⟩ := hminute.exists_concat
    exact ⟨hour ++ ':' :: before, last, by simp, hlast⟩
  | @seconds hour minute second _ _ _ _ _ hsecond =>
    obtain ⟨before, last, rfl, hlast⟩ := hsecond.exists_concat
    exact ⟨hour ++ ':' :: (minute ++ ':' :: before), last, by simp, hlast⟩

/-- It is its own lower case. -/
theorem WritesClock.foldCase_eq (hclock : clock.WritesClock h m s) :
    'Σ' ∉ clock ∧ clock.foldCase = clock := by
  exact ⟨fun hmem => (hclock.kind hmem).2.1 rfl, foldCase_eq_self fun c hc => (hclock.kind hc).2⟩

end Clock

end Text

/-! ### Reading the parts -/

namespace Locale

/-- Seconds below sixty are read back, without milliseconds. -/
theorem secondsPart?_writes {digits : Text} {s : Nat} (h : digits.Writes s) (hs : s < 60) :
    secondsPart? digits.trim = some (s, 0) := by
  obtain ⟨hfinite, hvalue⟩ := Numeral.toRat_toBinary64 h (by omega)
  have hlow : (0 : Rat) ≤ s := Nat.cast_nonneg s
  have hhigh : (s : Rat) < 60 := by exact_mod_cast hs
  have htruncate : truncate (s : Rat) = s := by simp [truncate]
  have hthousandths : roundHalfUp (Binary64.ofRat 0).toRat = 0 := by
    rw [Binary64.toRat_ofRat_zero]
    exact roundHalfUp_natCast 0
  rw [h.trim_eq, secondsPart?, Numeral.ofPlain?_eq_some h]
  simp [hfinite, hvalue, hlow, hhigh, htruncate, hthousandths]

/-- **The numbers of a clock are read**, with the hour in the half of the day if one is
named. -/
theorem timePart?_of_splitDesignator {locale : Locale} {date : Date} {text clock : Text}
    {half : Option Bool} {h m s : Nat} (hsplit : locale.splitDesignator text.trim = (clock, half))
    (hclock : clock.WritesClock h m s) (hs : s < 60) :
    locale.timePart? date text =
      (hourOfDay? half h).bind fun hour => Instant.at? date hour m s 0 := by
  have hcount : ∀ {digits : Text} {n : Nat}, digits.Writes n →
      Numeral.count? digits.trim = some n := by
    intro digits n hdigits
    rw [hdigits.trim_eq, Numeral.count?_eq_some hdigits]
  rw [timePart?, hsplit]
  cases hclock with
  | @minutes hour minute _ _ hhour hminute =>
    have hparts : Text.split (· == ':') (hour ++ ':' :: minute) = [hour, minute] := by
      rw [Text.split_append_separator _ rfl, hhour.split_eq rfl, hminute.split_eq rfl]
      rfl
    simp [hparts, hcount hhour, hcount hminute]
  | @seconds hour minute second _ _ _ hhour hminute hsecond =>
    have hparts : Text.split (· == ':') (hour ++ ':' :: (minute ++ ':' :: second)) =
        [hour, minute, second] := by
      rw [Text.split_append_separator _ rfl, Text.split_append_separator _ rfl, hhour.split_eq rfl,
        hminute.split_eq rfl, hsecond.split_eq rfl]
      rfl
    simp [hparts, hcount hhour, hcount hminute, secondsPart?_writes hsecond hs]

/-! ### The halves of the day -/

/-- What names a half of the day in English, in any case of the letters, after the numbers
of a clock, and nothing for the numbers alone; true marks the second half. -/
def halfEndings : List (Text × Option Bool) :=
  [([], none), (" AM".toList, some false), (" Am".toList, some false), (" aM".toList, some false),
    (" am".toList, some false), (" PM".toList, some true), (" Pm".toList, some true),
    (" pM".toList, some true), (" pm".toList, some true)]

/-- The English names of the halves are all of them that differ in case only. -/
theorem mem_halfEndings {name : Text} {afternoon : Bool}
    (hname : name.equalsIgnoringAsciiCase [if afternoon then 'P' else 'A', 'M'] = true) :
    (' ' :: name, some afternoon) ∈ halfEndings := by
  obtain ⟨first, second, rfl, hfirst, hsecond⟩ := Text.pair_of_equalsIgnoringAsciiCase hname
  have hhalf := Text.eq_or_eq_of_toLower hfirst
  have hm := Text.eq_or_eq_of_toLower hsecond
  cases afternoon with
  | false => rcases hhalf with rfl | rfl <;> rcases hm with rfl | rfl <;> decide
  | true => rcases hhalf with rfl | rfl <;> rcases hm with rfl | rfl <;> decide

/-- Nothing is lost at the end of a text of visible characters and a half of the day. -/
theorem trimEnd_halfEnding {front ending : Text} {half : Option Bool}
    (hending : (ending, half) ∈ halfEndings) (hvisible : ∀ c ∈ front, isBlank c = false) :
    Text.trimEnd (front ++ ending) = front ++ ending := by
  by_cases hnil : ending = []
  · rw [hnil, List.append_nil, Text.trimEnd, Text.dropTrailing_eq_self hvisible]
  · exact Text.dropTrailing_append hnil
      ((by decide : ∀ found ∈ halfEndings, found.1.trimEnd = found.1) _ hending) front

/-- Nor at the ends of a time of a clock with a half of the day. -/
theorem trim_clock {clock ending : Text} {half : Option Bool} {h m s : Nat}
    (hclock : clock.WritesClock h m s) (hending : (ending, half) ∈ halfEndings) :
    Text.trim (clock ++ ending) = clock ++ ending := by
  refine Text.trim_of_head ?_ (trimEnd_halfEnding hending fun c hc => (hclock.kind hc).1)
  obtain ⟨first, hour, rest, rfl, hhour⟩ := hclock.exists_hour
  simpa using (isDigit_kind (hhour first List.mem_cons_self)).blank

/-- No name of a half of the day is one of a number, since none ends with a digit. -/
theorem designator_last {locale : Locale} (hlocale : locale ∈ registered)
    {found : Text × Bool} (h : found ∈ locale.designators) (hne : found.1 ≠ []) :
    ∃ before last, found.1.foldCase = before ++ [last] ∧ last.isDigit = false := by
  have hall : ∀ locale ∈ registered, ∀ found ∈ locale.designators, found.1 ≠ [] →
      found.1.foldCase ≠ [] ∧ found.1.foldCase.getLast?.all (fun c => !c.isDigit) = true := by
    decide +kernel
  obtain ⟨hfold, hlast⟩ := hall locale hlocale found h hne
  obtain ⟨before, last, hcut⟩ : ∃ before last, found.1.foldCase = before ++ [last] :=
    ⟨_, _, (List.dropLast_append_getLast hfold).symm⟩
  refine ⟨before, last, hcut, ?_⟩
  simpa [hcut] using hlast

/-- Whether the designator, with the half that it names, ends the text without regard to
case. -/
def endsWithDesignator (text : Text) (found : Text × Bool) : Bool :=
  !found.1.isEmpty && text.foldCase.endsWith found.1.foldCase

/-- Without a designator at its end, a text is a time of a clock. -/
theorem splitDesignator_of_none {locale : Locale} {clock : Text}
    (h : locale.designators.find? (endsWithDesignator clock) = none) :
    locale.splitDesignator clock = (clock, none) := by
  unfold splitDesignator
  dsimp only
  split
  · rename_i heq
    cases h.symm.trans heq
  · rfl

/-- The first designator at the end of a text is cut from it. -/
theorem splitDesignator_of_some {locale : Locale} {clock designator : Text} {half : Bool}
    (h : locale.designators.find? (endsWithDesignator clock) = some (designator, half)) :
    locale.splitDesignator clock =
      (Text.trimEnd (clock.take (clock.length - designator.length)), some half) := by
  unfold splitDesignator
  dsimp only
  split
  · rename_i heq
    cases h.symm.trans heq
    rfl
  · rename_i heq
    cases h.symm.trans heq

/-- A time of a clock alone names no half of the day. -/
theorem splitDesignator_numbers {locale : Locale} (hlocale : locale ∈ registered) {clock : Text}
    {h m s : Nat} (hclock : clock.WritesClock h m s) :
    locale.splitDesignator clock = (clock, none) := by
  obtain ⟨before, digit, hcut, hdigit⟩ := hclock.exists_concat
  apply splitDesignator_of_none
  rw [List.find?_eq_none]
  intro found hmem
  simp only [endsWithDesignator, Bool.and_eq_true, Bool.not_eq_true', List.isEmpty_eq_false_iff,
    not_and, Bool.not_eq_true]
  intro hne
  obtain ⟨ending, last, hending, hlast⟩ := designator_last hlocale hmem hne
  rw [hclock.foldCase_eq.2, hcut, hending]
  apply Text.endsWith_concat_of_ne
  rintro rfl
  rw [hdigit] at hlast
  cases hlast

/-- What the endings that name a half are: a blank and two letters, which every registered
locale takes for a name of that half. -/
theorem halfEnding_kind {ending : Text} {half : Bool}
    (hending : (ending, some half) ∈ halfEndings) :
    (∃ name, ending = ' ' :: name ∧ name.length = 2) ∧ 'Σ' ∉ ending ∧
      2 ≤ ending.foldCase.length ∧
      ∀ locale ∈ registered, ∃ designator, designator.length = 2 ∧
        locale.designators.find? (endsWithDesignator ending) = some (designator, half) := by
  have hkind : ∀ found ∈ halfEndings, found.2 ≠ none →
      found.1.length = 3 ∧ found.1.head? = some ' ' ∧ 'Σ' ∉ found.1 ∧
      2 ≤ found.1.foldCase.length ∧
      ∀ locale ∈ registered, (locale.designators.find? (endsWithDesignator found.1)).map
        (fun found => (found.1.length, some found.2)) = some (2, found.2) := by
    decide +kernel
  obtain ⟨hlength, hhead, hsigma, hfold, hfound⟩ :=
    hkind (ending, some half) hending (Option.some_ne_none half)
  obtain ⟨name, rfl⟩ := List.head?_eq_some_iff.mp hhead
  refine ⟨⟨name, rfl, by simpa using hlength⟩, hsigma, hfold, ?_⟩
  intro locale hlocale
  obtain ⟨⟨designator, other⟩, hfind, hpair⟩ := Option.map_eq_some_iff.mp (hfound locale hlocale)
  obtain ⟨htwo, hhalf⟩ := Prod.mk.inj hpair
  cases hhalf
  exact ⟨designator, htwo, hfind⟩

/-- The name of a half after a time of a clock is cut from it. -/
theorem splitDesignator_halfName {locale : Locale} (hlocale : locale ∈ registered)
    {clock ending : Text} {half : Bool} {h m s : Nat} (hclock : clock.WritesClock h m s)
    (hending : (ending, some half) ∈ halfEndings) :
    locale.splitDesignator (clock ++ ending) = (clock, some half) := by
  obtain ⟨⟨name, rfl, hlength⟩, hsigma, hfoldLength, hfind⟩ := halfEnding_kind hending
  obtain ⟨designator, htwo, hfound⟩ := hfind locale hlocale
  obtain ⟨hclockSigma, hclockFold⟩ := hclock.foldCase_eq
  have hshort : ∀ found ∈ locale.designators, found.1.foldCase.length ≤ 2 :=
    (by decide +kernel : ∀ locale ∈ registered, ∀ found ∈ locale.designators,
      found.1.foldCase.length ≤ 2) locale hlocale
  -- No name of a half is long enough to reach into the numbers.
  have hsame : ∀ found ∈ locale.designators,
      endsWithDesignator (clock ++ ' ' :: name) found = endsWithDesignator (' ' :: name) found := by
    intro found hmem
    rw [endsWithDesignator, endsWithDesignator, Text.foldCase_append hclockSigma hsigma, hclockFold,
      Text.endsWith_append (Nat.le_trans (hshort found hmem) hfoldLength)]
  have hfoundAfter : locale.designators.find? (endsWithDesignator (clock ++ ' ' :: name)) =
      some (designator, half) := by
    rw [← hfound]
    exact List.find?_congr hsame
  have htake : (clock ++ ' ' :: name).take ((clock ++ ' ' :: name).length - designator.length) =
      clock ++ [' '] := by
    have hcut : clock ++ ' ' :: name = (clock ++ [' ']) ++ name := by simp
    have hkept : ((clock ++ [' ']) ++ name).length - designator.length =
        (clock ++ [' ']).length := by
      rw [htwo, ← hlength, List.length_append, Nat.add_sub_cancel]
    rw [hcut, hkept, List.take_left]
  have htrim : Text.trimEnd (clock ++ [' ']) = clock := by
    obtain ⟨before, last, rfl, hlast⟩ := hclock.exists_concat
    rw [List.append_assoc, List.singleton_append,
      Text.trimEnd_append_cons (isDigit_kind hlast).blank]
    rfl
  rw [splitDesignator_of_some hfoundAfter, htake, htrim]

/-! ### Times and dates with times -/

/-- **The numbers of a clock are the time of day**, or that of the half of the day which is
named after them. -/
theorem timePart?_clock {locale : Locale} (hlocale : locale ∈ registered) (date : Date)
    {clock ending : Text} {half : Option Bool} {h m s : Nat} (hclock : clock.WritesClock h m s)
    (hending : (ending, half) ∈ halfEndings) (hs : s < 60) :
    locale.timePart? date (clock ++ ending) =
      (hourOfDay? half h).bind fun hour => Instant.at? date hour m s 0 := by
  refine timePart?_of_splitDesignator ?_ hclock hs
  rw [trim_clock hclock hending]
  cases half with
  | none =>
    have hnil : ending = [] :=
      (by decide : ∀ found ∈ halfEndings, found.2 = none → found.1 = []) _ hending rfl
    rw [hnil, List.append_nil, splitDesignator_numbers hlocale hclock]
  | some half => exact splitDesignator_halfName hlocale hclock hending

/-- **A date with the time of a clock after it is read** as that time of the date. -/
theorem readDate?_clock {locale : Locale} (hlocale : locale ∈ registered) {dateText : Text}
    (hcolon : ':' ∉ dateText) {date : Date} (hdate : locale.datePart? dateText.trim = some date)
    {separator : Char} (hseparator : isBlank separator = true ∨ separator = 'T')
    {clock ending : Text} {half : Option Bool} {h m s : Nat} (hclock : clock.WritesClock h m s)
    (hending : (ending, half) ∈ halfEndings) (hs : s < 60) :
    locale.readDate? (dateText ++ separator :: (clock ++ ending)) =
      (hourOfDay? half h).bind fun hour => Instant.at? date hour m s 0 := by
  obtain ⟨first, hour, rest, hcut, hhour⟩ := hclock.exists_hour
  have hvisible : ∀ c ∈ rest, isBlank c = false := by
    intro c hc
    have hmem : c ∈ clock := by simp [hcut, hc]
    exact (hclock.kind hmem).1
  have htext : clock ++ ending = first :: hour ++ ':' :: (rest ++ ending) := by simp [hcut]
  rw [← timePart?_clock hlocale date hclock hending hs, htext]
  exact readDate?_dateTime hcolon hdate hseparator hhour (trimEnd_halfEnding hending hvisible)

/-- So is a date in numbers. -/
theorem readDate?_inNumbers_clock {locale : Locale} (hlocale : locale ∈ registered) {date : Date}
    {order : DateOrder} (horder : order = .yearMonthDay ∨ order = locale.dateOrder) {mark : Char}
    (hmark : mark ∈ dateMarks) {width : Nat} (hwidth : width ≤ 2) (hlow : 0 ≤ date.year)
    (hhigh : date.year ≤ 9999) {separator : Char}
    (hseparator : isBlank separator = true ∨ separator = 'T') {clock ending : Text}
    {half : Option Bool} {h m s : Nat} (hclock : clock.WritesClock h m s)
    (hending : (ending, half) ∈ halfEndings) (hs : s < 60) :
    locale.readDate? (date.inNumbers order mark width ++ separator :: (clock ++ ending)) =
      (hourOfDay? half h).bind fun hour => Instant.at? date hour m s 0 := by
  have hkind : ∀ c ∈ date.inNumbers order mark width, isBlank c = false ∧ c ≠ ',' ∧ c ≠ ':' :=
    fun c hc => inNumericDate_kind (Date.inNumericDate_of_mem_inNumbers hmark c hc)
  have hcolon : ':' ∉ date.inNumbers order mark width := fun hmem => (hkind ':' hmem).2.2 rfl
  have htrim : Text.trim (date.inNumbers order mark width) = date.inNumbers order mark width :=
    Text.trim_of_visible fun c hc => (hkind c hc).1
  refine readDate?_clock hlocale hcolon ?_ hseparator hclock hending hs
  rw [htrim]
  exact datePart?_inNumbers horder hmark hwidth hlow hhigh

/-- Every hour is read back from a clock of twelve hours. -/
theorem hourOfDay?_clockHour {hour : Nat} (h : hour < 24) :
    hourOfDay? (some (decide (12 ≤ hour))) (clockHour hour) = some hour := by
  unfold hourOfDay? clockHour
  revert hour
  decide

/-! ### Dates of every form -/

/-- **A text that is read as a date may have a time of day after it.** In a registered locale,
whatever form the date has, the text with a blank and the numbers of a clock is read as that time
of the date; so is it with the numbers of a clock of twelve hours, a blank and the English name of
the half of the day in any case of its letters. -/
theorem readDate?_withTime {locale : Locale} (hlocale : locale ∈ registered) {text : Text}
    (hcolon : ':' ∉ text) {start : Instant} (hstart : locale.readDate? text = some start)
    {hour minute second : Nat} (hhour : hour < 24) (hminute : minute < 60) (hsecond : second < 60) :
    ∃ moment : Instant,
      (moment.date = start.date ∧ moment.hour = hour ∧ moment.minute = minute ∧
        moment.second = second ∧ moment.nanosecond = 0) ∧
      (∀ clock : Text, clock.WritesClock hour minute second →
        locale.readDate? (text ++ ' ' :: clock) = some moment) ∧
      (∀ clock name : Text, clock.WritesClock (clockHour hour) minute second →
        name.equalsIgnoringAsciiCase (if hour < 12 then "AM".toList else "PM".toList) = true →
        locale.readDate? (text ++ ' ' :: (clock ++ ' ' :: name)) = some moment) := by
  rw [readDate?_no_colon fun hmem => hcolon (Text.mem_of_mem_trim hmem)] at hstart
  obtain ⟨date, hdate, rfl⟩ := Option.map_eq_some_iff.mp hstart
  obtain ⟨moment, hmoment, hparts⟩ :=
    Instant.exists_at? date hhour hminute hsecond (by decide : 0 < 1000000000)
  have hblank : isBlank ' ' = true ∨ ' ' = 'T' := Or.inl (by decide)
  refine ⟨moment, hparts, fun clock hclock => ?_, fun clock name hclock hname => ?_⟩
  · have hread := readDate?_clock hlocale hcolon hdate hblank hclock
      (List.mem_cons_self : ([], none) ∈ halfEndings) hsecond
    rw [List.append_nil] at hread
    rw [hread]
    exact hmoment
  · have hhalf : name.equalsIgnoringAsciiCase
        [if decide (12 ≤ hour) then 'P' else 'A', 'M'] = true := by
      by_cases hmorning : hour < 12
      · rw [if_pos hmorning] at hname
        rw [decide_eq_false (by omega)]
        exact hname
      · rw [if_neg hmorning] at hname
        rw [decide_eq_true (by omega)]
        exact hname
    rw [readDate?_clock hlocale hcolon hdate hblank hclock (mem_halfEndings hhalf) hsecond,
      hourOfDay?_clockHour hhour]
    exact hmoment

/-- The name of a month, a day and a year with a blank before and a comma behind them, and half
past midnight on a clock of twelve hours. -/
theorem readDate?_withTime_pastMidnight :
    ∃ start moment : Instant, americanEnglish.readDate? " Jan 15, 2024,".toList = some start ∧
      (moment.date = start.date ∧ moment.hour = 0 ∧ moment.minute = 30 ∧ moment.second = 5 ∧
        moment.nanosecond = 0) ∧
      americanEnglish.readDate? " Jan 15, 2024, 12:30:05 aM".toList = some moment := by
  have hlocale : americanEnglish ∈ registered := by decide
  obtain ⟨start, hstart⟩ := Option.isSome_iff_exists.mp
    (by decide +kernel : (americanEnglish.readDate? " Jan 15, 2024,".toList).isSome = true)
  obtain ⟨moment, hparts, -, htwelve⟩ := readDate?_withTime hlocale (by decide) hstart
    (by decide : 0 < 24) (by decide : 30 < 60) (by decide : 5 < 60)
  exact ⟨start, moment, hstart, hparts, htwelve "12:30:05".toList "aM".toList
    (.seconds (Text.writes_number 2 12) (Text.writes_number 2 30) (Text.writes_number 2 5))
    (by decide)⟩

end Locale

end Spreadsheet
