/-
# Reading the dates that are written in numbers

Three written numbers with marks between them are a date in numbers, in the order of the
locale, or with the year first when it has four digits. A text without a colon is the start of
the day; where a time of day follows, it is cut from the date with the commas and blanks before
it.

* `Locale.datePart?_numbers` — three numbers between marks are a date in numbers.
* `Locale.datePart?_ordered` — what a date in an order is read as.
* `Locale.datePart?_join` — a date with a year of four digits is read back.
* `Locale.datePart?_named` — so is a date with the name of a month.
* `Locale.datePart?_cut` — commas and blanks behind a date do not matter.
* `Locale.readDate?_dateTime` — a date and a time of day are read one after the other.
-/

import Spreadsheet.Calendar.Numbering
import Spreadsheet.Proofs.WrittenNumber

namespace Spreadsheet

/-- The marks between the numbers of a date. -/
def dateMarks : List Char := ['/', '-', '.']

/-- What the marks are: they separate, but are no digits, blanks or commas. -/
theorem dateMark_kind {c : Char} (h : c ∈ dateMarks) :
    separatesDateParts c = true ∧ c.isDigit = false ∧ isBlank c = false ∧ c ≠ ',' ∧ c ≠ ':' := by
  simp only [dateMarks, List.mem_cons, List.not_mem_nil, or_false] at h
  rcases h with rfl | rfl | rfl <;> decide

/-- The parts of a date in the order, with marks between them. -/
def DateOrder.join (order : DateOrder) (first second : Char) (year month day : Text) : Text :=
  match order with
  | .monthDayYear => month ++ first :: (day ++ second :: year)
  | .dayMonthYear => day ++ first :: (month ++ second :: year)
  | .yearMonthDay => year ++ first :: (month ++ second :: day)

/-- The date in numbers: the year in four digits, the month and the day in at least so many
as the width asks for, and the mark between them. -/
def Date.inNumbers (date : Date) (order : DateOrder) (mark : Char) (width : Nat) : Text :=
  order.join mark mark (Text.number 4 date.year.toNat) (Text.number width date.month)
    (Text.number width date.day)

/-- The digits and the marks of a date in numbers. -/
def inNumericDate (c : Char) : Bool :=
  c.isDigit || dateMarks.contains c

/-- Whether the characters of a date in numbers are digits or marks, they are visible and
end no date. -/
theorem inNumericDate_kind {c : Char} (h : inNumericDate c = true) :
    isBlank c = false ∧ c ≠ ',' ∧ c ≠ ':' := by
  rw [inNumericDate, Bool.or_eq_true, List.contains_iff_mem] at h
  rcases h with hdigit | hmark
  · exact forall_isDigit (p := fun c => isBlank c = false ∧ c ≠ ',' ∧ c ≠ ':') (by decide) hdigit
  · obtain ⟨-, -, hblank, hcomma, hcolon⟩ := dateMark_kind hmark
    exact ⟨hblank, hcomma, hcolon⟩

namespace Locale

section Numbers

variable {locale : Locale} {a b c : Text} {l m n : Nat} {first second : Char}

/-- A date in numbers is written with digits and its two marks. -/
theorem isDigit_or_mark (ha : a.Writes l) (hb : b.Writes m) (hc : c.Writes n) :
    ∀ d ∈ a ++ first :: (b ++ second :: c), d.isDigit = true ∨ d = first ∨ d = second := by
  intro d hd
  simp only [List.mem_append, List.mem_cons] at hd
  rcases hd with hmem | heq | hmem | heq | hmem
  · exact Or.inl (ha.isDigit d hmem)
  · exact Or.inr (Or.inl heq)
  · exact Or.inl (hb.isDigit d hmem)
  · exact Or.inr (Or.inr heq)
  · exact Or.inl (hc.isDigit d hmem)

/-- **Three numbers between marks are a date in numbers.** -/
theorem datePart?_numbers (ha : a.Writes l) (hb : b.Writes m) (hc : c.Writes n)
    (hfirst : first ∈ dateMarks) (hsecond : second ∈ dateMarks) :
    locale.datePart? (a ++ first :: (b ++ second :: c)) =
      locale.numericDate? (first == '-' || second == '-') a b c := by
  have hfields : Text.fields separatesDateParts (a ++ first :: (b ++ second :: c)) = [a, b, c] := by
    rw [Text.fields_append_separator a (dateMark_kind hfirst).1,
      Text.fields_append_separator b (dateMark_kind hsecond).1, ha.fields_eq, hb.fields_eq,
      hc.fields_eq]
    rfl
  have hdigits : (a.all Char.isDigit && b.all Char.isDigit && c.all Char.isDigit) = true := by
    simp only [Bool.and_eq_true, List.all_eq_true]
    exact ⟨⟨ha.isDigit, hb.isDigit⟩, hc.isDigit⟩
  have hplain : (a ++ first :: (b ++ second :: c)).any (fun c => c == ',' || isBlank c) =
      false := by
    rw [List.any_eq_false]
    intro d hd
    have hnumeric : inNumericDate d = true := by
      rw [inNumericDate, Bool.or_eq_true, List.contains_iff_mem]
      rcases isDigit_or_mark ha hb hc d hd with hdigit | rfl | rfl
      · exact Or.inl hdigit
      · exact Or.inr hfirst
      · exact Or.inr hsecond
    obtain ⟨hblank, hcomma, -⟩ := inNumericDate_kind hnumeric
    simp [hblank, hcomma]
  have hdash : (a ++ first :: (b ++ second :: c)).contains '-' =
      (first == '-' || second == '-') := by
    have haDash : '-' ∉ a := ha.notMem rfl
    have hbDash : '-' ∉ b := hb.notMem rfl
    have hcDash : '-' ∉ c := hc.notMem rfl
    rw [Bool.eq_iff_iff]
    simp [haDash, hbDash, hcDash, eq_comm (a := '-')]
  rw [datePart?, hfields]
  dsimp only
  rw [hdigits, if_pos rfl, hplain, hdash]
  rfl

end Numbers

/-! ### Dates in an order -/

section Order

variable {locale : Locale} {order : DateOrder} {first second : Char} {date : Date}
  {year month day : Text} {y : Nat}

/-- A year of four digits is not a short one. -/
theorem yearOfDigits_four (locale : Locale) (hyear : year.Writes y) (hlength : year.length = 4) :
    locale.yearOfDigits year (Nat.ofDigitChars 10 year 0) = y := by
  rw [yearOfDigits, if_neg (by omega), hyear.value]

/-- **What a date in an order is read as**: the order is that of the locale, or a year of four
digits comes first. The date is read back, except that a dash asks for a year that comes first or
has four digits. -/
theorem datePart?_ordered
    (horder : order = .yearMonthDay ∧ year.length = 4 ∨ order = locale.dateOrder)
    (hfirst : first ∈ dateMarks) (hsecond : second ∈ dateMarks) (hyear : year.Writes y)
    (hmonth : month.Writes date.month) (hday : day.Writes date.day)
    (hdate : locale.yearOfDigits year (Nat.ofDigitChars 10 year 0) = date.year)
    (hmonthLength : month.length ≤ 2) (hdayLength : day.length ≤ 2) :
    locale.datePart? (order.join first second year month day) =
      if (first = '-' ∨ second = '-') ∧ order ≠ .yearMonthDay ∧ year.length ≠ 4 then none
      else some date := by
  have hof : Date.of? (locale.yearOfDigits year (Nat.ofDigitChars 10 year 0))
      (Nat.ofDigitChars 10 month 0) (Nat.ofDigitChars 10 day 0) = some date := by
    rw [hdate, hmonth.value, hday.value, Date.of?_self]
  cases order with
  | yearMonthDay =>
    have hnumeric : locale.numericOrder year = .yearMonthDay := by
      rcases horder with ⟨-, hfour⟩ | hown
      · rw [numericOrder, if_pos hfour]
      · rw [numericOrder, ← hown, ite_self]
    rw [DateOrder.join, datePart?_numbers hyear hmonth hday hfirst hsecond, if_neg (by simp)]
    simp only [numericDate?, hnumeric, hof]
  | monthDayYear =>
    have hnumeric : locale.numericOrder month = .monthDayYear := by
      rcases horder with ⟨hother, -⟩ | hown
      · cases hother
      · rw [numericOrder, if_neg (by omega), ← hown]
    rw [DateOrder.join, datePart?_numbers hmonth hday hyear hfirst hsecond]
    simp only [numericDate?, hnumeric, hof]
    simp
  | dayMonthYear =>
    have hnumeric : locale.numericOrder day = .dayMonthYear := by
      rcases horder with ⟨hother, -⟩ | hown
      · cases hother
      · rw [numericOrder, if_neg (by omega), ← hown]
    rw [DateOrder.join, datePart?_numbers hday hmonth hyear hfirst hsecond]
    simp only [numericDate?, hnumeric, hof]
    simp

/-- **A date with a year of four digits is read back**, in the order of the locale and with
the year first. -/
theorem datePart?_join (horder : order = .yearMonthDay ∨ order = locale.dateOrder)
    (hfirst : first ∈ dateMarks) (hsecond : second ∈ dateMarks) (hyear : year.Writes y)
    (hmonth : month.Writes date.month) (hday : day.Writes date.day) (hdate : date.year = y)
    (hyearLength : year.length = 4) (hmonthLength : month.length ≤ 2)
    (hdayLength : day.length ≤ 2) :
    locale.datePart? (order.join first second year month day) = some date := by
  have hlong : locale.yearOfDigits year (Nat.ofDigitChars 10 year 0) = date.year := by
    rw [yearOfDigits_four locale hyear hyearLength, hdate]
  rw [datePart?_ordered (horder.imp_left fun h => ⟨h, hyearLength⟩) hfirst hsecond hyear hmonth
    hday hlong hmonthLength hdayLength, if_neg fun h => h.2.2 hyearLength]

end Order

/-! ### Dates as they are shown in numbers -/

end Locale

/-- The months and the days of a date have at most two digits. -/
theorem Date.month_day_lt (date : Date) : date.month < 100 ∧ date.day < 100 := by
  obtain ⟨hone, hday⟩ := date.day_lt
  obtain ⟨htwelve, hshort⟩ := (by decide : ∀ leap, (Calendar.monthLengths leap).length = 12 ∧
    ∀ length ∈ Calendar.monthLengths leap, length < 100) (Calendar.isLeapYear date.year)
  cases hget : (Calendar.monthLengths (Calendar.isLeapYear date.year))[date.month - 1]? with
  | none =>
    rw [hget, Option.getD_none] at hday
    omega
  | some length =>
    obtain ⟨hindex, -⟩ := List.getElem?_eq_some_iff.mp hget
    have hlength := hshort length (List.mem_of_getElem? hget)
    rw [hget, Option.getD_some] at hday
    omega

namespace DateOrder

variable {order : DateOrder} {first second : Char} {year month day : Text} {l m n : Nat}
  (hyear : year.Writes l) (hmonth : month.Writes m) (hday : day.Writes n)
include hyear hmonth hday

/-- In any order, a date in numbers is written with digits and its two marks. -/
theorem isDigit_or_mark :
    ∀ c ∈ order.join first second year month day, c.isDigit = true ∨ c = first ∨ c = second := by
  cases order with
  | monthDayYear => exact Locale.isDigit_or_mark hmonth hday hyear
  | dayMonthYear => exact Locale.isDigit_or_mark hday hmonth hyear
  | yearMonthDay => exact Locale.isDigit_or_mark hyear hmonth hday

/-- With marks of dates, these are the characters of a date in numbers. -/
theorem inNumericDate_of_mem (hfirst : first ∈ dateMarks) (hsecond : second ∈ dateMarks) :
    ∀ c ∈ order.join first second year month day, inNumericDate c = true := by
  intro c hc
  rw [inNumericDate, Bool.or_eq_true, List.contains_iff_mem]
  rcases isDigit_or_mark hyear hmonth hday c hc with hdigit | rfl | rfl
  · exact Or.inl hdigit
  · exact Or.inr hfirst
  · exact Or.inr hsecond

end DateOrder

section InNumbers

variable {date : Date} {order : DateOrder} {mark : Char} {width : Nat}

/-- The numbers of a date are written with digits and the mark. -/
theorem Date.isDigit_or_mark :
    ∀ c ∈ date.inNumbers order mark width, c.isDigit = true ∨ c = mark := by
  intro c hc
  have hmarks := DateOrder.isDigit_or_mark (Text.writes_number _ _) (Text.writes_number _ _)
    (Text.writes_number _ _) c hc
  simpa using hmarks

/-- With a mark of dates, they are the characters of a date in numbers. -/
theorem Date.inNumericDate_of_mem_inNumbers (hmark : mark ∈ dateMarks) :
    ∀ c ∈ date.inNumbers order mark width, inNumericDate c = true :=
  DateOrder.inNumericDate_of_mem (Text.writes_number _ _) (Text.writes_number _ _)
    (Text.writes_number _ _) hmark hmark

/-- The numbers of a date start with a written number and a mark. -/
theorem Date.exists_inNumbers (date : Date) (order : DateOrder) (mark : Char) (width : Nat) :
    ∃ digits n rest, digits.Writes n ∧
      date.inNumbers order mark width = digits ++ mark :: rest := by
  cases order <;> exact ⟨_, _, _, Text.writes_number _ _, rfl⟩

/-- **A date in numbers is read back** in the order of the locale and with the year first. -/
theorem Locale.datePart?_inNumbers {locale : Locale}
    (horder : order = .yearMonthDay ∨ order = locale.dateOrder) (hmark : mark ∈ dateMarks)
    (hwidth : width ≤ 2) (hlow : 0 ≤ date.year) (hhigh : date.year ≤ 9999) :
    locale.datePart? (date.inNumbers order mark width) = some date := by
  obtain ⟨hmonth, hday⟩ := date.month_day_lt
  exact datePart?_join horder hmark hmark (Text.writes_number _ _) (Text.writes_number _ _)
    (Text.writes_number _ _) (Int.toNat_of_nonneg hlow).symm
    (Text.length_number (by decide) (by omega))
    (Text.length_number_le (by decide) hwidth hmonth)
    (Text.length_number_le (by decide) hwidth hday)

end InNumbers

namespace Locale

/-! ### Dates with the name of a month -/

section Named

variable {locale : Locale} {date : Date} {text name day year : Text} {y : Nat}

/-- **A date with the name of a month is read back**: a day and a year of four digits, with
the name before or between them. -/
theorem datePart?_named (hfields : text.fields separatesDateParts = [name, day, year] ∨
      text.fields separatesDateParts = [day, name, year])
    (hname : name.any isLetter = true) {month : Fin 12}
    (hmonth : locale.monthNamed? name = some month) (hdate : date.month = month + 1)
    (hday : day.Writes date.day) (hdayLength : day.length ≤ 2) (hyear : year.Writes y)
    (hyearDate : date.year = y) (hyearLength : year.length = 4) :
    locale.datePart? text = some date := by
  have hdigits : name.all Char.isDigit = false := by
    rw [Bool.eq_false_iff]
    intro hall
    obtain ⟨c, hc, hletter⟩ := List.any_eq_true.mp hname
    rw [(isDigit_kind (List.all_eq_true.mp hall c hc)).letter] at hletter
    cases hletter
  have hnamed : locale.namedDate? name day year = some date := by
    have hne : ¬day.length = 4 := by omega
    have hyearValue := yearOfDigits_four locale hyear hyearLength
    rw [hyear.value] at hyearValue
    simp only [namedDate?, hmonth, Numeral.count?_eq_some hday, Numeral.count?_eq_some hyear,
      Option.bind_eq_bind, Option.bind_some, hne, if_false, hyearValue, ← hdate, ← hyearDate,
      Date.of?_self]
  rcases hfields with hfields | hfields
  · simp [datePart?, hfields, hdigits, hname, hnamed]
  · simp [datePart?, hfields, hdigits, hname, hday.any_isLetter, hnamed]

end Named

/-! ### Dates and times of day -/

section DateTime

variable {locale : Locale} {dateText : Text} {date : Date}

/-- A date alone is its start, if no blank stands around it and it holds no colon. -/
theorem readDate?_of_datePart (htrim : dateText.trim = dateText) (hcolon : ':' ∉ dateText)
    (hdate : locale.datePart? dateText = some date) :
    locale.readDate? dateText = some (.midnight date) := by
  rw [readDate?_no_colon (by rwa [htrim]), htrim, hdate, Option.map_some]

/-- A text of digits and marks is read as a date alone. -/
theorem readDate?_inNumericDate (hchars : ∀ c ∈ dateText, inNumericDate c = true) :
    locale.readDate? dateText = (locale.datePart? dateText).map .midnight := by
  have htrim : dateText.trim = dateText :=
    Text.trim_of_visible fun c hc => (inNumericDate_kind (hchars c hc)).1
  have hcolon : ':' ∉ dateText := fun hmem => (inNumericDate_kind (hchars ':' hmem)).2.2 rfl
  rw [readDate?_no_colon (by rwa [htrim]), htrim]

/-- A date in numbers alone is its start. -/
theorem readDate?_date (hchars : ∀ c ∈ dateText, inNumericDate c = true)
    (hdate : locale.datePart? dateText = some date) :
    locale.readDate? dateText = some (.midnight date) := by
  rw [readDate?_inNumericDate hchars, hdate, Option.map_some]

/-- A text is read as a date by its fields, unless the date is in numbers: then it must hold no
comma and no blank. -/
theorem datePart?_of_fields {text : Text} (hdate : locale.datePart? dateText = some date)
    (hfields : text.fields separatesDateParts = dateText.fields separatesDateParts)
    (hplain : dateText.any (fun c => c == ',' || isBlank c) = false → text = dateText) :
    locale.datePart? text = some date := by
  cases hloose : dateText.any (fun c => c == ',' || isBlank c) with
  | false => rwa [hplain hloose]
  | true =>
    unfold datePart? at hdate ⊢
    rw [hfields]
    split at hdate
    · split at hdate
      · cases hdate
      · rename_i hnumeric
        rwa [if_neg hnumeric]
    · cases hdate

/-- **Commas and blanks behind a date do not matter** where they are cut from it. -/
theorem datePart?_cut (hdate : locale.datePart? dateText.trimEnd = some date) :
    locale.datePart? (Text.trimEnd (dateText.dropTrailing (· == ','))) = some date := by
  have hblank : ∀ c, isBlank c = true → separatesDateParts c = true := by
    intro c hc
    simp [separatesDateParts, hc]
  have hcomma : ∀ c : Char, (c == ',') = true → separatesDateParts c = true := by
    intro c hc
    simp [separatesDateParts, hc]
  refine datePart?_of_fields hdate ?_ fun hplain => ?_
  · rw [Text.trimEnd, Text.fields_dropTrailing hblank, Text.fields_dropTrailing hcomma,
      Text.trimEnd, Text.fields_dropTrailing hblank]
  · -- the blanks behind the date keep a comma from the end, and there is none before them
    obtain ⟨blanks, hcut, hblanks⟩ := Text.exists_dropTrailing_append isBlank dateText
    have hnone : ∀ c ∈ dateText, (c == ',') = false := by
      intro c hc
      rw [hcut, List.mem_append] at hc
      rcases hc with hmem | hmem
      · have hkind := List.any_eq_false.mp hplain c hmem
        simp only [Bool.or_eq_true, not_or, Bool.not_eq_true] at hkind
        exact hkind.1
      · rw [beq_eq_false_iff_ne]
        rintro rfl
        exact absurd (hblanks ',' hmem) (by decide)
    rw [Text.dropTrailing_eq_self hnone]

/-- A clock time that is written after a date, with a blank or a `T` between them, is cut
from it. -/
theorem splitDateAndTime_append {separator : Char}
    (hseparator : isBlank separator = true ∨ separator = 'T') {hour rest : Text}
    (hcolon : ∀ c ∈ dateText, (c == ':') = false) (hhour : ∀ c ∈ hour, c.isDigit = true)
    (hend : rest.trimEnd = rest) :
    splitDateAndTime (dateText ++ separator :: (hour ++ ':' :: rest)) =
      (Text.trimEnd (dateText.dropTrailing (· == ',')), some (hour ++ ':' :: rest)) := by
  have hcut : dateText ++ separator :: (hour ++ ':' :: rest) =
      (dateText ++ separator :: hour) ++ ':' :: rest := by simp
  have hbefore : ∀ c ∈ dateText ++ separator :: hour, (c == ':') = false := by
    intro c hc
    rw [List.mem_append, List.mem_cons] at hc
    rcases hc with hmem | heq | hmem
    · exact hcolon c hmem
    · subst heq
      rcases hseparator with hblank | rfl
      · rw [beq_eq_false_iff_ne]
        rintro rfl
        exact absurd hblank (by decide)
      · rfl
    · exact (isDigit_kind (hhour c hmem)).colon
  have hstop : (isBlank separator || separator == 'T') = true := by simpa using hseparator
  have hafter : ∀ c ∈ hour, (isBlank c || c == 'T') = false := by
    intro c hc
    have hkind := isDigit_kind (hhour c hc)
    rw [hkind.blank, hkind.timeMark, Bool.or_false]
  have htime : Text.trim (hour ++ ':' :: rest) = hour ++ ':' :: rest := by
    have hclock : Text.trimEnd (hour ++ ':' :: rest) = hour ++ ':' :: rest := by
      rw [Text.trimEnd_append_cons (by decide), hend]
    refine Text.trim_of_head ?_ hclock
    cases hour with
    | nil => rfl
    | cons c hour => simpa using (isDigit_kind (hhour c List.mem_cons_self)).blank
  rw [splitDateAndTime, hcut, Text.breakAt_append_cons hbefore rfl]
  dsimp only
  rw [Text.breakAtLast?_append_cons hstop hafter]
  dsimp only
  rw [htime]

/-- **A date and a time of day are read one after the other**, with a blank or a `T` between
them. -/
theorem readDate?_dateTime (hcolon : ':' ∉ dateText)
    (hdate : locale.datePart? dateText.trim = some date) {separator : Char}
    (hseparator : isBlank separator = true ∨ separator = 'T') {hour rest : Text}
    (hhour : ∀ c ∈ hour, c.isDigit = true) (hend : rest.trimEnd = rest) :
    locale.readDate? (dateText ++ separator :: (hour ++ ':' :: rest)) =
      locale.timePart? date (hour ++ ':' :: rest) := by
  have hstart : dateText.trimStart ≠ [] := by
    intro hnil
    rw [Text.trim, hnil] at hdate
    cases hdate
  have hstartColon : ∀ c ∈ dateText.trimStart, (c == ':') = false := by
    intro c hc
    rw [beq_eq_false_iff_ne]
    rintro rfl
    exact hcolon (Text.mem_of_mem_trimStart hc)
  have htail : Text.trimEnd (separator :: (hour ++ ':' :: rest)) =
      separator :: (hour ++ ':' :: rest) := by
    have hcut : separator :: (hour ++ ':' :: rest) = (separator :: hour) ++ ':' :: rest := rfl
    rw [hcut, Text.trimEnd_append_cons (by decide), hend]
  rw [readDate?, Text.trim_append hstart (List.cons_ne_nil _ _) htail,
    splitDateAndTime_append hseparator hstartColon hhour hend]
  dsimp only
  rw [datePart?_cut hdate]

end DateTime

end Locale

end Spreadsheet
