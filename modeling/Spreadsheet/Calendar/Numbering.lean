/-
# The numbering of days

Days are numbered from 1899-12-30. A date and its number determine each other, and
later dates have greater numbers.

* `ofNumber?_number` — a date is found again from its number.
* `number_lt_iff` — numbers are in the order of the calendar.
* `exists_number_eq` — between two dates no number is left out.
-/

import Spreadsheet.Calendar.Date

namespace Spreadsheet

namespace Calendar

/-! ### Lengths of years and months -/

/-- The number of days in a year. -/
def yearLength (year : Int) : Nat :=
  if isLeapYear year then 366 else 365

/-- Every fourth year is a leap year, but of the hundredth ones only every fourth. -/
theorem isLeapYear_iff {year : Int} :
    isLeapYear year = true ↔ year % 4 = 0 ∧ (year % 100 ≠ 0 ∨ year % 400 = 0) := by
  simp [isLeapYear]

/-- A year starts where the one before it ends. -/
theorem daysBeforeYear_succ (year : Int) :
    daysBeforeYear (year + 1) = daysBeforeYear year + yearLength year := by
  have hleap := @isLeapYear_iff year
  unfold daysBeforeYear yearLength
  split
  · rename_i h
    rw [hleap] at h
    dsimp only
    omega
  · rename_i h
    rw [hleap] at h
    dsimp only
    omega

/-- Later years start later. -/
theorem daysBeforeYear_mono {a b : Int} (h : a ≤ b) : daysBeforeYear a ≤ daysBeforeYear b := by
  unfold daysBeforeYear
  dsimp only
  omega

/-- A sum may start with what is added to it. -/
theorem foldl_add (lengths : List Nat) (n : Nat) :
    lengths.foldl (· + ·) n = n + lengths.foldl (· + ·) 0 := by
  induction lengths generalizing n with
  | nil => rfl
  | cons length rest ih => rw [List.foldl_cons, List.foldl_cons, ih, ih (0 + length)]; omega

/-- The days up to the end of a month are at most those of the year. -/
theorem sum_take_add_le (lengths : List Nat) (index : Nat) :
    (lengths.take index).foldl (· + ·) 0 + lengths[index]?.getD 0 ≤ lengths.foldl (· + ·) 0 := by
  induction lengths generalizing index with
  | nil => simp
  | cons length rest ih =>
    cases index with
    | zero =>
      rw [List.foldl_cons, foldl_add rest]
      simp only [List.take_zero, List.foldl_nil, List.getElem?_cons_zero, Option.getD_some]
      omega
    | succ index =>
      have := ih index
      rw [List.take_succ_cons, List.foldl_cons, List.foldl_cons, foldl_add, foldl_add rest]
      simp only [List.getElem?_cons_succ]
      omega

/-- A month ends no later than a later one starts. -/
theorem sum_take_mono (lengths : List Nat) {i j : Nat} (h : i + 1 ≤ j) :
    (lengths.take i).foldl (· + ·) 0 + lengths[i]?.getD 0 ≤ (lengths.take j).foldl (· + ·) 0 := by
  have hle := sum_take_add_le (lengths.take j) i
  rwa [List.take_take, Nat.min_eq_left (by omega), List.getElem?_take_of_lt (by omega)] at hle

/-- The months of a year fill it. -/
theorem sum_monthLengths (leap : Bool) :
    (monthLengths leap).foldl (· + ·) 0 = if leap then 366 else 365 := by
  cases leap <;> rfl

end Calendar

open Calendar

namespace Date

/-! ### From numbers to dates -/

/-- The days of a year lie in that year. -/
theorem yearOfDays_daysBeforeYear {year : Int} {day : Nat} (h : day < yearLength year) :
    yearOfDays (daysBeforeYear year + day) = year := by
  have hleap := @isLeapYear_iff year
  have hlength : day < 365 ∨ day = 365 ∧ isLeapYear year = true := by
    unfold yearLength at h
    split at h <;> rename_i hy
    · by_cases hday : day < 365
      · exact Or.inl hday
      · exact Or.inr ⟨by omega, hy⟩
    · exact Or.inl h
  rw [hleap] at hlength
  obtain ⟨eras, centuries, cycles, years, hyear, hcenturies, hcycles, hyears⟩ :
      ∃ eras centuries cycles years : Int,
        year = 400 * eras + 100 * centuries + 4 * cycles + years + 1 ∧
          (0 ≤ centuries ∧ centuries ≤ 3) ∧ (0 ≤ cycles ∧ cycles ≤ 24) ∧
            (0 ≤ years ∧ years ≤ 3) :=
    ⟨(year - 1) / 400, (year - 1) % 400 / 100, (year - 1) % 100 / 4, (year - 1) % 4, by omega,
      by omega, by omega, by omega⟩
  have hdays : daysBeforeYear year + day =
      146097 * eras + (36524 * centuries + 1461 * cycles + 365 * years + day) := by
    unfold daysBeforeYear
    dsimp only
    omega
  have hlast : day < 365 ∨ day = 365 ∧ years = 3 ∧ (cycles < 24 ∨ centuries = 3) := by
    omega
  generalize hinEra : 36524 * centuries + 1461 * cycles + 365 * years + (day : Int) = inEra at hdays
  have hera : (daysBeforeYear year + day) / 146097 = eras := by omega
  have hmod : (daysBeforeYear year + day) % 146097 = inEra := by omega
  have hcentury : min 3 (inEra / 36524) = centuries := by omega
  have hcycle : (inEra - centuries * 36524) / 1461 = cycles := by omega
  have hyearOf : min 3 ((inEra - centuries * 36524) % 1461 / 365) = years := by omega
  unfold yearOfDays
  dsimp only
  rw [hmod, hcentury, hera, hcycle, hyearOf, hyear]


/-- A day of a month is found among the months, counted on from the first one. -/
theorem monthAndDay_sum_take (month : Nat) (lengths : List Nat) {index day : Nat}
    (h : day < lengths[index]?.getD 0) :
    monthAndDay month ((lengths.take index).foldl (· + ·) 0 + day) lengths =
      (month + index, day + 1) := by
  induction lengths generalizing month index with
  | nil => simp at h
  | cons length rest ih =>
    cases index with
    | zero =>
      have hday : day < length := by simpa using h
      simp [monthAndDay, hday]
    | succ index =>
      have hrest : day < rest[index]?.getD 0 := by simpa using h
      have hsum : ((length :: rest).take (index + 1)).foldl (· + ·) 0 =
          length + (rest.take index).foldl (· + ·) 0 := by
        rw [List.take_succ_cons, List.foldl_cons, Nat.zero_add]
        exact foldl_add (rest.take index) length
      rw [hsum, monthAndDay, if_neg (by omega)]
      have hsub : length + (rest.take index).foldl (· + ·) 0 + day - length =
          (rest.take index).foldl (· + ·) 0 + day := by omega
      rw [hsub, ih (month + 1) hrest, Nat.add_assoc, Nat.add_comm 1 index]

/-- The month of a date, January being 0, has its days. -/
theorem day_lt (date : Date) :
    1 ≤ date.month ∧
      date.day - 1 < (monthLengths (isLeapYear date.year))[date.month - 1]?.getD 0 := by
  have h := date.day_range
  unfold daysInMonth at h
  split at h <;> omega

/-- The day of the year, counted from 0. -/
def dayOfYear (date : Date) : Nat :=
  daysBeforeMonth (isLeapYear date.year) date.month + (date.day - 1)

/-- The day of the year lies in the year. -/
theorem dayOfYear_lt (date : Date) : date.dayOfYear < yearLength date.year := by
  have hle := sum_take_add_le (monthLengths (isLeapYear date.year)) (date.month - 1)
  have hday := date.day_lt.2
  rw [sum_monthLengths] at hle
  unfold dayOfYear daysBeforeMonth yearLength
  omega

/-- A date is found again from its number. -/
theorem ofNumber?_number (date : Date) : ofNumber? date.number = some date := by
  have hdays : date.number + originDays = daysBeforeYear date.year + date.dayOfYear := by
    unfold number dayOfYear
    omega
  have hyear := yearOfDays_daysBeforeYear (dayOfYear_lt date)
  obtain ⟨hmonth, hday⟩ := date.day_lt
  have hfound := monthAndDay_sum_take 1 _ hday
  unfold ofNumber?
  dsimp only
  rw [hdays, hyear]
  have hsub : (daysBeforeYear date.year + date.dayOfYear - daysBeforeYear date.year).toNat =
      ((monthLengths (isLeapYear date.year)).take (date.month - 1)).foldl (· + ·) 0 +
        (date.day - 1) := by
    unfold dayOfYear daysBeforeMonth
    omega
  rw [hsub, hfound]
  have hm : 1 + (date.month - 1) = date.month := by omega
  have hd : date.day - 1 + 1 = date.day := by
    have := date.day_range
    omega
  dsimp only
  rw [hm, hd, of?_self]


/-! ### Order -/

/-- The later of two years has all its days after those of the earlier one. -/
theorem number_lt_of_year_lt {a b : Date} (h : a.year < b.year) : a.number < b.number := by
  have hstart := daysBeforeYear_mono (show a.year + 1 ≤ b.year by omega)
  have hnext := daysBeforeYear_succ a.year
  have hday := a.dayOfYear_lt
  have ha : a.number = daysBeforeYear a.year - originDays + a.dayOfYear := by
    unfold number dayOfYear
    omega
  unfold number at ha ⊢
  omega

/-- So has the later of two months of a year. -/
theorem number_lt_of_month_lt {a b : Date} (hyear : a.year = b.year) (h : a.month < b.month) :
    a.number < b.number := by
  have hstart := sum_take_mono (monthLengths (isLeapYear b.year))
    (show a.month - 1 + 1 ≤ b.month - 1 by have := a.day_lt; omega)
  have hday := a.day_lt.2
  unfold number daysBeforeMonth
  rw [hyear] at hday ⊢
  omega

/-- Numbers are in the order of the calendar. -/
theorem number_lt_iff {a b : Date} :
    a.number < b.number ↔
      a.year < b.year ∨ a.year = b.year ∧
        (a.month < b.month ∨ a.month = b.month ∧ a.day < b.day) := by
  have hday : ∀ {c d : Date}, c.year = d.year → c.month = d.month →
      c.number - d.number = (c.day : Int) - d.day := by
    intro c d hyear hmonth
    have hc := c.day_range
    have hd := d.day_range
    unfold number
    rw [hyear, hmonth]
    omega
  constructor
  · intro h
    rcases Int.lt_trichotomy a.year b.year with hyear | hyear | hyear
    · exact Or.inl hyear
    · rcases Nat.lt_trichotomy a.month b.month with hmonth | hmonth | hmonth
      · exact Or.inr ⟨hyear, Or.inl hmonth⟩
      · have := hday hyear hmonth
        exact Or.inr ⟨hyear, Or.inr ⟨hmonth, by omega⟩⟩
      · have := number_lt_of_month_lt hyear.symm hmonth
        omega
    · have := number_lt_of_year_lt hyear
      omega
  · rintro (hyear | ⟨hyear, hmonth | ⟨hmonth, hlt⟩⟩)
    · exact number_lt_of_year_lt hyear
    · exact number_lt_of_month_lt hyear hmonth
    · have := hday hyear hmonth
      omega

/-! ### No gaps -/

/-- The months of a year. -/
theorem month_le (date : Date) : date.month ≤ 12 := by
  have hday := date.day_lt.2
  refine Nat.le_of_not_lt fun hlate => ?_
  have hnone : (monthLengths (isLeapYear date.year))[date.month - 1]? = none := by
    rw [List.getElem?_eq_none_iff]
    simp only [monthLengths, List.length_cons, List.length_nil]
    omega
  rw [hnone] at hday
  exact absurd hday (Nat.not_lt_zero _)

/-- A month starts where the one before it ends. -/
theorem daysBeforeMonth_succ (leap : Bool) {month : Nat} (hlow : 1 ≤ month) (hhigh : month ≤ 12) :
    daysBeforeMonth leap (month + 1) = daysBeforeMonth leap month + daysInMonth leap month := by
  have hall : ∀ leap : Bool, ∀ index < 12, daysBeforeMonth leap (index + 1 + 1) =
      daysBeforeMonth leap (index + 1) + daysInMonth leap (index + 1) := by decide
  obtain ⟨index, rfl⟩ := Nat.exists_eq_add_of_le' hlow
  exact hall leap index (by omega)

/-- Before a later date there is a next day: of the same month, of the next month or of the next
year. -/
theorem exists_number_succ {date later : Date} (h : date.number < later.number) :
    ∃ next : Date, next.number = date.number + 1 := by
  obtain ⟨hfirst, hlast⟩ := date.day_range
  obtain ⟨hmonth, -⟩ := date.day_lt
  have hmonths := date.month_le
  have hlengths : ∀ leap : Bool, ∀ month < 13, 1 ≤ month → 1 ≤ daysInMonth leap month := by decide
  rcases Nat.lt_or_ge date.day (daysInMonth (isLeapYear date.year) date.month) with hday | hday
  · refine ⟨⟨date.year, date.month, date.day + 1, date.year_range, by omega, hday⟩, ?_⟩
    unfold number
    dsimp only
    omega
  · rcases Nat.lt_or_ge date.month 12 with hnext | hnext
    · refine ⟨⟨date.year, date.month + 1, 1, date.year_range, Nat.le_refl 1,
        hlengths _ _ (by omega) (by omega)⟩, ?_⟩
      have hsucc := daysBeforeMonth_succ (isLeapYear date.year) hmonth hmonths
      unfold number
      dsimp only
      omega
    · -- the later date is of a later year
      have hend : date.month = 12 := by omega
      have hyear : date.year < later.year := by
        have hlaterMonth := later.month_le
        have hlaterDay := later.day_range.2
        rcases number_lt_iff.mp h with hyear | ⟨hyear, hmonth | ⟨hmonth, hlt⟩⟩
        · exact hyear
        · omega
        · rw [← hyear, ← hmonth] at hlaterDay
          omega
      have hlaterYear := later.year_range.2
      have hdateYear := date.year_range.1
      refine ⟨⟨date.year + 1, 1, 1, ⟨by omega, by omega⟩, Nat.le_refl 1,
        hlengths _ _ (by decide) (by decide)⟩, ?_⟩
      have hsucc := daysBeforeYear_succ date.year
      have hdays : daysBeforeMonth (isLeapYear date.year) date.month +
          daysInMonth (isLeapYear date.year) date.month = yearLength date.year := by
        rw [hend]
        unfold yearLength
        cases isLeapYear date.year <;> decide
      have hstart : daysBeforeMonth (isLeapYear (date.year + 1)) 1 = 0 := rfl
      unfold number
      dsimp only
      omega

/-- Every number between the numbers of two dates is the number of a date. -/
theorem exists_number_eq {first last : Date} {number : Int} (hlow : first.number ≤ number)
    (hhigh : number ≤ last.number) : ∃ date : Date, date.number = number := by
  obtain ⟨days, rfl⟩ := Int.le.dest hlow
  induction days with
  | zero => exact ⟨first, (Int.add_zero _).symm⟩
  | succ days ih =>
    obtain ⟨date, hdate⟩ := ih (by omega) (by omega)
    have hbefore : date.number < last.number := by omega
    obtain ⟨next, hnext⟩ := exists_number_succ hbefore
    exact ⟨next, by omega⟩

end Date

end Spreadsheet
