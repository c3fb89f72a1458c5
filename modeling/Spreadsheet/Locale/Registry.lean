/-
# The registered locales

Six locales, looked up by their tag. The invariant one is written like American
English and is also found under the empty tag.

* `find?_tag` — each locale is found under its own tag.
-/

import Spreadsheet.Locale.Basic
import Spreadsheet.Text.Blank

namespace Spreadsheet

namespace Locale

/-! ### English -/

/-- The months in English. -/
def englishMonths : Vector Text 12 :=
  #v["January".toList, "February".toList, "March".toList, "April".toList, "May".toList,
    "June".toList, "July".toList, "August".toList, "September".toList, "October".toList,
    "November".toList, "December".toList]

/-- The months in English, abbreviated. -/
def englishMonthsShort : Vector Text 12 :=
  #v["Jan".toList, "Feb".toList, "Mar".toList, "Apr".toList, "May".toList, "Jun".toList,
    "Jul".toList, "Aug".toList, "Sep".toList, "Oct".toList, "Nov".toList, "Dec".toList]

/-- The days of the week in English. -/
def englishDays : Vector Text 7 :=
  #v["Sunday".toList, "Monday".toList, "Tuesday".toList, "Wednesday".toList,
    "Thursday".toList, "Friday".toList, "Saturday".toList]

/-- The days of the week in English, abbreviated. -/
def englishDaysShort : Vector Text 7 :=
  #v["Sun".toList, "Mon".toList, "Tue".toList, "Wed".toList, "Thu".toList, "Fri".toList,
    "Sat".toList]

/-- The locale of texts that belong to no place. -/
def invariant : Locale where
  tag := "invariant".toList
  decimalSeparator := '.'
  groupSeparator := ','
  negativeSign := "-".toList
  percentSymbol := "%".toList
  perMilleSymbol := "‰".toList
  dateSeparator := "/".toList
  timeSeparator := ":".toList
  shortDatePattern := "MM/dd/yyyy".toList
  longDatePattern := "dddd, dd MMMM yyyy".toList
  shortTimePattern := "HH:mm".toList
  longTimePattern := "HH:mm:ss".toList
  monthDayPattern := "MMMM dd".toList
  yearMonthPattern := "yyyy MMMM".toList
  monthNames := englishMonths
  abbreviatedMonthNames := englishMonthsShort
  dayNames := englishDays
  abbreviatedDayNames := englishDaysShort
  amDesignator := "AM".toList
  pmDesignator := "PM".toList
  dateOrder := .monthDayYear
  twoDigitYearMax := 2049

/-- English as written in the United States. -/
def americanEnglish : Locale :=
  { invariant with
    tag := "en-US".toList
    shortDatePattern := "M/d/yyyy".toList
    longDatePattern := "dddd, MMMM d, yyyy".toList
    shortTimePattern := "h:mm tt".toList
    longTimePattern := "h:mm:ss tt".toList
    monthDayPattern := "MMMM d".toList
    yearMonthPattern := "MMMM yyyy".toList }

/-- English as written in Great Britain. -/
def britishEnglish : Locale :=
  { invariant with
    tag := "en-GB".toList
    shortDatePattern := "dd/MM/yyyy".toList
    longDatePattern := "dd MMMM yyyy".toList
    monthDayPattern := "d MMMM".toList
    yearMonthPattern := "MMMM yyyy".toList
    amDesignator := "am".toList
    pmDesignator := "pm".toList
    dateOrder := .dayMonthYear }

/-! ### Other languages -/

/-- German as written in Germany. -/
def german : Locale :=
  { invariant with
    tag := "de-DE".toList
    decimalSeparator := ','
    groupSeparator := '.'
    dateSeparator := ".".toList
    shortDatePattern := "dd.MM.yyyy".toList
    longDatePattern := "dddd, d. MMMM yyyy".toList
    monthDayPattern := "d. MMMM".toList
    yearMonthPattern := "MMMM yyyy".toList
    monthNames := #v["Januar".toList, "Februar".toList, "März".toList, "April".toList,
      "Mai".toList, "Juni".toList, "Juli".toList, "August".toList, "September".toList,
      "Oktober".toList, "November".toList, "Dezember".toList]
    abbreviatedMonthNames := #v["Jan".toList, "Feb".toList, "Mär".toList, "Apr".toList,
      "Mai".toList, "Jun".toList, "Jul".toList, "Aug".toList, "Sep".toList, "Okt".toList,
      "Nov".toList, "Dez".toList]
    dayNames := #v["Sonntag".toList, "Montag".toList, "Dienstag".toList, "Mittwoch".toList,
      "Donnerstag".toList, "Freitag".toList, "Samstag".toList]
    abbreviatedDayNames := #v["So".toList, "Mo".toList, "Di".toList, "Mi".toList,
      "Do".toList, "Fr".toList, "Sa".toList]
    amDesignator := []
    pmDesignator := []
    dateOrder := .dayMonthYear }

/-- French as written in France; a narrow no-break space separates groups. -/
def french : Locale :=
  { invariant with
    tag := "fr-FR".toList
    decimalSeparator := ','
    groupSeparator := '\u202F'
    shortDatePattern := "dd/MM/yyyy".toList
    longDatePattern := "dddd d MMMM yyyy".toList
    monthDayPattern := "d MMMM".toList
    yearMonthPattern := "MMMM yyyy".toList
    monthNames := #v["janvier".toList, "février".toList, "mars".toList, "avril".toList,
      "mai".toList, "juin".toList, "juillet".toList, "août".toList, "septembre".toList,
      "octobre".toList, "novembre".toList, "décembre".toList]
    abbreviatedMonthNames := #v["janv.".toList, "févr.".toList, "mars".toList, "avr.".toList,
      "mai".toList, "juin".toList, "juil.".toList, "août".toList, "sept.".toList,
      "oct.".toList, "nov.".toList, "déc.".toList]
    dayNames := #v["dimanche".toList, "lundi".toList, "mardi".toList, "mercredi".toList,
      "jeudi".toList, "vendredi".toList, "samedi".toList]
    abbreviatedDayNames := #v["dim.".toList, "lun.".toList, "mar.".toList, "mer.".toList,
      "jeu.".toList, "ven.".toList, "sam.".toList]
    amDesignator := []
    pmDesignator := []
    dateOrder := .dayMonthYear }

/-- Swedish as written in Sweden; a no-break space separates groups, and the
negative sign is the minus sign U+2212. -/
def swedish : Locale :=
  { invariant with
    tag := "sv-SE".toList
    decimalSeparator := ','
    groupSeparator := '\u00A0'
    negativeSign := "\u2212".toList
    dateSeparator := "-".toList
    shortDatePattern := "yyyy-MM-dd".toList
    longDatePattern := "dddd d MMMM yyyy".toList
    monthDayPattern := "d MMMM".toList
    yearMonthPattern := "MMMM yyyy".toList
    monthNames := #v["januari".toList, "februari".toList, "mars".toList, "april".toList,
      "maj".toList, "juni".toList, "juli".toList, "augusti".toList, "september".toList,
      "oktober".toList, "november".toList, "december".toList]
    abbreviatedMonthNames := #v["jan.".toList, "feb.".toList, "mars".toList, "apr.".toList,
      "maj".toList, "juni".toList, "juli".toList, "aug.".toList, "sep.".toList,
      "okt.".toList, "nov.".toList, "dec.".toList]
    dayNames := #v["söndag".toList, "måndag".toList, "tisdag".toList, "onsdag".toList,
      "torsdag".toList, "fredag".toList, "lördag".toList]
    abbreviatedDayNames := #v["sön".toList, "mån".toList, "tis".toList, "ons".toList,
      "tors".toList, "fre".toList, "lör".toList]
    amDesignator := "fm".toList
    pmDesignator := "em".toList
    dateOrder := .yearMonthDay }

/-! ### Look-up -/

/-- The locales that can be asked for. -/
def registered : List Locale :=
  [invariant, americanEnglish, britishEnglish, german, french, swedish]

/-- A tag in the spelling that look-up compares: no outer blanks, a hyphen for an
underscore, and the letters `A` to `Z` in lower case. -/
def tagKey (tag : Text) : Text :=
  tag.trim.map fun c => if c = '_' then '-' else c.toLower

/-- The registered locale with the given tag; the empty tag is the invariant
locale's. -/
def find? (tag : Text) : Option Locale :=
  if tagKey tag = [] then some invariant
  else registered.find? (fun locale => locale.tag.map Char.toLower == tagKey tag)

/-- Each registered locale is found under its tag. -/
theorem find?_tag : ∀ locale ∈ registered, find? locale.tag = some locale := by
  decide +kernel

end Locale

end Spreadsheet
