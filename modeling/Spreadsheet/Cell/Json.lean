/-
# Cell values in JSON

An empty cell is the text `"Empty"`; every other value is an object of one
member, named for the kind of value. Durations are written in whole milliseconds.

* `ofJson?_of_rest` — nothing but blanks may follow the value.
-/

import Spreadsheet.Calendar.Iso
import Spreadsheet.Cell.Basic
import Spreadsheet.Json.Number
import Spreadsheet.Json.Text

namespace Spreadsheet

/-- Why a cell value could not be read. -/
inductive JsonError where
  /-- The text is no cell value in JSON. -/
  | malformed
  /-- The milliseconds are more than a duration can hold: reading breaks off, without an answer. -/
  | durationTooLong
  /-- The time lies in the leap second after the second of an instant. -/
  | leapSecond (previous : Instant)

namespace Cell

/-! ### Writing -/

/-- An object with one member. -/
def member (name : Text) (value : Text) : Text :=
  '\x7b' :: Json.encode name ++ [':'] ++ value ++ ['\x7d']

/-- The value in JSON. -/
def json : Cell → Text
  | .number value => member "Number".toList (Json.numberText value)
  | .integer value => member "Int".toList (intText value.toInt)
  | .dateTime value => member "DateTime".toList (Json.encode value.isoText)
  | .duration value => member "Duration".toList (intText value.milliseconds)
  | .text value => member "Text".toList (Json.encode value)
  | .boolean value => member "Boolean".toList (if value then "true".toList else "false".toList)
  | .empty => Json.encode "Empty".toList

/-! ### Reading -/

/-- The text after the blanks of JSON. -/
def skipBlanks (text : Text) : Text :=
  text.dropWhile fun c => c == ' ' || c == '\n' || c == '\t' || c == '\r'

/-- The text after a character, blanks before it being skipped. -/
def skip? (c : Char) (text : Text) : Option Text :=
  Text.afterLeading? [c] (skipBlanks text)

/-- A whole number that fits 64 bits with its sign. -/
def int64? (n : Int) : Option Int64 :=
  if Int64.minValue.toInt ≤ n ∧ n ≤ Int64.maxValue.toInt then some (Int64.ofInt n) else none

/-- What the value of a member says. -/
inductive Reading where
  | cell (value : Cell)
  | leapSecond (previous : Instant)

/-- The value of a number member. -/
def readNumber (text : Text) : Option (Reading × Text) := do
  let (written, rest) ← Json.number? text
  return (.cell (.number (← written.toBinary64?)), rest)

/-- The value of a member that holds a whole number of 64 bits. -/
def readInt64 (text : Text) : Option (Int64 × Text) := do
  let (written, rest) ← Json.number? text
  return (← int64? (← written.toInt?), rest)

/-- The value of a text member. -/
def readText (text : Text) : Option (Text × Text) := do
  Json.decode? (← Text.afterLeading? ['"'] text)

/-- The value of a date member. -/
def readInstant (text : Text) : Option (Reading × Text) := do
  let (written, rest) ← readText text
  match ← ClockReading.ofIso? written with
  | .instant value => return (.cell (.dateTime value), rest)
  | .leapSecond previous => return (.leapSecond previous, rest)

/-- The value of a truth value's member. -/
def readBoolean (text : Text) : Option (Reading × Text) :=
  match Text.afterLeading? "true".toList text, Text.afterLeading? "false".toList text with
  | some rest, _ => some (.cell (.boolean true), rest)
  | none, some rest => some (.cell (.boolean false), rest)
  | none, none => none

/-- A result, or the error of a malformed text. -/
def orMalformed {α : Type} : Option α → Except JsonError α
  | some value => .ok value
  | none => .error .malformed

/-- The value of the member with the given name, and the text after it. -/
def readMember (name : Text) (text : Text) : Except JsonError (Reading × Text) :=
  if name = "Number".toList then orMalformed (readNumber text)
  else if name = "Int".toList then
    orMalformed ((readInt64 text).map fun (value, rest) => (.cell (.integer value), rest))
  else if name = "DateTime".toList then orMalformed (readInstant text)
  else if name = "Duration".toList then do
    let (count, rest) ← orMalformed (readInt64 text)
    match Duration.ofMilliseconds? count.toInt with
    | some value => return (.cell (.duration value), rest)
    | none => throw .durationTooLong
  else if name = "Text".toList then
    orMalformed ((readText text).map fun (value, rest) => (.cell (.text value), rest))
  else if name = "Boolean".toList then orMalformed (readBoolean text)
  else if name = "Empty".toList then
    orMalformed ((Text.afterLeading? "null".toList text).map fun rest => (.cell .empty, rest))
  else throw .malformed

/-- A value at the start of the text, and the text after it. -/
def readValue (text : Text) : Except JsonError (Reading × Text) :=
  match skipBlanks text with
  | '"' :: rest => do
    let (name, left) ← orMalformed (Json.decode? rest)
    if name = "Empty".toList then return (.cell .empty, left) else throw .malformed
  | '\x7b' :: rest => do
    let (name, afterName) ← orMalformed (do Json.decode? (← skip? '"' rest))
    let afterColon ← orMalformed (skip? ':' afterName)
    let (reading, afterValue) ← readMember name (skipBlanks afterColon)
    return (reading, ← orMalformed (skip? '\x7d' afterValue))
  | _ => throw .malformed

/-- The cell value that a JSON text holds. -/
def ofJson? (text : Text) : Except JsonError Cell := do
  let (reading, rest) ← readValue text
  if skipBlanks rest = [] then
    match reading with
    | .cell value => return value
    | .leapSecond previous => throw (.leapSecond previous)
  else throw .malformed

/-- Nothing but blanks may follow the value. -/
theorem ofJson?_of_rest {text rest : Text} {reading : Reading}
    (h : readValue text = .ok (reading, rest)) (hrest : skipBlanks rest ≠ []) :
    ofJson? text = .error .malformed := by
  simp only [ofJson?, h, bind, Except.bind, if_neg hrest]
  rfl

end Cell

end Spreadsheet
