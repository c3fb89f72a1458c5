/-
# Cell values in JSON are read back

The value of a member is read up to the brace that closes it, so each kind of value is read back
from what its own writer made. Floating point numbers are read back as far as the reader of JSON
reads their shortest texts back, and durations lose what is below a millisecond.

* `Cell.readValue_member` — a member is read by the reader of its name.
* `Cell.readInt64_intText` — a whole number of 64 bits is read back, whatever follows.
* `Cell.ofJson?_json_number` — and so is a number of at most fifteen digits.
* `Cell.ofJson?_json` — a cell value is read back.
-/

import Spreadsheet.Cell.Json
import Spreadsheet.Proofs.InterchangeText
import Spreadsheet.Proofs.JsonReadsBack

namespace Spreadsheet

/-! ### Whole milliseconds -/

namespace Duration

/-- The duration without what is below a millisecond: it is cut toward zero. -/
def wholeMilliseconds (d : Duration) : Duration where
  nanoseconds := d.milliseconds * 1000000
  bounded := by
    rw [milliseconds, Int.natAbs_mul, Int.natAbs_tdiv]
    exact Nat.le_trans (Nat.div_mul_le_self _ _) d.bounded

theorem wholeMilliseconds_eq_self {d : Duration} (h : (1000000 : Int) ∣ d.nanoseconds) :
    d.wholeMilliseconds = d := by
  cases d with
  | mk nanoseconds bounded =>
    simp only [wholeMilliseconds, milliseconds, mk.injEq]
    exact Int.tdiv_mul_cancel h

/-- The whole milliseconds make a duration again. -/
theorem ofMilliseconds?_milliseconds (d : Duration) :
    ofMilliseconds? d.milliseconds = some d.wholeMilliseconds :=
  dif_pos d.wholeMilliseconds.bounded

/-- Their number has 64 bits. -/
theorem milliseconds_range (d : Duration) :
    Int64.minValue.toInt ≤ d.milliseconds ∧ d.milliseconds ≤ Int64.maxValue.toInt := by
  have hmin : Int64.minValue.toInt = -9223372036854775808 := rfl
  have hmax : Int64.maxValue.toInt = 9223372036854775807 := rfl
  have hbounded : d.milliseconds.natAbs ≤ maxMilliseconds := by
    rw [milliseconds, Int.natAbs_tdiv]
    exact Nat.div_le_of_le_mul (by rw [Nat.mul_comm]; exact d.bounded)
  unfold maxMilliseconds at hbounded
  omega

end Duration

namespace Cell

/-- What is stored of a value: all of it, except that a duration is stored in whole
milliseconds. -/
def stored : Cell → Cell
  | .duration value => .duration value.wholeMilliseconds
  | value => value

/-! ### Members -/

/-- The characters that JSON skips between its parts. -/
def blanks : List Char :=
  [' ', '\n', '\t', '\r']

/-- Blanks are skipped only where they stand. -/
theorem skipBlanks_cons {c : Char} (h : c ∉ blanks) (rest : Text) :
    skipBlanks (c :: rest) = c :: rest := by
  simp only [blanks, List.mem_cons, List.not_mem_nil, or_false, not_or] at h
  exact List.dropWhile_cons_of_neg (by simp [h])

/-- What stands next is taken at once. -/
theorem skip?_cons {c : Char} (h : c ∉ blanks) (rest : Text) :
    skip? c (c :: rest) = some rest := by
  rw [skip?, skipBlanks_cons h, Text.afterLeading?_eq_some_iff, List.singleton_append]

theorem orMalformed_bind {α β : Type} (value : α) (next : α → Except JsonError β) :
    orMalformed (some value) >>= next = next value :=
  rfl

/-- The parts of an object with one member, one after the other. -/
theorem member_append (name value rest : Text) :
    member name value ++ rest = '\x7b' :: '"' ::
      (name.flatMap Json.encodeChar ++ '"' :: ':' :: (value ++ '\x7d' :: rest)) := by
  simp [member, Json.encode]

/-- **A member is read by the reader of its name**, when this reader stops at the brace that
closes it. -/
theorem readValue_member {name value rest : Text} {reading : Reading}
    (hstart : ∀ c ∈ value.head?, c ∉ blanks)
    (hread : readMember name (value ++ '\x7d' :: rest) = .ok (reading, '\x7d' :: rest)) :
    readValue (member name value ++ rest) = .ok (reading, rest) := by
  have hvalue : skipBlanks (value ++ '\x7d' :: rest) = value ++ '\x7d' :: rest := by
    cases value with
    | nil => exact skipBlanks_cons (by decide) rest
    | cons c value => exact skipBlanks_cons (hstart c rfl) _
  have hname : (do Json.decode? (← skip? '"' ('"' ::
      (name.flatMap Json.encodeChar ++ '"' :: ':' :: (value ++ '\x7d' :: rest))))) =
        some (name, ':' :: (value ++ '\x7d' :: rest)) := by
    rw [skip?_cons (by decide), Option.bind_eq_bind, Option.bind_some, Json.decode?_encode]
  rw [member_append, readValue, skipBlanks_cons (by decide)]
  simp only [hname, orMalformed_bind]
  rw [skip?_cons (by decide), orMalformed_bind, hvalue, hread]
  dsimp only [bind, Except.bind]
  rw [skip?_cons (by decide)]
  rfl

/-- The text of one member is the value that its reader finds. -/
theorem ofJson?_member {name value : Text} {cell : Cell}
    (hstart : ∀ c ∈ value.head?, c ∉ blanks)
    (hread : readMember name (value ++ ['\x7d']) = .ok (.cell cell, ['\x7d'])) :
    ofJson? (member name value) = .ok cell := by
  have hvalue := readValue_member hstart hread
  rw [List.append_nil] at hvalue
  rw [ofJson?, hvalue]
  rfl

/-! ### The kinds of values -/

section Kinds

variable {rest : Text}

theorem endsNumber_brace (rest : Text) : Json.EndsNumber ('\x7d' :: rest) := by
  rintro c ⟨⟩
  decide

/-- No number starts with a blank. -/
theorem head?_written {number : Json.WrittenNumber} (h : number.WellFormed) :
    ∀ c ∈ number.text.head?, c ∉ blanks := by
  intro c hc
  rcases h.head?_text c hc with rfl | hdigit
  · decide
  · exact forall_isDigit (p := fun c => c ∉ blanks) (by decide) hdigit

theorem head?_intText (n : Int) : ∀ c ∈ (intText n).head?, c ∉ blanks := by
  rw [Json.intText_eq]
  exact head?_written (Json.wellFormed_ofInt n)

/-- A number is read back as far as its shortest text is. -/
theorem readNumber_numberText {x : Binary64} (hfinite : x.isFinite = true)
    (hreads : Json.ReadsBack x) (hrest : Json.EndsNumber rest) :
    readNumber (Json.numberText x ++ rest) = some (.cell (.number x), rest) := by
  obtain ⟨written, hwritten, htext⟩ := Json.exists_written hfinite
  have halone : Json.number? (Json.numberText x) = some (written, []) := by
    rw [htext, ← List.append_nil written.text]
    exact Json.number?_text hwritten fun c hc => by cases hc
  rw [readNumber, htext, Json.number?_text hwritten hrest]
  simp only [Option.bind_eq_bind, Option.bind_some, hreads written halone]
  rfl

/-- A whole number of 64 bits is read back. -/
theorem readInt64_intText {n : Int} (hlow : Int64.minValue.toInt ≤ n)
    (hhigh : n ≤ Int64.maxValue.toInt) (hrest : Json.EndsNumber rest) :
    readInt64 (intText n ++ rest) = some (Int64.ofInt n, rest) := by
  have hfits : n.natAbs ≤ Json.maxSignificand := by
    have hmin : Int64.minValue.toInt = -9223372036854775808 := rfl
    have hmax : Int64.maxValue.toInt = 9223372036854775807 := rfl
    unfold Json.maxSignificand
    omega
  rw [readInt64, Json.intText_eq, Json.number?_text (Json.wellFormed_ofInt n) hrest]
  simp only [Option.bind_eq_bind, Option.bind_some, Json.WrittenNumber.toInt?_ofInt hfits, int64?,
    if_pos (And.intro hlow hhigh)]
  rfl

/-- A text is read back. -/
theorem readText_encode (text rest : Text) :
    readText (Json.encode text ++ rest) = some (text, rest) := by
  have hquote : Json.encode text ++ rest =
      ['"'] ++ (text.flatMap Json.encodeChar ++ '"' :: rest) := by
    simp [Json.encode]
  rw [readText, Text.afterLeading?_eq_some_iff.mpr hquote, Option.bind_eq_bind, Option.bind_some,
    Json.decode?_encode]

/-- An instant is read back. -/
theorem readInstant_isoText (i : Instant) (rest : Text) :
    readInstant (Json.encode i.isoText ++ rest) = some (.cell (.dateTime i), rest) := by
  rw [readInstant, readText_encode]
  simp only [Option.bind_eq_bind, Option.bind_some, ClockReading.ofIso?_isoText]
  rfl

/-- A truth value is read back. -/
theorem readBoolean_text (value : Bool) (rest : Text) :
    readBoolean ((if value then "true".toList else "false".toList) ++ rest) =
      some (.cell (.boolean value), rest) := by
  cases value <;> rfl

end Kinds

/-- A duration is read from its whole milliseconds. -/
theorem ofJson?_duration {count : Int} (hlow : Int64.minValue.toInt ≤ count)
    (hhigh : count ≤ Int64.maxValue.toInt) {d : Duration}
    (hd : Duration.ofMilliseconds? count = some d) :
    ofJson? (member "Duration".toList (intText count)) = .ok (.duration d) := by
  refine ofJson?_member (head?_intText count) ?_
  rw [readMember, if_neg (by decide), if_neg (by decide), if_neg (by decide), if_pos rfl,
    readInt64_intText hlow hhigh (endsNumber_brace []), orMalformed_bind]
  dsimp only
  rw [Int64.toInt_ofInt_of_le hlow (Int.lt_add_one_of_le hhigh), hd]
  rfl

/-! ### The result -/

/-- What is stored of a value is read back. -/
theorem ofJson?_json_stored {value : Cell} (finite : ∀ x, value = .number x → x.isFinite = true)
    (readsBack : ∀ x, value = .number x → Json.ReadsBack x) :
    ofJson? value.json = .ok value.stored := by
  cases value with
  | number x =>
    refine ofJson?_member ?_ ?_
    · obtain ⟨written, hwritten, htext⟩ := Json.exists_written (finite x rfl)
      rw [htext]
      exact head?_written hwritten
    · rw [readMember, if_pos rfl,
        readNumber_numberText (finite x rfl) (readsBack x rfl) (endsNumber_brace [])]
      rfl
  | integer n =>
    refine ofJson?_member (head?_intText _) ?_
    rw [readMember, if_neg (by decide), if_pos rfl,
      readInt64_intText n.minValue_le_toInt n.toInt_le (endsNumber_brace []), Int64.ofInt_toInt]
    rfl
  | dateTime i =>
    refine ofJson?_member (by rintro c ⟨⟩; decide) ?_
    rw [readMember, if_neg (by decide), if_neg (by decide), if_pos rfl, readInstant_isoText]
    rfl
  | duration d =>
    obtain ⟨hlow, hhigh⟩ := d.milliseconds_range
    exact ofJson?_duration hlow hhigh d.ofMilliseconds?_milliseconds
  | text text =>
    refine ofJson?_member (by rintro c ⟨⟩; decide) ?_
    rw [readMember, if_neg (by decide), if_neg (by decide), if_neg (by decide),
      if_neg (by decide), if_pos rfl, readText_encode]
    rfl
  | boolean value =>
    refine ofJson?_member ?_ ?_
    · cases value <;> rintro c ⟨⟩ <;> decide
    · rw [readMember, if_neg (by decide), if_neg (by decide), if_neg (by decide),
        if_neg (by decide), if_neg (by decide), if_pos rfl, readBoolean_text]
      rfl
  | empty => rfl

/-- A number of at most fifteen digits from `10 ^ -8` up to `10 ^ 14` is read back, with nothing
assumed of the reader of JSON. -/
theorem ofJson?_json_number {x : Binary64} (finite : x.isFinite = true)
    (hlength : (Decimal.shortest .even x).digits.length ≤ 15)
    (hlow : -7 ≤ (Decimal.shortest .even x).scale) (hhigh : (Decimal.shortest .even x).scale ≤ 14) :
    ofJson? (Cell.number x).json = .ok (.number x) := by
  refine ofJson?_json_stored ?_ ?_
  · rintro _ ⟨⟩
    exact finite
  · rintro _ ⟨⟩
    exact Json.readsBack_of_length_le finite hlength hlow hhigh

/-- **A cell value is read back from its JSON text**: a duration without what it has below a
millisecond, and every other value, a duration of whole milliseconds too, as it was. Numbers are
finite, and JSON reads their shortest texts back. -/
theorem ofJson?_json {value : Cell} (finite : ∀ x, value = .number x → x.isFinite = true)
    (readsBack : ∀ x, value = .number x → Json.ReadsBack x) :
    ofJson? value.json = .ok value.stored ∧
      ((∀ d, value = .duration d → (1000000 : Int) ∣ d.nanoseconds) →
        ofJson? value.json = .ok value) := by
  have hstored := ofJson?_json_stored finite readsBack
  refine ⟨hstored, fun hwhole => ?_⟩
  rw [hstored]
  cases value with
  | duration d => rw [stored, Duration.wholeMilliseconds_eq_self (hwhole d rfl)]
  | _ => rfl

/-- The number −1.25 is read back. -/
theorem ofJson?_json_five_quarters :
    let x := Binary64.ofRat (-5 / 4)
    x.isFinite = true ∧ Json.ReadsBack x ∧ ofJson? (Cell.number x).json = .ok (.number x) := by
  intro x
  have hfinite : x.isFinite = true := by decide +kernel
  have hreads : Json.ReadsBack x :=
    Json.readsBack_of_length_le hfinite (by decide +kernel) (by decide +kernel) (by decide +kernel)
  refine ⟨hfinite, hreads, ?_⟩
  refine (ofJson?_json ?_ ?_).2 ?_
  · rintro _ ⟨⟩
    exact hfinite
  · rintro _ ⟨⟩
    exact hreads
  · rintro d ⟨⟩

end Cell

end Spreadsheet
