/-
# Where reading a cell value breaks off

A duration is made of any number of milliseconds of 64 bits but the least, and only the others are
read. Reading breaks off at the least one, wherever the text opens an object with a duration of
that many milliseconds, and comes to an answer for every other text.

* `Cell.skipBlanks_eq_iff` — what follows blanks.
* `Cell.readMember_tooLong_iff` — the member that reading breaks off in.
* `Cell.ofJson?_tooLong_iff` — the texts that it breaks off in.
* `Cell.answers_iff` — reading comes to an answer but for the least duration.
-/

import Spreadsheet.Proofs.JsonIntegers

namespace Spreadsheet

/-- Every number of milliseconds of 64 bits is that of a duration, but for the least. -/
theorem Duration.ofMilliseconds?_int64_eq_none_iff {n : Int64} :
    ofMilliseconds? n.toInt = none ↔ n = Int64.minValue := by
  have hlow := n.minValue_le_toInt
  have hhigh := n.toInt_le
  have hmin : Int64.minValue.toInt = -9223372036854775808 := rfl
  have hmax : Int64.maxValue.toInt = 9223372036854775807 := rfl
  rw [ofMilliseconds?_eq_none_iff, ← Int64.toInt_inj]
  unfold maxMilliseconds
  omega

/-- A duration of whole milliseconds holds nothing below one. -/
theorem Duration.nanoseconds_of_ofMilliseconds? {count : Int} {d : Duration}
    (h : ofMilliseconds? count = some d) : d.nanoseconds = count * 1000000 := by
  unfold ofMilliseconds? ofNanoseconds? at h
  split at h
  · cases h
    rfl
  · cases h

namespace Cell

/-! ### Answers -/

/-- Reading the text comes to an answer: a value, be it a time in a leap second, or the error of a
malformed text. -/
def Answers (text : Text) : Prop :=
  (∃ value, ofJson? text = .ok value) ∨
    (∃ previous, ofJson? text = .error (.leapSecond previous)) ∨
    ofJson? text = .error .malformed

theorem answers_iff_ne {text : Text} :
    Answers text ↔ ofJson? text ≠ .error .durationTooLong := by
  unfold Answers
  cases ofJson? text with
  | ok value => simp
  | error error => cases error <;> simp

/-- The text goes on with the rest after blanks. -/
def AfterBlanks (text rest : Text) : Prop :=
  ∃ gap : Text, (∀ c ∈ gap, c ∈ blanks) ∧ text = gap ++ rest

/-- The text opens an object with a duration of so many milliseconds. Anything may follow that does
not go on with the number. -/
def OpensDuration (text : Text) (count : Int) : Prop :=
  ∃ inside name afterName afterColon rest : Text,
    AfterBlanks text ('\x7b' :: inside) ∧ AfterBlanks inside ('"' :: name) ∧
    Json.decode? name = some ("Duration".toList, afterName) ∧
    AfterBlanks afterName (':' :: afterColon) ∧
    AfterBlanks afterColon (intText count ++ rest) ∧ Json.EndsNumber rest

/-! ### Blanks -/

section Blanks

variable {text rest : Text}

/-- **What follows blanks** is what they are skipped to. -/
theorem skipBlanks_eq_iff (hrest : ∀ c ∈ rest.head?, c ∉ blanks) :
    skipBlanks text = rest ↔ AfterBlanks text rest := by
  have hblank : ∀ c : Char, (c == ' ' || c == '\n' || c == '\t' || c == '\r') = true ↔
      c ∈ blanks := fun c => by simp [blanks, or_assoc]
  constructor
  · rintro rfl
    refine ⟨_, fun c hc => ?_, List.takeWhile_append_dropWhile.symm⟩
    have hskipped := List.mem_takeWhile_imp hc
    exact (hblank c).mp hskipped
  · rintro ⟨gap, hgap, rfl⟩
    exact (Text.leadingRun_append (fun c hc => (hblank c).mpr (hgap c hc)) fun c hc =>
      Bool.eq_false_of_not_eq_true (mt (hblank c).mp (hrest c hc))).2

theorem skip?_eq_some_iff {c : Char} (hc : c ∉ blanks) :
    skip? c text = some rest ↔ AfterBlanks text (c :: rest) := by
  have hhead : ∀ d ∈ (c :: rest).head?, d ∉ blanks := by
    rintro d ⟨⟩
    exact hc
  rw [skip?, Text.afterLeading?_eq_some_iff, List.singleton_append, skipBlanks_eq_iff hhead]

end Blanks

/-! ### Breaking off -/

section BreakingOff

variable {α : Type} {text name : Text}

theorem ok_ne_tooLong (value : α) :
    (.ok value : Except JsonError α) ≠ .error .durationTooLong := by
  rintro ⟨⟩

theorem malformed_ne_tooLong :
    (.error .malformed : Except JsonError α) ≠ .error .durationTooLong := by
  rintro ⟨⟩

theorem orMalformed_ne_tooLong (result : Option α) :
    orMalformed result ≠ .error .durationTooLong := by
  cases result with
  | none => exact malformed_ne_tooLong
  | some value => exact ok_ne_tooLong value

/-- What is missing makes a text malformed, so reading breaks off later. -/
theorem orMalformed_bind_eq_tooLong {β : Type} {result : Option α}
    {next : α → Except JsonError β} :
    orMalformed result >>= next = .error .durationTooLong ↔
      ∃ value, result = some value ∧ next value = .error .durationTooLong := by
  cases result with
  | none => simp [orMalformed, bind, Except.bind]
  | some value => simp [orMalformed, bind, Except.bind]

/-- Where what comes next does not break off, reading breaks off before it. -/
theorem bind_eq_tooLong_iff {β : Type} {result : Except JsonError α}
    {next : α → Except JsonError β} (hnext : ∀ value, next value ≠ .error .durationTooLong) :
    result >>= next = .error .durationTooLong ↔ result = .error .durationTooLong := by
  cases result with
  | error error => simp [bind, Except.bind]
  | ok value => exact iff_of_false (hnext value) (ok_ne_tooLong value)

/-- **The member that reading breaks off in** is the duration of the least number of 64 bits. -/
theorem readMember_tooLong_iff :
    readMember name text = .error .durationTooLong ↔
      name = "Duration".toList ∧ ∃ rest, readInt64 text = some (Int64.minValue, rest) := by
  by_cases hname : name = "Duration".toList
  · rw [hname, readMember, if_neg (by decide), if_neg (by decide), if_neg (by decide), if_pos rfl,
      orMalformed_bind_eq_tooLong]
    constructor
    · rintro ⟨⟨count, rest⟩, hread, hlong⟩
      refine ⟨rfl, rest, ?_⟩
      cases hcount : Duration.ofMilliseconds? count.toInt with
      | some value =>
        dsimp only at hlong
        rw [hcount] at hlong
        cases hlong
      | none => rw [hread, Duration.ofMilliseconds?_int64_eq_none_iff.mp hcount]
    · rintro ⟨-, rest, hread⟩
      refine ⟨_, hread, ?_⟩
      dsimp only
      rw [Duration.ofMilliseconds?_int64_eq_none_iff.mpr rfl]
      rfl
  · have hother : readMember name text ≠ .error .durationTooLong := by
      unfold readMember
      rw [if_neg hname]
      split_ifs
      all_goals first | exact orMalformed_ne_tooLong _ | exact malformed_ne_tooLong
    exact iff_of_false hother fun h => hname h.1

/-- Where the text opens an object with a duration, each part is read. -/
theorem opensDuration_iff {n : Int64} :
    OpensDuration text n.toInt ↔ ∃ inside name afterName afterColon rest,
      skipBlanks text = '\x7b' :: inside ∧ skip? '"' inside = some name ∧
        Json.decode? name = some ("Duration".toList, afterName) ∧
        skip? ':' afterName = some afterColon ∧
        readInt64 (skipBlanks afterColon) = some (n, rest) := by
  have hnumber : ∀ rest : Text, ∀ c ∈ (intText n.toInt ++ rest).head?, c ∉ blanks := by
    intro rest
    have hne : intText n.toInt ≠ [] := List.append_ne_nil_of_right_ne_nil _ Nat.toDigits_ne_nil
    rw [List.head?_append_of_ne_nil _ hne]
    exact head?_intText _
  have hbrace : ∀ (inside : Text), ∀ c ∈ ('\x7b' :: inside : Text).head?, c ∉ blanks := by
    rintro inside c ⟨⟩
    decide
  unfold OpensDuration
  simp only [readInt64_eq_some_iff, skipBlanks_eq_iff (hnumber _), skipBlanks_eq_iff (hbrace _),
    skip?_eq_some_iff (c := '"') (by decide), skip?_eq_some_iff (c := ':') (by decide)]

/-- Reading a value breaks off in the member of an object. -/
theorem readValue_tooLong_iff :
    readValue text = .error .durationTooLong ↔ OpensDuration text Int64.minValue.toInt := by
  rw [opensDuration_iff]
  unfold readValue
  split
  · rename_i rest htext
    rw [orMalformed_bind_eq_tooLong]
    constructor
    · rintro ⟨⟨name, left⟩, -, hname⟩
      dsimp only at hname
      split at hname <;> cases hname
    · rintro ⟨_, _, _, _, _, hbrace, -⟩
      rw [htext] at hbrace
      cases hbrace
  · rename_i rest htext
    have hclose : ∀ result : Reading × Text,
        (do return (result.1, ← orMalformed (skip? '\x7d' result.2))) ≠
          (.error .durationTooLong : Except JsonError (Reading × Text)) := by
      intro result h
      obtain ⟨_, -, h⟩ := orMalformed_bind_eq_tooLong.mp h
      cases h
    rw [orMalformed_bind_eq_tooLong]
    constructor
    · rintro ⟨⟨name, afterName⟩, hname, h⟩
      obtain ⟨quoted, hquote, hdecode⟩ := Option.bind_eq_some_iff.mp hname
      obtain ⟨afterColon, hcolon, h⟩ := orMalformed_bind_eq_tooLong.mp h
      obtain ⟨rfl, left, hread⟩ := readMember_tooLong_iff.mp ((bind_eq_tooLong_iff hclose).mp h)
      exact ⟨rest, quoted, afterName, afterColon, left, htext, hquote, hdecode, hcolon, hread⟩
    · rintro ⟨inside, quoted, afterName, afterColon, left, hbrace, hquote, hname, hcolon, hread⟩
      obtain rfl : rest = inside := by
        rw [htext] at hbrace
        exact List.tail_eq_of_cons_eq hbrace
      refine ⟨_, Option.bind_eq_some_iff.mpr ⟨quoted, hquote, hname⟩, ?_⟩
      refine orMalformed_bind_eq_tooLong.mpr ⟨afterColon, hcolon, ?_⟩
      exact (bind_eq_tooLong_iff hclose).mpr (readMember_tooLong_iff.mpr ⟨rfl, left, hread⟩)
  · rename_i hbrace
    refine iff_of_false malformed_ne_tooLong ?_
    rintro ⟨inside, _, _, _, _, htext, -⟩
    exact hbrace inside htext

/-- **Reading breaks off where a text opens an object with the least duration.** -/
theorem ofJson?_tooLong_iff :
    ofJson? text = .error .durationTooLong ↔ OpensDuration text Int64.minValue.toInt := by
  rw [← readValue_tooLong_iff]
  refine bind_eq_tooLong_iff fun result => ?_
  dsimp only
  split_ifs
  · split
    · exact ok_ne_tooLong _
    · rintro ⟨⟩
  · exact malformed_ne_tooLong

end BreakingOff

/-! ### The result -/

/-- A duration opens its own text. -/
theorem opensDuration_member (count : Int) :
    OpensDuration (member "Duration".toList (intText count)) count := by
  have hnone : ∀ text : Text, AfterBlanks text text := fun text =>
    ⟨[], List.forall_mem_nil _, rfl⟩
  rw [← List.append_nil (member _ _), member_append]
  exact ⟨_, _, _, _, ['\x7d'], hnone _, hnone _, Json.decode?_encode _ _, hnone _, hnone _,
    endsNumber_brace []⟩

/-- **Reading comes to an answer but for the least duration**: for every text but those that open
an object with a duration of the least number of milliseconds of 64 bits. A duration of any other
number is read. -/
theorem answers_iff (text : Text) (n : Int64) :
    (Answers text ↔ ¬ OpensDuration text Int64.minValue.toInt) ∧
      ((∃ d : Duration, d.nanoseconds = n.toInt * 1000000 ∧
        ofJson? (member "Duration".toList (intText n.toInt)) = .ok (.duration d)) ↔
          n ≠ Int64.minValue) := by
  refine ⟨?_, ?_, ?_⟩
  · rw [answers_iff_ne, Ne, ofJson?_tooLong_iff]
  · rintro ⟨d, -, hread⟩ rfl
    rw [ofJson?_tooLong_iff.mpr (opensDuration_member _)] at hread
    cases hread
  · intro hn
    have hsome : Duration.ofMilliseconds? n.toInt ≠ none :=
      mt Duration.ofMilliseconds?_int64_eq_none_iff.mp hn
    obtain ⟨d, hd⟩ := Option.ne_none_iff_exists'.mp hsome
    exact ⟨d, Duration.nanoseconds_of_ofMilliseconds? hd,
      ofJson?_duration n.minValue_le_toInt n.toInt_le hd⟩

/-- Reading does not come to an answer for the least number of milliseconds of 64 bits. -/
theorem not_forall_answers : ¬ ∀ text, Answers text := by
  intro h
  have hleast := h "\x7b\"Duration\":-9223372036854775808\x7d".toList
  rw [answers_iff_ne] at hleast
  exact hleast rfl

end Cell

end Spreadsheet
