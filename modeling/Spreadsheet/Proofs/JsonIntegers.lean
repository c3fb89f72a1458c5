/-
# Whole numbers in JSON

A whole number is read from its sign and its digits, and from nothing else: a fraction or an
exponent makes a number that is not whole, and so does the sign of a zero. Digits do not start
with a zero but for zero itself, so a number of 64 bits is read from one text only.

* `Text.Writes.eq_toDigits` — a number is written in one way without leading zeros.
* `Json.number?_whole` — a number without fraction and exponent is its sign and its digits.
* `Json.number?_toInt?` — a whole number is read from its own text.
* `Cell.readInt64_eq_some_iff` — the text that a number of 64 bits is read from.
-/

import Spreadsheet.Proofs.CellJson

namespace Spreadsheet

/-! ### Digits -/

/-- Characters that are digits are the text of digits. -/
theorem Digits.exists_text {text : Text} (h : ∀ c ∈ text, c.isDigit = true) :
    ∃ digits, (∀ digit ∈ digits, digit < 10) ∧ Digits.text digits = text := by
  have hchar : ∀ c ∈ text, Nat.digitChar (c.toNat - '0'.toNat) = c ∧ c.toNat - '0'.toNat < 10 :=
    fun c hc => forall_isDigit
      (p := fun c => Nat.digitChar (c.toNat - '0'.toNat) = c ∧ c.toNat - '0'.toNat < 10)
      (by decide) (h c hc)
  refine ⟨text.map fun c => c.toNat - '0'.toNat, ?_, ?_⟩
  · rw [List.forall_mem_map]
    exact fun c hc => (hchar c hc).2
  · rw [Digits.text, List.map_map]
    exact (List.map_congr_left fun c hc => (hchar c hc).1).trans (List.map_id text)

/-- **A number is written in one way without leading zeros.** -/
theorem Text.Writes.eq_toDigits {digits : Text} {n : Nat} (h : digits.Writes n)
    (hzero : digits.head? = some '0' → digits.length = 1) : digits = Nat.toDigits 10 n := by
  by_cases hhead : digits.head? = some '0'
  · obtain ⟨c, rfl⟩ := List.length_eq_one_iff.mp (hzero hhead)
    obtain rfl : c = '0' := Option.some.inj hhead
    rw [← h.value]
    rfl
  · obtain ⟨values, hvalues, rfl⟩ := Digits.exists_text h.isDigit
    have hvalue : Digits.value values = n := by
      rw [← Digits.ofDigitChars_text hvalues, h.value]
    have hfirst : values.head? ≠ some 0 := by
      intro hfirst
      rw [Digits.text, List.head?_map, hfirst] at hhead
      exact hhead rfl
    have hne : values ≠ [] := fun hnil => h.ne_nil (by rw [hnil]; rfl)
    rw [Digits.eq_ofNat_value hvalues hfirst hne, hvalue, Digits.text_ofNat]

namespace Json

variable {text digits rest : Text}

/-! ### What the parts of a number are read from -/

theorem digits?_eq_some (h : digits? text = some (digits, rest)) :
    text = digits ++ rest ∧ digits.Writes (Nat.ofDigitChars 10 digits 0) ∧
      ∀ c ∈ rest.head?, c.isDigit = false := by
  unfold digits? at h
  dsimp only at h
  split at h
  · cases h
  · rename_i hne
    cases h
    refine ⟨List.takeWhile_append_dropWhile.symm,
      ⟨by simpa using hne, fun c hc => List.mem_takeWhile_imp hc, rfl⟩, fun c hc => ?_⟩
    have hnot := List.head?_dropWhile_not Char.isDigit text
    rw [Option.mem_def.mp hc] at hnot
    simpa using hnot

theorem whole?_eq_some (h : whole? text = some (digits, rest)) :
    text = digits ++ rest ∧ digits.Writes (Nat.ofDigitChars 10 digits 0) ∧
      (digits.head? = some '0' → digits.length = 1) ∧ ∀ c ∈ rest.head?, c.isDigit = false := by
  obtain ⟨⟨digits, left⟩, hdigits, hzero⟩ := Option.bind_eq_some_iff.mp h
  dsimp only at hzero
  split at hzero
  · cases hzero
  · rename_i hlead
    cases hzero
    obtain ⟨htext, hwrites, hrest⟩ := digits?_eq_some hdigits
    exact ⟨htext, hwrites, fun hhead => not_not.mp fun hlength => hlead ⟨hhead, hlength⟩, hrest⟩

/-- No fraction is read only where no point stands. -/
theorem fraction?_eq_none (h : fraction? text = some (none, rest)) :
    text = rest ∧ ∀ c ∈ rest.head?, c ≠ '.' := by
  unfold fraction? at h
  split at h
  · obtain ⟨_, -, heq⟩ := Option.map_eq_some_iff.mp h
    cases heq
  · rename_i hpoint
    cases h
    refine ⟨rfl, fun c hc => ?_⟩
    rintro rfl
    obtain ⟨tail, htail⟩ := List.head?_eq_some_iff.mp hc
    exact hpoint tail htail

/-- No exponent is read only where no mark of one stands. -/
theorem exponent?_eq_none (h : exponent? text = some (none, rest)) :
    text = rest ∧ ∀ c ∈ rest.head?, c ≠ 'e' ∧ c ≠ 'E' := by
  have hdigits : ∀ (left : Text) (exponent : Text × Text → Option Int × Text),
      (∀ part, (exponent part).1 ≠ none) → (digits? left).map exponent ≠ some (none, rest) := by
    intro left exponent hsome heq
    obtain ⟨part, -, hpart⟩ := Option.map_eq_some_iff.mp heq
    exact hsome part (congrArg Prod.fst hpart)
  unfold exponent? at h
  split at h
  · cases h
    exact ⟨rfl, fun c hc => by cases hc⟩
  · rename_i mark left
    split at h
    · split at h
      · exact absurd h (hdigits _ _ fun _ => Option.some_ne_none _)
      · exact absurd h (hdigits _ _ fun _ => Option.some_ne_none _)
      · exact absurd h (hdigits _ _ fun _ => Option.some_ne_none _)
    · rename_i hmark
      cases h
      refine ⟨rfl, ?_⟩
      rintro c ⟨⟩
      exact not_or.mp hmark

/-- A number is read in its parts, one after the other. -/
theorem number?_parts {number : WrittenNumber} (h : number? text = some (number, rest)) :
    ∃ left afterWhole afterFraction, text = signText number.negative ++ left ∧
      whole? left = some (number.whole, afterWhole) ∧
      fraction? afterWhole = some (number.fraction, afterFraction) ∧
      exponent? afterFraction = some (number.exponent, rest) := by
  unfold number? at h
  split at h
  rename_i negative left hsign
  obtain ⟨⟨whole, afterWhole⟩, hwhole, h⟩ := Option.bind_eq_some_iff.mp h
  obtain ⟨⟨fraction, afterFraction⟩, hfraction, h⟩ := Option.bind_eq_some_iff.mp h
  obtain ⟨⟨exponent, afterExponent⟩, hexponent, h⟩ := Option.bind_eq_some_iff.mp h
  cases h
  refine ⟨left, afterWhole, afterFraction, ?_, hwhole, hfraction, hexponent⟩
  split at hsign <;> cases hsign <;> rfl

/-- **A number without fraction and exponent is its sign and its digits.** -/
theorem number?_whole {number : WrittenNumber} (h : number? text = some (number, rest))
    (hfraction : number.fraction = none) (hexponent : number.exponent = none) :
    text = number.text ++ rest ∧ number.WellFormed ∧ EndsNumber rest := by
  obtain ⟨left, afterWhole, afterFraction, htext, hwhole, hpoint, hmark⟩ := number?_parts h
  rw [hfraction] at hpoint
  rw [hexponent] at hmark
  obtain ⟨hleft, hwrites, hzero, hdigit⟩ := whole?_eq_some hwhole
  obtain ⟨rfl, hpointHead⟩ := fraction?_eq_none hpoint
  obtain ⟨rfl, hmarkHead⟩ := exponent?_eq_none hmark
  refine ⟨?_, ⟨⟨_, hwrites⟩, hzero, ?_⟩, fun c hc => ⟨hdigit c hc, hpointHead c hc, hmarkHead c hc⟩⟩
  · rw [htext, hleft, WrittenNumber.text, hfraction, hexponent]
    simp
  · rw [hfraction]
    exact fun digits hmem => by cases hmem

/-- The significand is the number that the digits write when all are taken into it. -/
theorem gather_eq_nil {significand total : Nat} (h : gather significand digits = (total, [])) :
    Nat.ofDigitChars 10 digits significand = total := by
  induction digits generalizing significand with
  | nil =>
    cases h
    rfl
  | cons digit rest ih =>
    rw [gather] at h
    split at h
    · rw [Nat.ofDigitChars_cons, Nat.mul_comm]
      exact ih h
    · cases h

/-- The parts of a whole number: no fraction and no exponent, the digits of its magnitude, and its
sign. -/
theorem WrittenNumber.toInt?_eq_some {number : WrittenNumber} {n : Int}
    (h : number.toInt? = some n) :
    number.fraction = none ∧ number.exponent = none ∧
      Nat.ofDigitChars 10 number.whole 0 = n.natAbs ∧ number.negative = decide (n < 0) := by
  unfold toInt? at h
  split at h
  · rename_i significand hfraction hexponent hgather
    have hvalue := gather_eq_nil hgather
    refine ⟨hfraction, hexponent, ?_⟩
    split at h
    · rename_i hnegative
      split at h
      · cases h
      · cases h
        exact ⟨by omega, hnegative.trans (decide_eq_true (by omega)).symm⟩
    · rename_i hpositive
      cases h
      exact ⟨hvalue, (Bool.eq_false_of_not_eq_true hpositive).trans
        (decide_eq_false (by omega)).symm⟩
  · cases h

/-- **A whole number is read from its own text**, and no other. -/
theorem number?_toInt? {number : WrittenNumber} {n : Int}
    (h : number? text = some (number, rest)) (hn : number.toInt? = some n) :
    text = intText n ++ rest ∧ EndsNumber rest := by
  obtain ⟨hfraction, hexponent, hvalue, hnegative⟩ := WrittenNumber.toInt?_eq_some hn
  obtain ⟨htext, hnumber, hrest⟩ := number?_whole h hfraction hexponent
  obtain ⟨m, hwrites⟩ := hnumber.whole
  have hdigits : number.whole = Nat.toDigits 10 n.natAbs := by
    rw [hwrites.eq_toDigits hnumber.no_leading_zero, ← hwrites.value, hvalue]
  refine ⟨?_, hrest⟩
  rw [htext, WrittenNumber.text, hfraction, hexponent, hnegative, hdigits, intText]
  simp

end Json

namespace Cell

theorem toInt_of_int64? {n : Int} {value : Int64} (h : int64? n = some value) :
    value.toInt = n := by
  unfold int64? at h
  split at h
  · rename_i hfits
    cases h
    exact Int64.toInt_ofInt_of_le hfits.1 (Int.lt_add_one_of_le hfits.2)
  · cases h

/-- **The text that a number of 64 bits is read from**: its sign and its digits, with nothing
after them that goes on with the number. -/
theorem readInt64_eq_some_iff {text rest : Text} {n : Int64} :
    readInt64 text = some (n, rest) ↔ text = intText n.toInt ++ rest ∧ Json.EndsNumber rest := by
  constructor
  · intro h
    obtain ⟨⟨number, left⟩, hread, h⟩ := Option.bind_eq_some_iff.mp h
    obtain ⟨m, hwhole, h⟩ := Option.bind_eq_some_iff.mp h
    obtain ⟨value, hfits, h⟩ := Option.bind_eq_some_iff.mp h
    cases h
    rw [toInt_of_int64? hfits]
    exact Json.number?_toInt? hread hwhole
  · rintro ⟨rfl, hrest⟩
    rw [readInt64_intText n.minValue_le_toInt n.toInt_le hrest, Int64.ofInt_toInt]

end Cell

end Spreadsheet
