/-
# Numbers in JSON are read in the parts they are written in

A number is written as a sign, digits, digits after a point and a signed exponent. The reader
takes each part up to where the next one starts, so it finds the same parts again, whatever
follows that is not itself a part of a number.

* `Json.number?_text` — a number is read in the parts that were written.
* `Json.numberText_eq` — a floating point number is written so, from its shortest digits.
* `Json.WrittenNumber.toInt?_ofInt` — and so is a whole number, which is read back when it fits
  the significand.
-/

import Spreadsheet.Json.Number
import Spreadsheet.Proofs.NumberReading
import Spreadsheet.Proofs.SignificantDigits

namespace Spreadsheet

-- A power of a natural number is core's, whatever other instances are in scope.
attribute [local instance (high)] instPowNat

/-! ### Shortest decimals in normal form -/

theorem Decimal.normalised_shortest (rule : TieRule) (x : Binary64) :
    Normalised (shortest rule x) := by
  unfold shortest
  split
  · exact normalised_zero
  · dsimp only
    cases hfound : (Shortest.places (scaleOf x.abs.toRat)).findSome? fun place =>
        (Shortest.candidate? rule (RoundingInterval.ofUnits x.signedUnits.natAbs) x.abs.toRat
          place).map (Shortest.ofSteps · place) with
    | none => exact normalised_significant _ _
    | some d =>
      obtain ⟨place, -, hplace⟩ := List.exists_of_findSome?_eq_some hfound
      obtain ⟨count, -, rfl⟩ := Option.map_eq_some_iff.mp hplace
      exact normalised_normalise_ofNat _ _

/-- A decimal that starts at a place other than the point has digits. -/
theorem Decimal.Normalised.digits_ne_nil {d : Decimal} (h : Normalised d) (hscale : d.scale ≠ 0) :
    d.digits ≠ [] :=
  mt h.scale_of_nil hscale

/-! ### Digits as text -/

/-- Digits below ten are written by their characters. -/
theorem Text.writes_digits {digits : List Nat} (hne : digits ≠ [])
    (hdigits : ∀ digit ∈ digits, digit < 10) :
    Writes (Digits.text digits) (Digits.value digits) where
  ne_nil := by simpa [Digits.text] using hne
  isDigit _ hc := Digits.isDigit_of_mem_text hdigits hc
  value := Digits.ofDigitChars_text hdigits

/-- Their text starts with a zero only if they do. -/
theorem Digits.head?_text_ne_zero {digits : List Nat} (hdigits : ∀ digit ∈ digits, digit < 10)
    (hhead : digits.head? ≠ some 0) : (text digits).head? ≠ some '0' := by
  have hchar : ∀ digit < 10, Nat.digitChar digit = '0' → digit = 0 := by decide
  cases digits with
  | nil => exact (Option.some_ne_none _).symm
  | cons digit rest =>
    intro heq
    have hzero := hchar digit (hdigits digit List.mem_cons_self) (Option.some.inj heq)
    rw [hzero] at hhead
    exact hhead rfl

/-- A whole number is written in digits, with a zero in front only for zero itself. -/
theorem Text.writes_toDigits (n : Nat) : Writes (Nat.toDigits 10 n) n ∧
    ((Nat.toDigits 10 n).head? = some '0' → (Nat.toDigits 10 n).length = 1) := by
  have hwrites := writes_digits (Digits.ofNat_ne_nil n) fun _ => Digits.digit_lt_of_mem_ofNat
  rw [Digits.text_ofNat, Digits.value_ofNat] at hwrites
  refine ⟨hwrites, fun hhead => ?_⟩
  by_cases hzero : n = 0
  · rw [hzero]
    rfl
  · rw [← Digits.text_ofNat] at hhead
    exact absurd hhead (Digits.head?_text_ne_zero (fun _ => Digits.digit_lt_of_mem_ofNat)
      (Digits.head?_ofNat_ne_zero hzero))

namespace Json

/-! ### The parts of a number -/

namespace WrittenNumber

/-- The exponent with its sign. -/
def exponentPart (exponent : Int) : Text :=
  (if exponent < 0 then ['e', '-'] else ['e', '+']) ++ Nat.toDigits 10 exponent.natAbs

/-- The parts of a number, one after the other. -/
def text (number : WrittenNumber) : Text :=
  signText number.negative ++ (number.whole ++ (number.fraction.elim [] ('.' :: ·) ++
    number.exponent.elim [] exponentPart))

/-- Digits stand in each part, and no zero in front of the others before the point. -/
structure WellFormed (number : WrittenNumber) : Prop where
  whole : ∃ n, number.whole.Writes n
  no_leading_zero : number.whole.head? = some '0' → number.whole.length = 1
  fraction : ∀ digits ∈ number.fraction, ∃ n, digits.Writes n

end WrittenNumber

/-- The text does not go on with a number. -/
def EndsNumber (rest : Text) : Prop :=
  ∀ c ∈ rest.head?, c.isDigit = false ∧ c ≠ '.' ∧ c ≠ 'e' ∧ c ≠ 'E'

section Parts

variable {digits rest : Text} {n : Nat}

theorem digits?_append (h : digits.Writes n) (hrest : ∀ c ∈ rest.head?, c.isDigit = false) :
    digits? (digits ++ rest) = some (digits, rest) := by
  obtain ⟨htake, hdrop⟩ := h.leadingRun hrest
  rw [digits?, htake, hdrop]
  exact if_neg (by simp [h.ne_nil])

theorem whole?_append (h : digits.Writes n)
    (hzero : digits.head? = some '0' → digits.length = 1)
    (hrest : ∀ c ∈ rest.head?, c.isDigit = false) :
    whole? (digits ++ rest) = some (digits, rest) := by
  rw [whole?, digits?_append h hrest, Option.bind_eq_bind, Option.bind_some]
  exact if_neg fun hlead => hlead.2 (hzero hlead.1)

theorem fraction?_point (h : digits.Writes n) (hrest : ∀ c ∈ rest.head?, c.isDigit = false) :
    fraction? ('.' :: (digits ++ rest)) = some (some digits, rest) := by
  rw [fraction?, digits?_append h hrest, Option.map_some]

theorem fraction?_of_head (hrest : ∀ c ∈ rest.head?, c ≠ '.') :
    fraction? rest = some (none, rest) := by
  unfold fraction?
  split
  · exact absurd rfl (hrest '.' rfl)
  · rfl

theorem exponent?_of_head (hrest : ∀ c ∈ rest.head?, c ≠ 'e' ∧ c ≠ 'E') :
    exponent? rest = some (none, rest) := by
  cases rest with
  | nil => rfl
  | cons c rest =>
    obtain ⟨hsmall, hlarge⟩ := hrest c rfl
    unfold exponent?
    dsimp only
    rw [if_neg (by simp [hsmall, hlarge])]

/-- A signed exponent is read back. -/
theorem exponent?_exponentPart (exponent : Int) (hrest : ∀ c ∈ rest.head?, c.isDigit = false) :
    exponent? (WrittenNumber.exponentPart exponent ++ rest) = some (some exponent, rest) := by
  have hwrites := (Text.writes_toDigits exponent.natAbs).1
  have hread := digits?_append hwrites hrest
  unfold WrittenNumber.exponentPart
  by_cases hneg : exponent < 0
  · rw [if_pos hneg]
    simp only [List.cons_append, List.nil_append]
    rw [exponent?, if_pos (.inl rfl)]
    simp only [hread, Option.map_some, hwrites.value]
    rw [← Int.eq_neg_natAbs_of_nonpos (by omega)]
  · rw [if_neg hneg]
    simp only [List.cons_append, List.nil_append]
    rw [exponent?, if_pos (.inl rfl)]
    simp only [hread, Option.map_some, hwrites.value]
    rw [Int.natAbs_of_nonneg (by omega)]

/-- An exponent that may be missing is read back, and it starts with no part before it. -/
theorem exponent?_elim (exponent : Option Int) (hrest : EndsNumber rest) :
    exponent? (exponent.elim [] WrittenNumber.exponentPart ++ rest) = some (exponent, rest) ∧
      ∀ c ∈ (exponent.elim [] WrittenNumber.exponentPart ++ rest).head?,
        c.isDigit = false ∧ c ≠ '.' := by
  cases exponent with
  | none =>
    exact ⟨exponent?_of_head fun c hc => (hrest c hc).2.2,
      fun c hc => ⟨(hrest c hc).1, (hrest c hc).2.1⟩⟩
  | some exponent =>
    refine ⟨exponent?_exponentPart exponent fun c hc => (hrest c hc).1, ?_⟩
    have hhead : (WrittenNumber.exponentPart exponent ++ rest).head? = some 'e' := by
      unfold WrittenNumber.exponentPart
      split <;> rfl
    rw [Option.elim_some, hhead]
    rintro c ⟨⟩
    exact ⟨rfl, by decide⟩

/-- So is a fraction that may be missing. -/
theorem fraction?_elim {fraction : Option Text}
    (hfraction : ∀ digits ∈ fraction, ∃ n, digits.Writes n)
    (hrest : ∀ c ∈ rest.head?, c.isDigit = false ∧ c ≠ '.') :
    fraction? (fraction.elim [] ('.' :: ·) ++ rest) = some (fraction, rest) ∧
      ∀ c ∈ (fraction.elim [] ('.' :: ·) ++ rest).head?, c.isDigit = false := by
  cases fraction with
  | none =>
    exact ⟨fraction?_of_head fun c hc => (hrest c hc).2, fun c hc => (hrest c hc).1⟩
  | some digits =>
    obtain ⟨n, hwrites⟩ := hfraction digits rfl
    refine ⟨fraction?_point hwrites fun c hc => (hrest c hc).1, ?_⟩
    rintro c ⟨⟩
    rfl

end Parts

/-- The sign of a number is taken off. -/
theorem number?_sign (negative : Bool) {text : Text} (htext : text.head? ≠ some '-') :
    number? (signText negative ++ text) = (do
      let (whole, rest) ← whole? text
      let (fraction, rest) ← fraction? rest
      let (exponent, rest) ← exponent? rest
      return ({ negative, whole, fraction, exponent }, rest)) := by
  cases negative with
  | true => rfl
  | false =>
    rw [signText, if_neg Bool.false_ne_true, List.nil_append]
    unfold number?
    split
    rename_i hsign
    split at hsign
    · exact absurd rfl htext
    · cases hsign
      rfl

/-- A number starts with its sign or with a digit. -/
theorem WrittenNumber.WellFormed.head?_text {number : WrittenNumber} (h : number.WellFormed) :
    ∀ c ∈ number.text.head?, c = '-' ∨ c.isDigit = true := by
  obtain ⟨n, hwhole⟩ := h.whole
  obtain ⟨first, others, hfirst, hdigit⟩ := hwhole.exists_cons
  rw [text, signText, hfirst]
  split
  · rintro c ⟨⟩
    exact Or.inl rfl
  · rintro c ⟨⟩
    exact Or.inr hdigit

/-- **A number is read in the parts that were written**, up to what does not go on with it. -/
theorem number?_text {number : WrittenNumber} (h : number.WellFormed) {rest : Text}
    (hrest : EndsNumber rest) : number? (number.text ++ rest) = some (number, rest) := by
  obtain ⟨n, hwhole⟩ := h.whole
  obtain ⟨hexponent, hexponentHead⟩ := exponent?_elim number.exponent hrest
  obtain ⟨hfraction, hfractionHead⟩ := fraction?_elim h.fraction hexponentHead
  have hhead : ∀ tail : Text, (number.whole ++ tail).head? ≠ some '-' := by
    intro tail heq
    obtain ⟨first, others, hfirst, hdigit⟩ := hwhole.exists_cons
    rw [hfirst, List.cons_append, List.head?_cons, Option.some.injEq] at heq
    rw [heq] at hdigit
    cases hdigit
  rw [WrittenNumber.text, List.append_assoc, List.append_assoc, List.append_assoc,
    number?_sign _ (hhead _), whole?_append hwhole h.no_leading_zero hfractionHead]
  simp only [Option.bind_eq_bind, Option.bind_some, hfraction, hexponent]
  rfl

/-! ### Floating point numbers -/

/-- The parts that a decimal is written in. -/
def WrittenNumber.ofDecimal (negative : Bool) (d : Decimal) : WrittenNumber :=
  if -4 ≤ d.scale ∧ d.scale ≤ 16 then
    { negative, whole := d.wholeText,
      fraction := some (if d.fractionLength = 0 then ['0'] else d.fractionText),
      exponent := none }
  else
    { negative, whole := Digits.text (d.digits.take 1),
      fraction := if d.digits.length ≤ 1 then none else some (Digits.text (d.digits.drop 1)),
      exponent := some (d.scale - 1) }

/-- A floating point number is written in the parts of its shortest decimal. -/
theorem numberText_eq (negative : Bool) (units : Nat) (h : Representable units) :
    numberText (.finite negative units h) =
      (WrittenNumber.ofDecimal negative (Decimal.shortest .even (.finite negative units h))).text := by
  rw [numberText, WrittenNumber.ofDecimal]
  split
  · simp [WrittenNumber.text, pointText]
  · rw [WrittenNumber.text, exponentText]
    dsimp only
    split <;> simp [WrittenNumber.exponentPart]

/-- A decimal in normal form is written as a number: its digits do not start with a zero, and
only zero has none. -/
theorem wellFormed_ofDecimal (negative : Bool) {d : Decimal} (h : d.Normalised) :
    (WrittenNumber.ofDecimal negative d).WellFormed := by
  have hzero : Text.Writes ['0'] 0 := Text.writes_toDigits 0 |>.1
  unfold WrittenNumber.ofDecimal
  split
  · have hinteger := Decimal.digit_lt_integerDigits h.digit_lt
    have hwhole : (∃ n, d.wholeText.Writes n) ∧
        (d.wholeText.head? = some '0' → d.wholeText.length = 1) := by
      unfold Decimal.wholeText
      dsimp only
      split
      · exact ⟨⟨0, hzero⟩, fun _ => rfl⟩
      · rename_i hne
        exact ⟨⟨_, Text.writes_digits (by simpa using hne) hinteger⟩, fun hhead =>
          absurd hhead (Digits.head?_text_ne_zero hinteger (Decimal.head?_integerDigits_ne_zero h))⟩
    refine ⟨hwhole.1, hwhole.2, ?_⟩
    rintro digits ⟨⟩
    split
    · exact ⟨0, hzero⟩
    · rename_i hlength
      refine ⟨_, Text.writes_digits ?_ (Decimal.digit_lt_fractionDigits h.digit_lt _)⟩
      rwa [← List.length_pos_iff, Decimal.length_fractionDigits, Nat.pos_iff_ne_zero]
  · rename_i hscale
    have hdigits := h.digits_ne_nil (by omega)
    refine ⟨⟨_, Text.writes_digits (by simpa using hdigits) fun digit hmem =>
      h.digit_lt digit (List.mem_of_mem_take hmem)⟩, fun _ => ?_, ?_⟩
    · have hlength := List.length_pos_iff.mpr hdigits
      simp only [Digits.text, List.length_map, List.length_take]
      omega
    · intro digits hmem
      dsimp only at hmem
      split at hmem
      · cases hmem
      · rename_i hlength
        cases hmem
        have hdrop : d.digits.drop 1 ≠ [] := by
          rw [Ne, List.drop_eq_nil_iff]
          exact hlength
        exact ⟨_, Text.writes_digits hdrop fun digit hmem =>
          h.digit_lt digit (List.mem_of_mem_drop hmem)⟩

/-- **A finite number is written as a number in JSON.** -/
theorem exists_written {x : Binary64} (h : x.isFinite = true) :
    ∃ written : WrittenNumber, written.WellFormed ∧ numberText x = written.text := by
  cases x with
  | finite negative units hunits =>
    exact ⟨_, wellFormed_ofDecimal negative (Decimal.normalised_shortest _ _),
      numberText_eq negative units hunits⟩
  | infinite negative => cases h
  | nan => cases h

/-- What the shortest text of a number is read as, if it is read, is this number. -/
def ReadsBack (x : Binary64) : Prop :=
  ∀ written, number? (numberText x) = some (written, []) → written.toBinary64? = some x

/-! ### Whole numbers -/

/-- The parts that a whole number is written in. -/
def WrittenNumber.ofInt (n : Int) : WrittenNumber :=
  { negative := decide (n < 0), whole := Nat.toDigits 10 n.natAbs, fraction := none,
    exponent := none }

theorem intText_eq (n : Int) : intText n = (WrittenNumber.ofInt n).text := by
  simp [intText, WrittenNumber.text, WrittenNumber.ofInt]

theorem wellFormed_ofInt (n : Int) : (WrittenNumber.ofInt n).WellFormed where
  whole := ⟨_, (Text.writes_toDigits n.natAbs).1⟩
  no_leading_zero := (Text.writes_toDigits n.natAbs).2
  fraction _ hmem := by cases hmem

/-- Digits that follow a number make it no smaller. -/
theorem le_ofDigitChars (digits : Text) (n : Nat) : n ≤ Nat.ofDigitChars 10 digits n := by
  rw [Nat.ofDigitChars_eq_ofDigitChars_zero]
  exact Nat.le_trans (Nat.le_mul_of_pos_left _ (Nat.pow_pos (by decide))) (Nat.le_add_right _ _)

/-- Digits are all taken into the significand when the number they write fits. -/
theorem gather_eq {digits : Text} {significand : Nat}
    (hfits : Nat.ofDigitChars 10 digits significand ≤ maxSignificand) :
    gather significand digits = (Nat.ofDigitChars 10 digits significand, []) := by
  induction digits generalizing significand with
  | nil => rfl
  | cons digit rest ih =>
    rw [Nat.ofDigitChars_cons, Nat.mul_comm] at hfits ⊢
    rw [gather, if_pos (Nat.le_trans (le_ofDigitChars rest _) hfits)]
    exact ih hfits

/-- **A whole number that fits the significand is read back.** -/
theorem WrittenNumber.toInt?_ofInt {n : Int} (hfits : n.natAbs ≤ maxSignificand) :
    (ofInt n).toInt? = some n := by
  have hvalue := (Text.writes_toDigits n.natAbs).1.value
  have hgather : gather 0 (Nat.toDigits 10 n.natAbs) = (n.natAbs, []) := by
    rw [← hvalue] at hfits
    rw [gather_eq hfits, hvalue]
  rw [toInt?, ofInt]
  dsimp only
  rw [hgather]
  dsimp only
  by_cases hneg : n < 0
  · rw [if_pos (decide_eq_true hneg), if_neg (by omega), ← Int.eq_neg_natAbs_of_nonpos (by omega)]
  · rw [if_neg (by simpa using hneg), Int.natAbs_of_nonneg (by omega)]

end Json

end Spreadsheet
