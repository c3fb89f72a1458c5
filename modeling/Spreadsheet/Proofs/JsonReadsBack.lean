/-
# Numbers of few digits are read back from JSON

The reader of JSON rounds twice, once when it makes a floating point number of the digits and once
when it multiplies this by a power of ten. When both are exact, only the product or the quotient is
rounded, and the reader finds the number nearest to what is written. A shortest decimal is written
with the value that it has, so it is read back wherever this is so.

* `Json.WrittenNumber.toBinary64?_eq` — where the reader rounds once.
* `Json.WrittenNumber.magnitude_ofDecimal` — a decimal is written with its value.
* `Json.readsBack_of_length_le` — a number of fifteen digits is read back, from `10 ^ -8` up to
  `10 ^ 14`.
-/

import Spreadsheet.Proofs.GeneralNotation
import Spreadsheet.Proofs.JsonNumbers
import Spreadsheet.Proofs.ShortestRounding

namespace Spreadsheet

-- A power of a natural number is core's, whatever other instances are in scope.
attribute [local instance (high)] instPowNat

namespace Json

/-! ### The value that is written -/

namespace WrittenNumber

/-- All digits as a whole number. -/
def significand (number : WrittenNumber) : Nat :=
  Nat.ofDigitChars 10 (number.whole ++ number.fraction.getD []) 0

/-- The place of the last digit. -/
def lastPlace (number : WrittenNumber) : Int :=
  number.exponent.getD 0 - (number.fraction.getD []).length

/-- What is written, without its sign. -/
def magnitude (number : WrittenNumber) : Rat :=
  number.significand * 10 ^ number.lastPlace

/-- Digits that fit the significand are all gathered. -/
theorem parts_eq {number : WrittenNumber} (hfits : number.significand ≤ maxSignificand) :
    number.parts = (number.significand, number.lastPlace) := by
  have hall : number.significand = Nat.ofDigitChars 10 (number.fraction.getD [])
      (Nat.ofDigitChars 10 number.whole 0) := Nat.ofDigitChars_append 0
  have hwhole : Nat.ofDigitChars 10 number.whole 0 ≤ number.significand :=
    hall ▸ le_ofDigitChars _ _
  rw [parts, gather_eq (Nat.le_trans hwhole hfits)]
  dsimp only
  rw [gather_eq (hall ▸ hfits), ← hall]
  simp [lastPlace]

end WrittenNumber

/-! ### One rounding -/

/-- The powers of ten up to the twenty-second are exact. -/
theorem toRat_powerOfTen {exponent : Nat} (h : exponent ≤ 22) :
    (powerOfTen exponent).toRat = 10 ^ exponent := by
  have hbits : Representable (10 ^ exponent * unitsInOne) := by
    constructor
    · have hfive : 5 ^ exponent ≤ 2 ^ (53 : Nat) :=
        Nat.le_trans (Nat.pow_le_pow_right (by decide) h) (by decide)
      have htwos : 10 ^ exponent * unitsInOne = 5 ^ exponent * 2 ^ (exponent + 1074) := by
        unfold unitsInOne
        rw [Nat.pow_add, ← Nat.mul_assoc, ← Nat.mul_pow]
      rw [htwos]
      exact significant53_mul_pow hfive _
    · have hten : 10 ^ exponent < 2 ^ (74 : Nat) :=
        Nat.lt_of_le_of_lt (Nat.pow_le_pow_right (by decide) h) (by decide)
      exact Nat.lt_of_lt_of_le (Nat.mul_lt_mul_of_pos_right hten unitsInOne_pos)
        (pow_mul_unitsInOne_le (by decide))
  rw [powerOfTen, zpow_natCast]
  refine (Binary64.toRat_ofRat hbits ?_).2
  rw [abs_of_pos (by positivity)]
  push_cast
  rfl

/-- A whole number that is exact is multiplied or divided by an exact power of ten. -/
theorem scaled?_ofInt {n : Nat} {exponent : Int} (hn : n ≤ 2 ^ (53 : Nat))
    (hexponent : exponent.natAbs ≤ 22) (hfinite : (Binary64.ofRat (n * 10 ^ exponent)).isFinite) :
    scaled? (.ofInt n) exponent = some (.ofRat (n * 10 ^ exponent)) := by
  have hvalue : (Binary64.ofInt n).toRat = n := (Binary64.toRat_ofInt (n := n) hn).2
  rw [scaled?, if_neg (by omega), hvalue]
  rcases Int.lt_or_le exponent 0 with hneg | hnonneg
  · obtain ⟨places, rfl⟩ := Int.exists_eq_neg_ofNat (le_of_lt hneg)
    rw [if_neg (by omega), if_pos (by omega), Int.natAbs_neg, Int.natAbs_natCast,
      toRat_powerOfTen (by omega), zpow_neg, zpow_natCast, div_eq_mul_inv]
  · obtain ⟨places, rfl⟩ := Int.eq_ofNat_of_zero_le hnonneg
    rw [if_pos hnonneg, Int.toNat_natCast, toRat_powerOfTen (by omega), ← zpow_natCast]
    dsimp only
    rw [if_pos hfinite]

/-- **The reader rounds once**, to the number nearest to what is written, when the digits and the
power of ten are exact. -/
theorem WrittenNumber.toBinary64?_eq {number : WrittenNumber}
    (hdigits : number.significand ≤ 2 ^ (53 : Nat)) (hplace : number.lastPlace.natAbs ≤ 22)
    (hfinite : (Binary64.ofRat number.magnitude).isFinite) :
    number.toBinary64? = some (if number.negative then (Binary64.ofRat number.magnitude).neg
      else .ofRat number.magnitude) := by
  rw [toBinary64?, parts_eq (Nat.le_trans hdigits (by decide))]
  dsimp only
  rw [scaled?_ofInt hdigits hplace hfinite]
  rfl

/-! ### Decimals -/

namespace WrittenNumber

/-- The value of digits that are written on both sides of the point. -/
theorem magnitude_eq (number : WrittenNumber) (whole fraction : List Nat)
    (hwhole : number.whole = Digits.text whole)
    (hfraction : number.fraction.getD [] = Digits.text fraction)
    (hdigits : ∀ digit ∈ whole ++ fraction, digit < 10) :
    number.magnitude =
      Digits.value (whole ++ fraction) * 10 ^ (number.exponent.getD 0 - fraction.length) := by
  have htext : Digits.text whole ++ Digits.text fraction = Digits.text (whole ++ fraction) :=
    List.map_append.symm
  rw [magnitude, significand, lastPlace, hwhole, hfraction, htext,
    Digits.ofDigitChars_text hdigits]
  simp [Digits.text]

variable {d : Decimal} (negative : Bool)

/-- **A decimal is written with its value.** -/
theorem magnitude_ofDecimal (h : d.Normalised) : (ofDecimal negative d).magnitude = d.toRat := by
  have hshown := Decimal.digit_lt_shownInteger h.digit_lt
  unfold ofDecimal
  split
  · by_cases hlength : d.fractionLength = 0
    · -- the zero after the point moves the last place, and counts as nothing
      have hvalue := d.value_shownInteger_append
      rw [hlength, Decimal.fractionDigits, List.range_zero, List.map_nil, List.append_nil,
        List.length_nil, Nat.cast_zero, sub_zero, zpow_zero, mul_one] at hvalue
      rw [magnitude_eq _ d.shownInteger [0] d.wholeText_eq (by rw [if_pos hlength]; rfl)
        (List.forall_mem_append.mpr ⟨hshown, by simp⟩), Digits.value_concat, ← hvalue]
      simp
    · rw [magnitude_eq _ d.shownInteger (d.fractionDigits d.fractionLength) d.wholeText_eq
        (by rw [if_neg hlength]; rfl)
        (List.forall_mem_append.mpr ⟨hshown, Decimal.digit_lt_fractionDigits h.digit_lt _⟩)]
      exact d.value_shownInteger_append
  · have hlength := List.length_pos_iff.mpr (h.digits_ne_nil (by omega))
    rw [magnitude_eq _ (d.digits.take 1) (d.digits.drop 1) rfl ?_
      (by rw [List.take_append_drop]; exact h.digit_lt), List.take_append_drop, Decimal.toRat]
    · congr 2
      simp only [Option.getD_some, List.length_drop]
      omega
    · dsimp only
      split
      · rename_i hone
        rw [List.drop_eq_nil_iff.mpr hone]
        rfl
      · rfl

/-- A decimal is written down to its last digit, with a point at least to the first place. -/
theorem lastPlace_ofDecimal (h : d.Normalised) :
    (ofDecimal negative d).lastPlace =
      if -4 ≤ d.scale ∧ d.scale ≤ 16 then min (-1) (d.scale - d.digits.length)
      else d.scale - d.digits.length := by
  unfold ofDecimal lastPlace
  split
  · dsimp only
    rw [Option.getD_none, Option.getD_some]
    split
    · rename_i hwhole
      rw [Decimal.fractionLength] at hwhole
      simp only [List.length_singleton]
      omega
    · rename_i hfraction
      rw [Decimal.fractionText, Digits.text, List.length_map, Decimal.length_fractionDigits]
      rw [Decimal.fractionLength] at hfraction ⊢
      omega
  · have hlength := List.length_pos_iff.mpr (h.digits_ne_nil (by omega))
    dsimp only
    rw [Option.getD_some]
    split
    · simp only [Option.getD_none, List.length_nil]
      omega
    · simp only [Option.getD_some, Digits.text, List.length_map, List.length_drop]
      omega

/-- Fifteen digits are exact. -/
theorem significand_ofDecimal_le (h : d.Normalised) (hlength : d.digits.length ≤ 15)
    (hscale : d.scale ≤ 14) : (ofDecimal negative d).significand ≤ 2 ^ (53 : Nat) := by
  have hspan : d.scale - (ofDecimal negative d).lastPlace ≤ 15 := by
    rw [lastPlace_ofDecimal negative h]
    split <;> omega
  have hvalue := Decimal.toRat_lt h.digit_lt
  rw [← magnitude_ofDecimal negative h, magnitude, ← lt_div_iff₀ (by positivity),
    ← zpow_sub₀ (by norm_num)] at hvalue
  have hlt : ((ofDecimal negative d).significand : Rat) < 10 ^ (15 : Int) :=
    lt_of_lt_of_le hvalue (zpow_le_zpow_right₀ (by norm_num) hspan)
  have hnat : (ofDecimal negative d).significand < 10 ^ (15 : Nat) := by exact_mod_cast hlt
  exact Nat.le_of_lt (Nat.lt_of_lt_of_le hnat (by decide))

end WrittenNumber

/-! ### Shortest texts -/

/-- A number is read back when the digits and the power of ten that it is written with are
exact. -/
theorem readsBack_of_exact {negative : Bool} {units : Nat} {hunits : Representable units}
    {number : WrittenNumber}
    (hnumber : number = .ofDecimal negative (.shortest .even (.finite negative units hunits)))
    (hdigits : number.significand ≤ 2 ^ (53 : Nat)) (hplace : number.lastPlace.natAbs ≤ 22) :
    ReadsBack (.finite negative units hunits) := by
  have hnormal := Decimal.normalised_shortest .even (.finite negative units hunits)
  have hround : Binary64.ofRat number.magnitude = .finite false units hunits := by
    rw [hnumber, WrittenNumber.magnitude_ofDecimal negative hnormal]
    exact Binary64.ofRat_shortest .even rfl
  intro written hwritten
  rw [numberText_eq, ← hnumber, ← List.append_nil number.text,
    number?_text (hnumber ▸ wellFormed_ofDecimal negative hnormal) (by rintro _ ⟨⟩)] at hwritten
  obtain rfl : number = written := congrArg Prod.fst (Option.some.inj hwritten)
  have hsign : number.negative = negative := by
    rw [hnumber, WrittenNumber.ofDecimal]
    split <;> rfl
  rw [WrittenNumber.toBinary64?_eq hdigits hplace (by rw [hround]; rfl), hround, hsign]
  cases negative <;> rfl

/-- **A number of at most fifteen digits is read back** from `10 ^ -8` up to `10 ^ 14`. -/
theorem readsBack_of_length_le {x : Binary64} (h : x.isFinite = true)
    (hlength : (Decimal.shortest .even x).digits.length ≤ 15)
    (hlow : -7 ≤ (Decimal.shortest .even x).scale) (hhigh : (Decimal.shortest .even x).scale ≤ 14) :
    ReadsBack x := by
  cases x with
  | finite negative units hunits =>
    have hnormal := Decimal.normalised_shortest .even (.finite negative units hunits)
    refine readsBack_of_exact rfl
      (WrittenNumber.significand_ofDecimal_le negative hnormal hlength hhigh) ?_
    rw [WrittenNumber.lastPlace_ofDecimal negative hnormal]
    split <;> omega
  | infinite negative => cases h
  | nan => cases h

end Json

end Spreadsheet
