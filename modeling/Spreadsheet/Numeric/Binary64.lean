/-
# Binary floating point numbers of 64 bits

A finite number is a sign and a magnitude, counted in units of `2 ^ -1074`, the
least positive magnitude: at most 53 significant bits, below `2 ^ 1024`. The
two zeros differ in their sign only. All arithmetic of the library is done
exactly, on rational numbers, and then rounded by `Binary64.ofRat`.

* `ofBits_toBits` — a number is read back from its bits, up to the payload of a
  number that is not one.
* `order?_eq_none_iff` — only `nan` is unordered.
-/

import Spreadsheet.Numeric.Rounding

namespace Spreadsheet

-- A power of a natural number is core's, whatever other instances are in scope.
attribute [local instance (high)] instPowNat

/-- The number of units in one. -/
@[irreducible] def unitsInOne : Nat := 2 ^ (1074 : Nat)

/-- The number of units in `2 ^ 1024`, just above the finite magnitudes. -/
@[irreducible] def unitLimit : Nat := 2 ^ (2098 : Nat)

theorem unitsInOne_pos : 0 < unitsInOne := by
  unfold unitsInOne
  exact Nat.pow_pos (by decide)

theorem pow_le_unitsInOne {k : Nat} (h : k ≤ 1074) : 2 ^ k ≤ unitsInOne := by
  unfold unitsInOne
  exact Nat.pow_le_pow_right (by decide) h

theorem pow_le_unitLimit {k : Nat} (h : k ≤ 2098) : 2 ^ k ≤ unitLimit := by
  unfold unitLimit
  exact Nat.pow_le_pow_right (by decide) h

theorem unitLimit_pos : 0 < unitLimit :=
  Nat.lt_of_lt_of_le (by decide : 0 < 2 ^ (0 : Nat)) (pow_le_unitLimit (by decide))

/-- A magnitude of a finite number, in units of `2 ^ -1074`. -/
def Representable (units : Nat) : Prop :=
  Significant53 units ∧ units < unitLimit

instance (units : Nat) : Decidable (Representable units) :=
  inferInstanceAs (Decidable (_ ∧ _))

/-- A number below `2 ^ 1024`, in units. -/
theorem pow_mul_unitsInOne_le {k : Nat} (h : k ≤ 1024) : 2 ^ k * unitsInOne ≤ unitLimit := by
  obtain ⟨shift, hshift, hunits⟩ : ∃ shift, shift = 1074 ∧ unitsInOne = 2 ^ shift := by
    refine ⟨1074, rfl, ?_⟩
    unfold unitsInOne
    rfl
  rw [hunits, ← Nat.pow_add]
  exact pow_le_unitLimit (by omega)

/-- Whole numbers of at most 53 bits are magnitudes. -/
theorem representable_mul_unitsInOne {n : Nat} (h : n ≤ 2 ^ (53 : Nat)) :
    Representable (n * unitsInOne) := by
  have hlimit := pow_mul_unitsInOne_le (k := 54) (by decide)
  refine ⟨?_, Nat.lt_of_lt_of_le (Nat.mul_lt_mul_of_pos_right (by omega) unitsInOne_pos) hlimit⟩
  unfold unitsInOne
  exact significant53_mul_pow h _

/-- A floating point number of the IEEE 754 format `binary64`. -/
inductive Binary64 where
  | nan
  | infinite (negative : Bool)
  | finite (negative : Bool) (units : Nat) (representable : Representable units)
deriving DecidableEq

namespace Binary64

/-! ### Rounding into the format -/

/-- The zero of the given sign. -/
def zero (negative : Bool) : Binary64 :=
  .finite negative 0 ⟨by decide, unitLimit_pos⟩

/-- The number nearest to `num / den` with the given sign, a half going to the
even neighbour; infinite from the middle above the greatest finite magnitude. -/
def ofQuotient (negative : Bool) (num den : Nat) : Binary64 :=
  if h : nearestMagnitude (num * unitsInOne) den < unitLimit then
    .finite negative (nearestMagnitude (num * unitsInOne) den)
      ⟨nearestMagnitude_significant _ _, h⟩
  else .infinite negative

/-- The number nearest to a rational number. -/
def ofRat (q : Rat) : Binary64 :=
  ofQuotient (decide (q < 0)) q.num.natAbs q.den

/-- The number nearest to a whole number. -/
def ofInt (n : Int) : Binary64 :=
  ofRat n

/-! ### Views -/

/-- Whether the number is neither infinite nor `nan`. -/
def isFinite : Binary64 → Bool
  | .finite _ _ _ => true
  | _ => false

/-- The magnitude with its sign, in units of `2 ^ -1074`; zero when not finite. -/
def signedUnits : Binary64 → Int
  | .finite negative units _ => if negative then -(units : Int) else units
  | _ => 0

/-- The exact value of a finite number. -/
def toRat (x : Binary64) : Rat :=
  mkRat x.signedUnits unitsInOne

/-- Whether the value is zero, of either sign. -/
def isZero : Binary64 → Bool
  | .finite _ units _ => units == 0
  | _ => false

/-- The same magnitude with the other sign. -/
def neg : Binary64 → Binary64
  | .nan => .nan
  | .infinite negative => .infinite !negative
  | .finite negative units ok => .finite (!negative) units ok

/-- The magnitude. -/
def abs : Binary64 → Binary64
  | .nan => .nan
  | .infinite _ => .infinite false
  | .finite _ units ok => .finite false units ok

theorem isFinite_neg (x : Binary64) : x.neg.isFinite = x.isFinite := by
  cases x <;> rfl

protected theorem abs_neg (x : Binary64) : x.neg.abs = x.abs := by
  cases x <;> rfl

theorem signedUnits_neg (x : Binary64) : x.neg.signedUnits = -x.signedUnits := by
  cases x with
  | finite negative units _ => cases negative <;> simp [neg, signedUnits]
  | _ => rfl

/-! ### Order -/

/-- The place of a number in the order, in units: the infinities stand at
`2 ^ 1024`, which no finite magnitude reaches. -/
def rank? : Binary64 → Option Int
  | .nan => none
  | .infinite negative => some (if negative then -(unitLimit : Int) else unitLimit)
  | .finite negative units _ => some (if negative then -(units : Int) else units)

/-- How two numbers compare; `nan` compares with nothing, and the two zeros are
equal. -/
def order? (x y : Binary64) : Option Ordering :=
  match x.rank?, y.rank? with
  | some a, some b => some (compare a b)
  | _, _ => none

theorem rank?_eq_none_iff {x : Binary64} : x.rank? = none ↔ x = nan := by
  cases x with
  | nan => exact ⟨fun _ => rfl, fun _ => rfl⟩
  | infinite _ => exact ⟨fun h => (Option.some_ne_none _ h).elim, fun h => Binary64.noConfusion h⟩
  | finite _ _ _ =>
    exact ⟨fun h => (Option.some_ne_none _ h).elim, fun h => Binary64.noConfusion h⟩

/-- Only `nan` is unordered. -/
theorem order?_eq_none_iff {x y : Binary64} : order? x y = none ↔ x = nan ∨ y = nan := by
  rw [← rank?_eq_none_iff, ← rank?_eq_none_iff, order?]
  cases x.rank? <;> cases y.rank? <;> simp

/-- Whether the value is less than zero. -/
def isNegative (x : Binary64) : Bool :=
  order? x (zero false) == some .lt

/-- Whether the value is greater than zero. -/
def isPositive (x : Binary64) : Bool :=
  order? x (zero false) == some .gt

/-! ### Interchange form -/

/-- The 64 bits of the interchange format, as a number; `nan` is the quiet one
with no payload. -/
def toBits : Binary64 → Nat
  | .nan => 0x7FF8000000000000
  | .infinite negative => (if negative then 2 ^ (63 : Nat) else 0) + 0x7FF0000000000000
  | .finite negative units _ =>
    let shift := units.log2 - 52
    (if negative then 2 ^ (63 : Nat) else 0) + (shift * 2 ^ (52 : Nat) + units / 2 ^ shift)

theorem representable_fraction {m : Nat} (h : m < 2 ^ (52 : Nat)) : Representable m := by
  refine ⟨?_, Nat.lt_of_lt_of_le h (pow_le_unitLimit (by decide))⟩
  have := significant53_mul_pow (m := m) (by omega) 0
  simpa using this

theorem representable_normal {m shift : Nat} (hm : m < 2 ^ (52 : Nat)) (hshift : shift < 2046) :
    Representable ((2 ^ (52 : Nat) + m) * 2 ^ shift) := by
  refine ⟨significant53_mul_pow (by omega) shift, ?_⟩
  calc (2 ^ (52 : Nat) + m) * 2 ^ shift
      < 2 ^ (53 : Nat) * 2 ^ shift :=
        Nat.mul_lt_mul_of_pos_right (by omega) (Nat.pow_pos (by decide))
    _ = 2 ^ (53 + shift) := (Nat.pow_add 2 53 shift).symm
    _ ≤ unitLimit := pow_le_unitLimit (by omega)

/-- The number with the given sign, biased exponent and fraction. -/
def ofFields (negative : Bool) (exponent fraction : Nat) (hexponent : exponent < 2048)
    (hfraction : fraction < 2 ^ (52 : Nat)) : Binary64 :=
  if hspecial : exponent = 2047 then
    if fraction = 0 then .infinite negative else .nan
  else if exponent = 0 then .finite negative fraction (representable_fraction hfraction)
  else .finite negative ((2 ^ (52 : Nat) + fraction) * 2 ^ (exponent - 1))
    (representable_normal hfraction (by omega))

/-- The number with the given 64 bits, taken modulo `2 ^ 64`. -/
def ofBits (bits : Nat) : Binary64 :=
  ofFields (bits / 2 ^ (63 : Nat) % 2 == 1) (bits / 2 ^ (52 : Nat) % 2048) (bits % 2 ^ (52 : Nat))
    (Nat.mod_lt _ (by decide)) (Nat.mod_lt _ (by decide))

/-- The numbers below `2 ^ 53` units and the others, with the leading bit of the
latter at place 52 after the shift. -/
theorem units_cases {units : Nat} (h : Representable units) :
    (units < 2 ^ (53 : Nat) ∧ units.log2 - 52 = 0) ∨
      ∃ m shift, m < 2 ^ (52 : Nat) ∧ 0 < shift ∧ shift < 2046 ∧
        units = (2 ^ (52 : Nat) + m) * 2 ^ shift ∧ units.log2 - 52 = shift := by
  by_cases hsmall : units < 2 ^ (53 : Nat)
  · refine Or.inl ⟨hsmall, ?_⟩
    by_cases hzero : units = 0
    · simp [hzero]
    · have := (Nat.log2_lt hzero).2 hsmall
      omega
  · have hne : units ≠ 0 := by omega
    have hlow : 2 ^ units.log2 ≤ units := Nat.log2_self_le hne
    have hhigh : units < 2 ^ (units.log2 + 1) := (Nat.log2_lt hne).1 (Nat.lt_succ_self _)
    have hlog : 53 ≤ units.log2 := by
      refine Nat.le_of_not_lt fun hlt => hsmall ?_
      exact Nat.lt_of_lt_of_le hhigh (Nat.pow_le_pow_right (by decide) hlt)
    have hlogMax : units.log2 < 2098 := by
      have hlimit := h.2
      unfold unitLimit at hlimit
      exact (Nat.log2_lt hne).2 hlimit
    generalize hs : units.log2 - 52 = shift at *
    have hlogEq : units.log2 = 52 + shift := by omega
    obtain ⟨k, hk⟩ := Nat.dvd_of_mod_eq_zero (show units % 2 ^ shift = 0 from hs ▸ h.1)
    rw [hlogEq, Nat.pow_add] at hlow
    rw [hlogEq, Nat.add_right_comm, Nat.pow_add] at hhigh
    rw [hk, Nat.mul_comm] at hlow hhigh
    have hkLow : 2 ^ (52 : Nat) ≤ k := Nat.le_of_mul_le_mul_left hlow (Nat.pow_pos (by decide))
    have hkHigh : k < 2 ^ (53 : Nat) := Nat.lt_of_mul_lt_mul_right hhigh
    refine Or.inr ⟨k - 2 ^ (52 : Nat), shift, by omega, by omega, by omega, ?_, rfl⟩
    rw [Nat.add_sub_cancel' hkLow, hk, Nat.mul_comm]

/-- The fields of a bit pattern that is put together from them. -/
theorem ofBits_fields (negative : Bool) {exponent fraction : Nat} (he : exponent < 2048)
    (hf : fraction < 2 ^ (52 : Nat)) :
    ofBits ((if negative then 2 ^ (63 : Nat) else 0) + (exponent * 2 ^ (52 : Nat) + fraction)) =
      ofFields negative exponent fraction he hf := by
  have hsign : (((if negative then 2 ^ (63 : Nat) else 0) +
      (exponent * 2 ^ (52 : Nat) + fraction)) / 2 ^ (63 : Nat) % 2 == 1) = negative := by
    cases negative <;> simp only [Bool.false_eq_true, if_false, if_true, beq_eq_false_iff_ne,
      beq_iff_eq] <;> omega
  have hexponent : ((if negative then 2 ^ (63 : Nat) else 0) +
      (exponent * 2 ^ (52 : Nat) + fraction)) / 2 ^ (52 : Nat) % 2048 = exponent := by
    cases negative <;> simp only [Bool.false_eq_true, if_false, if_true] <;> omega
  have hfraction : ((if negative then 2 ^ (63 : Nat) else 0) +
      (exponent * 2 ^ (52 : Nat) + fraction)) % 2 ^ (52 : Nat) = fraction := by
    cases negative <;> simp only [Bool.false_eq_true, if_false, if_true] <;> omega
  simp only [ofBits, hsign, hexponent, hfraction]

/-- A number is read back from its bits. -/
theorem ofBits_toBits (x : Binary64) : ofBits x.toBits = x := by
  cases x with
  | nan => rfl
  | infinite negative => cases negative <;> rfl
  | finite negative units ok =>
    rcases units_cases ok with ⟨hsmall, hshift⟩ | ⟨m, shift, hm, hpos, hmax, hunits, hshift⟩
    · simp only [toBits, hshift, Nat.pow_zero, Nat.div_one]
      by_cases hsub : units < 2 ^ (52 : Nat)
      · rw [ofBits_fields negative (by decide) hsub]
        rfl
      · have hsum : 0 * 2 ^ (52 : Nat) + units =
            1 * 2 ^ (52 : Nat) + (units - 2 ^ (52 : Nat)) := by omega
        rw [hsum, ofBits_fields negative (by decide) (by omega)]
        simp [ofFields]
        omega
    · have hdiv : units / 2 ^ shift = 2 ^ (52 : Nat) + m := by
        rw [hunits, Nat.mul_div_cancel _ (Nat.pow_pos (by decide))]
      have hsum : shift * 2 ^ (52 : Nat) + (2 ^ (52 : Nat) + m) =
          (shift + 1) * 2 ^ (52 : Nat) + m := by omega
      simp only [toBits, hshift, hdiv, hsum]
      rw [ofBits_fields negative (by omega) hm]
      have hne : ¬ shift + 1 = 2047 := by omega
      simp [ofFields, hne, hunits]

end Binary64

end Spreadsheet
