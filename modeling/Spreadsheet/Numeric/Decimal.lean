/-
# Decimals of a few digits

The number formats work on a decimal of at most fifteen significant digits,
`0.d₁d₂… * 10 ^ scale`. Rounding it to a number of places goes half away from
zero, by a carry through the digits. The sums on the way are those of integers of
32 bits, or exact ones. The formats round with exact sums, which are the same under
every pattern that is not of an enormous length.

* `Normalised` — the form that every operation here keeps: the first and the
  last digit differ from zero, and zero has no digits.
* `value_increment` — the carry adds one.
* `addInt32_of_fits` — a sum that fits into 32 bits is exact.
* `normalised_normalise` — dropping final zeros brings a decimal whose first
  digit is not zero into normal form.
-/

import Spreadsheet.Numeric.Binary64
import Spreadsheet.Numeric.Digits

namespace Spreadsheet

-- A power of a natural number is core's, whatever other instances are in scope.
attribute [local instance (high)] instPowNat

/-! ### Sums of 32 bits -/

/-- The whole number is an integer of 32 bits. -/
def FitsInt32 (n : Int) : Prop :=
  -2147483648 ≤ n ∧ n ≤ 2147483647

instance (n : Int) : Decidable (FitsInt32 n) :=
  inferInstanceAs (Decidable (_ ∧ _))

/-- The sum of two integers of 32 bits. Where sums are checked, one that does not fit
fails; otherwise it wraps around. -/
def addInt32 (checked : Bool) (a b : Int) : Option Int :=
  if FitsInt32 (a + b) then some (a + b)
  else if checked then none
  else some (Int32.ofInt (a + b)).toInt

theorem addInt32_of_fits {a b : Int} (checked : Bool) (h : FitsInt32 (a + b)) :
    addInt32 checked a b = some (a + b) :=
  if_pos h

theorem addInt32_of_not_fits {a b : Int} (h : ¬FitsInt32 (a + b)) : addInt32 true a b = none := by
  rw [addInt32, if_neg h, if_pos rfl]

/-! ### Decimals -/

/-- The number `0.d₁d₂… * 10 ^ scale`. -/
structure Decimal where
  digits : List Nat
  scale : Int
deriving DecidableEq

namespace Decimal

/-- Zero, which has no digits. -/
def zero : Decimal := ⟨[], 0⟩

/-- The number that the decimal denotes. -/
def toRat (d : Decimal) : Rat :=
  (Digits.value d.digits : Rat) * 10 ^ (d.scale - d.digits.length)

/-- Whether the decimal is zero in normal form. -/
def isZero (d : Decimal) : Bool :=
  d.digits.isEmpty

/-- The normal form: digits below ten, neither the first nor the last of them
zero, and the scale of zero is zero. -/
structure Normalised (d : Decimal) : Prop where
  digit_lt : ∀ digit ∈ d.digits, digit < 10
  head_ne_zero : d.digits.head? ≠ some 0
  last_ne_zero : d.digits.getLast? ≠ some 0
  scale_of_nil : d.digits = [] → d.scale = 0

theorem normalised_zero : Normalised zero where
  digit_lt := by simp [zero]
  head_ne_zero := by simp [zero]
  last_ne_zero := by simp [zero]
  scale_of_nil := fun _ => rfl

/-! ### Normal form -/

/-- The digits without the zeros at their end. -/
def dropFinalZeros (digits : List Nat) : List Nat :=
  (digits.reverse.dropWhile (· == 0)).reverse

/-- The decimal with these digits and this scale, without final zeros. -/
def normalise (digits : List Nat) (scale : Int) : Decimal :=
  if (dropFinalZeros digits).isEmpty then zero else ⟨dropFinalZeros digits, scale⟩

theorem dropFinalZeros_isPrefix (digits : List Nat) : dropFinalZeros digits <+: digits := by
  rw [dropFinalZeros, ← List.reverse_suffix, List.reverse_reverse]
  exact List.dropWhile_suffix _

theorem getLast?_dropFinalZeros_ne (digits : List Nat) :
    (dropFinalZeros digits).getLast? ≠ some 0 := by
  rw [dropFinalZeros, List.getLast?_reverse]
  intro h
  have := List.head?_dropWhile_not (· == 0) digits.reverse
  simp [h] at this

theorem normalised_normalise {digits : List Nat} (scale : Int)
    (hdigits : ∀ digit ∈ digits, digit < 10) (hhead : digits.head? ≠ some 0) :
    Normalised (normalise digits scale) := by
  unfold normalise
  split
  · exact normalised_zero
  · rename_i hne
    have hpre := dropFinalZeros_isPrefix digits
    refine ⟨fun digit h => hdigits digit (hpre.subset h), ?_, getLast?_dropFinalZeros_ne digits,
      fun h => absurd h (by simpa using hne)⟩
    obtain ⟨rest, hrest⟩ := hpre
    cases hkept : dropFinalZeros digits with
    | nil => simp
    | cons first others =>
      rw [← hrest, hkept] at hhead
      simpa using hhead

/-! ### Rounding -/

/-- Adds one in the last place of the digits; the flag says that a carry leaves
them at the front, and then all of them are zero. -/
def increment : List Nat → Bool × List Nat
  | [] => (true, [])
  | digit :: rest =>
    match increment rest with
    | (false, rest') => (false, digit :: rest')
    | (true, rest') => if digit = 9 then (true, 0 :: rest') else (false, (digit + 1) :: rest')

/-- The digits after adding one in the last place, one digit longer when a carry
leaves them. -/
def carried (digits : List Nat) : List Nat :=
  match increment digits with
  | (true, digits') => 1 :: digits'
  | (false, digits') => digits'

/-- The decimal with `places` digits after the point, half away from zero; a
negative count rounds to tens, hundreds and so on. The sums are those of `add`: of
the scale and the count, and of the scale and one when a carry leaves the digits. -/
def roundWith {m : Type → Type} [Monad m] (add : Int → Int → m Int) (places : Int) (d : Decimal) :
    m Decimal :=
  add d.scale places >>= fun
    | .negSucc _ => pure zero
    | .ofNat keep =>
      match d.digits.drop keep with
      | [] => pure d
      | next :: _ =>
        let kept := d.digits.take keep
        if next < 5 then pure (normalise kept d.scale)
        else
          (if (increment kept).1 then add d.scale 1 else pure d.scale) >>= fun scale =>
            pure (normalise (carried kept) scale)

/-- Rounding with exact sums. -/
def round (places : Int) (d : Decimal) : Decimal :=
  Id.run (roundWith (fun a b => pure (a + b)) places d)

/-- Rounding with sums of 32 bits; `none` when one of them fails. -/
def roundInt32 (checked : Bool) (places : Int32) (d : Decimal) : Option Decimal :=
  roundWith (addInt32 checked) places.toInt d

theorem length_increment (digits : List Nat) : (increment digits).2.length = digits.length := by
  induction digits with
  | nil => rfl
  | cons digit rest ih =>
    rw [increment]
    split
    · rename_i rest' h; simp [h] at ih ⊢; exact ih
    · rename_i rest' h
      split <;> (simp [h] at ih ⊢; exact ih)

theorem foldl_value (digits : List Nat) (n : Nat) :
    digits.foldl (fun n d => 10 * n + d) n = n * 10 ^ digits.length + Digits.value digits := by
  induction digits generalizing n with
  | nil => simp [Digits.value]
  | cons digit rest ih =>
    rw [Digits.value, List.foldl_cons, List.foldl_cons, ih, ih (10 * 0 + digit),
      List.length_cons, Nat.pow_succ, Nat.add_mul]
    simp only [Nat.mul_zero, Nat.zero_add]
    rw [Nat.add_assoc, Nat.mul_comm 10 n, Nat.mul_assoc, Nat.mul_comm 10]

theorem value_cons (digit : Nat) (rest : List Nat) :
    Digits.value (digit :: rest) = digit * 10 ^ rest.length + Digits.value rest := by
  rw [Digits.value, List.foldl_cons, foldl_value]
  simp

/-- The carry adds one: to the digits kept, or as a new digit in front of zeros. -/
theorem value_increment (digits : List Nat) :
    Digits.value (increment digits).2 + (if (increment digits).1 then 10 ^ digits.length else 0) =
      Digits.value digits + 1 := by
  induction digits with
  | nil => simp [increment, Digits.value]
  | cons digit rest ih =>
    have hlen := length_increment rest
    rw [increment]
    split
    · rename_i rest' h
      simp only [h, Bool.false_eq_true, if_false, Nat.add_zero] at ih hlen ⊢
      rw [value_cons, value_cons, hlen]
      omega
    · rename_i rest' h
      simp only [h, if_true] at ih hlen ⊢
      split
      · rename_i hnine
        rw [value_cons, value_cons, hlen, hnine, List.length_cons, Nat.pow_succ]
        simp only [if_true]
        omega
      · simp only [Bool.false_eq_true, if_false, Nat.add_zero]
        rw [value_cons, value_cons, hlen, Nat.add_mul]
        omega

theorem value_carried (digits : List Nat) :
    Digits.value (carried digits) = Digits.value digits + 1 := by
  have hvalue := value_increment digits
  have hlen := length_increment digits
  rw [carried]
  split
  · rename_i digits' h
    simp only [h, if_true] at hvalue hlen
    rw [value_cons, hlen]
    omega
  · rename_i digits' h
    simpa [h] using hvalue

/-- A carry that leaves the digits adds one to their number. -/
theorem length_carried (digits : List Nat) :
    (carried digits).length = digits.length + if (increment digits).1 then 1 else 0 := by
  have hlen := length_increment digits
  rw [carried]
  split
  · rename_i digits' h
    rw [h] at hlen ⊢
    rw [List.length_cons, hlen, if_pos rfl]
  · rename_i digits' h
    rw [h] at hlen ⊢
    rw [hlen, if_neg Bool.false_ne_true, Nat.add_zero]

/-! ### Digits by place -/

/-- The digit at a place counted from the first digit; zero outside the digits. -/
def digitAt (d : Decimal) : Int → Nat
  | .ofNat i => d.digits[i]?.getD 0
  | .negSucc _ => 0

/-- The digits before the point, none for a number below one. -/
def integerDigits (d : Decimal) : List Nat :=
  (List.range d.scale.toNat).map (fun i : Nat => d.digitAt i)

/-- The first `count` digits after the point. -/
def fractionDigits (d : Decimal) (count : Nat) : List Nat :=
  (List.range count).map (fun i : Nat => d.digitAt (d.scale + i))

/-- The number of digits after the point that are not final zeros. -/
def fractionLength (d : Decimal) : Nat :=
  (d.digits.length - d.scale).toNat

/-- The decimal times a power of ten; zero stays as it is. -/
def shift (places : Int) (d : Decimal) : Decimal :=
  if d.isZero then d else { d with scale := d.scale + places }

/-! ### The decimal of a binary number -/

/-- The place of the first digit: the whole number `k` with
`10 ^ (k - 1) ≤ q < 10 ^ k`, for a rational number from `10 ^ -324` up, as every
positive floating point number is. -/
def scaleOf (q : Rat) : Int :=
  digitCount (q * 10 ^ (324 : Int)).floor.toNat - 324

/-- The decimal of `count` significant digits nearest to a positive rational
number, a half going to the even last digit. -/
def significant (count : Nat) (q : Rat) : Decimal :=
  let scaled := q * 10 ^ ((count : Int) - scaleOf q)
  let digits := Digits.ofNat (nearestEven scaled.num.toNat scaled.den)
  normalise digits (scaleOf q + digits.length - count)

/-- The significant digits that the number formats show. -/
def shownDigits : Nat := 15

/-- The magnitude of a floating point number in the digits that are shown; zero
for a number that is not finite. -/
def ofBinary64 (x : Binary64) : Decimal :=
  if x.signedUnits = 0 then zero else significant shownDigits x.abs.toRat

end Decimal

end Spreadsheet
