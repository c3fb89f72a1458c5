/-
# Digits and what they denote

A sequence of digits denotes a number, and the number with the length of the
sequence gives the digits back: there is one way to write a number in so many
places.

* `eq_lastPlaces_value` — digits are the last places of the number they denote.
* `eq_ofNat_value` — digits that do not start with a zero are the digits of the
  number they denote.
-/

import Mathlib.Data.List.Basic
import Mathlib.Data.List.Induction
import Spreadsheet.Numeric.Decimal

namespace Spreadsheet

-- A power of a natural number is core's, whatever other instances are in scope.
attribute [local instance (high)] instPowNat

namespace Digits

/-! ### The value of digits put together -/

@[simp] theorem value_nil : value [] = 0 := rfl

theorem value_append (a b : List Nat) : value (a ++ b) = value a * 10 ^ b.length + value b := by
  rw [value, List.foldl_append, Decimal.foldl_value]
  rfl

theorem value_concat (digits : List Nat) (digit : Nat) :
    value (digits ++ [digit]) = value digits * 10 + digit := by
  rw [value_append]
  simp [value]

@[simp] theorem value_zeros (count : Nat) : value (List.replicate count 0) = 0 := by
  induction count with
  | zero => rfl
  | succ count ih =>
    rw [List.replicate_succ, Decimal.value_cons, ih]
    simp

/-- Digits below ten denote a number below the power of ten of their count. -/
theorem value_lt {digits : List Nat} (h : ∀ digit ∈ digits, digit < 10) :
    value digits < 10 ^ digits.length := by
  induction digits with
  | nil => simp
  | cons digit rest ih =>
    rw [List.forall_mem_cons] at h
    have hrest := ih h.2
    rw [Decimal.value_cons, List.length_cons, Nat.pow_succ]
    have hdigit : digit * 10 ^ rest.length ≤ 9 * 10 ^ rest.length :=
      Nat.mul_le_mul_right _ (by omega)
    omega

/-- A first digit other than zero makes the number as large as its count of digits
says. -/
theorem pow_le_value {digits : List Nat} {count : Nat} (hhead : digits.head? ≠ some 0)
    (hlength : digits.length = count + 1) : 10 ^ count ≤ value digits := by
  cases digits with
  | nil => cases hlength
  | cons digit rest =>
    have hdigit : digit ≠ 0 := by
      rintro rfl
      exact hhead rfl
    have hcount : rest.length = count := by simpa using hlength
    have hle : 1 * 10 ^ rest.length ≤ digit * 10 ^ rest.length :=
      Nat.mul_le_mul_right _ (by omega)
    rw [Decimal.value_cons, ← hcount]
    omega

/-! ### The last places of a number -/

/-- The last `count` decimal places of a number. -/
def lastPlaces : (count n : Nat) → List Nat
  | 0, _ => []
  | count + 1, n => lastPlaces count (n / 10) ++ [n % 10]

@[simp] theorem length_lastPlaces (count n : Nat) : (lastPlaces count n).length = count := by
  induction count generalizing n with
  | zero => rfl
  | succ count ih => rw [lastPlaces, List.length_append, ih]; rfl

/-- Digits are the last places of the number they denote. -/
theorem eq_lastPlaces_value {digits : List Nat} (h : ∀ digit ∈ digits, digit < 10) :
    digits = lastPlaces digits.length (value digits) := by
  induction digits using List.reverseRecOn with
  | nil => rfl
  | append_singleton front last ih =>
    have hlast : last < 10 := h last (by simp)
    have hfront := ih fun digit hmem => h digit (by simp [hmem])
    have hdiv : (value front * 10 + last) / 10 = value front := by omega
    have hmod : (value front * 10 + last) % 10 = last := by omega
    rw [List.length_append, List.length_singleton, value_concat, lastPlaces, hdiv, hmod, ← hfront]

/-- The last places of a sum leave out what stands before them. -/
theorem lastPlaces_mul_pow_add (count m n : Nat) :
    lastPlaces count (m * 10 ^ count + n) = lastPlaces count n := by
  induction count generalizing n with
  | zero => rfl
  | succ count ih =>
    have hpow : m * 10 ^ (count + 1) = m * 10 ^ count * 10 := by rw [Nat.pow_succ, Nat.mul_assoc]
    have hdiv : (m * 10 ^ (count + 1) + n) / 10 = m * 10 ^ count + n / 10 := by omega
    have hmod : (m * 10 ^ (count + 1) + n) % 10 = n % 10 := by omega
    rw [lastPlaces, lastPlaces, hdiv, hmod, ih]

/-! ### Digits without leading zeros -/

theorem toNat_digitChar {digit : Nat} (h : digit < 10) :
    (Nat.digitChar digit).toNat - '0'.toNat = digit := by
  revert digit
  decide

theorem ofNat_of_lt {n : Nat} (h : n < 10) : ofNat n = [n] := by
  rw [ofNat, Nat.toDigits_of_lt_base h, List.map_singleton, toNat_digitChar h]

/-- The digits of a number end with its last place. -/
theorem ofNat_concat {n digit : Nat} (hn : n ≠ 0) (hdigit : digit < 10) :
    ofNat (n * 10 + digit) = ofNat n ++ [digit] := by
  have happend := Nat.toDigits_append_toDigits (b := 10) (by decide) (by omega : 0 < n) hdigit
  rw [Nat.toDigits_of_lt_base hdigit, Nat.mul_comm 10 n] at happend
  rw [ofNat, ← happend, List.map_append, List.map_singleton, toNat_digitChar hdigit, ← ofNat]

/-- Digits that do not start with a zero are those of the number they denote. -/
theorem eq_ofNat_value {digits : List Nat} (hdigits : ∀ digit ∈ digits, digit < 10)
    (hhead : digits.head? ≠ some 0) (hne : digits ≠ []) : digits = ofNat (value digits) := by
  induction digits using List.reverseRecOn with
  | nil => exact absurd rfl hne
  | append_singleton front last ih =>
    have hlast : last < 10 := hdigits last (by simp)
    by_cases hfront : front = []
    · subst hfront
      have hvalue : value ([] ++ [last]) = last := by simp [value]
      rw [hvalue, ofNat_of_lt hlast, List.nil_append]
    · have hhead' : front.head? ≠ some 0 := by
        rwa [List.head?_append_of_ne_nil _ hfront] at hhead
      have heq := ih (fun digit hmem => hdigits digit (by simp [hmem])) hhead' hfront
      obtain ⟨count, hcount⟩ : ∃ count, front.length = count + 1 :=
        Nat.exists_eq_succ_of_ne_zero (by simpa using hfront)
      have hpos : value front ≠ 0 := by
        have hle := pow_le_value hhead' hcount
        have hpow : 0 < 10 ^ count := Nat.pow_pos (by decide)
        omega
      rw [value_concat, ofNat_concat hpos hlast, ← heq]

/-- A number of more than one digit is its last place after the number before it. -/
theorem ofNat_induction {motive : Nat → Prop} (single : ∀ n < 10, motive n)
    (concat : ∀ n digit, n ≠ 0 → digit < 10 → motive n → motive (n * 10 + digit)) (n : Nat) :
    motive n := by
  induction n using Nat.strongRecOn with
  | ind n ih =>
    by_cases hlt : n < 10
    · exact single n hlt
    · have hsplit : n = n / 10 * 10 + n % 10 := by omega
      rw [hsplit]
      exact concat _ _ (by omega) (by omega) (ih _ (by omega))

theorem ofNat_ne_nil (n : Nat) : ofNat n ≠ [] := by
  rw [ofNat, Ne, List.map_eq_nil_iff]
  exact Nat.toDigits_ne_nil

/-- The digits of a number other than zero do not start with a zero. -/
theorem head?_ofNat_ne_zero {n : Nat} (h : n ≠ 0) : (ofNat n).head? ≠ some 0 := by
  induction n using ofNat_induction with
  | single n hlt =>
    rw [ofNat_of_lt hlt]
    simpa using h
  | concat n digit hn hdigit ih =>
    rw [ofNat_concat hn hdigit, List.head?_append_of_ne_nil _ (ofNat_ne_nil n)]
    exact ih hn

/-- The digits of a number as characters are its decimal text. -/
theorem text_ofNat (n : Nat) : text (ofNat n) = Nat.toDigits 10 n := by
  induction n using ofNat_induction with
  | single n hlt => rw [ofNat_of_lt hlt, Nat.toDigits_of_lt_base hlt, text, List.map_singleton]
  | concat n digit hn hdigit ih =>
    have happend := Nat.toDigits_append_toDigits (b := 10) (by decide) (by omega : 0 < n) hdigit
    rw [Nat.toDigits_of_lt_base hdigit, Nat.mul_comm 10 n] at happend
    rw [ofNat_concat hn hdigit, ← happend, ← ih, text, List.map_append, List.map_singleton, text]

end Digits

end Spreadsheet
