/-
# Decimal digits

A whole number and its decimal digits, the most significant one first.

* `value_ofNat` — the digits of a number denote it.
* `digit_lt_of_mem_ofNat` — digits are below ten.
* `pow_le_of_digitCount`, `lt_pow_digitCount` — a number of `k` digits lies from
  `10 ^ (k - 1)` up to, and not including, `10 ^ k`.
-/

import Spreadsheet.Text.Basic

namespace Spreadsheet

-- A power of a natural number is core's, whatever other instances are in scope.
attribute [local instance (high)] instPowNat

namespace Digits

/-- The number that a sequence of digits denotes. -/
def value (digits : List Nat) : Nat :=
  digits.foldl (fun n d => 10 * n + d) 0

/-- The digits of a number; one zero for zero. -/
def ofNat (n : Nat) : List Nat :=
  (Nat.toDigits 10 n).map (fun c => c.toNat - '0'.toNat)

/-- The digits as characters. -/
def text (digits : List Nat) : Text :=
  digits.map Nat.digitChar

theorem value_ofNat (n : Nat) : value (ofNat n) = n := by
  have h := Nat.ofDigitChars_ten_toDigits (n := n)
  rw [Nat.ofDigitChars] at h
  rw [value, ofNat, List.foldl_map]
  exact h

theorem digit_lt_of_mem_ofNat {n d : Nat} (h : d ∈ ofNat n) : d < 10 := by
  obtain ⟨c, hc, rfl⟩ := List.mem_map.1 h
  have hdigit : c.isDigit = true := Nat.isDigit_of_mem_toDigits (by decide) (by decide) hc
  simp only [Char.isDigit, Bool.and_eq_true, decide_eq_true_eq] at hdigit
  have hle : c.toNat ≤ '9'.toNat := hdigit.2
  have h9 : '9'.toNat = 57 := rfl
  have h0 : '0'.toNat = 48 := rfl
  omega

end Digits

/-- The number of decimal digits of a number; zero has none. -/
def digitCount (n : Nat) : Nat :=
  if n = 0 then 0 else digitCount (n / 10) + 1

@[simp] theorem digitCount_zero : digitCount 0 = 0 := by
  rw [digitCount, if_pos rfl]

theorem lt_pow_digitCount (n : Nat) : n < 10 ^ digitCount n := by
  fun_induction digitCount n with
  | case1 => simp
  | case2 n hn ih => rw [Nat.pow_succ]; omega

theorem pow_le_of_digitCount {n k : Nat} (h : digitCount n = k + 1) : 10 ^ k ≤ n := by
  induction k generalizing n with
  | zero =>
    have : n ≠ 0 := by rintro rfl; simp at h
    simp; omega
  | succ k ih =>
    rw [digitCount] at h
    split at h
    · simp at h
    · have := ih (n := n / 10) (by omega)
      rw [Nat.pow_succ]; omega

end Spreadsheet
