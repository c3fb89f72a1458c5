/-
# Halves are rounded away from zero

A number is rounded to a multiple of a unit: to the nearest one, and if it lies halfway
between two, to the one that is farther from zero. This says which number the rounding is,
without a word on how its digits are found. A decimal is rounded to that number, wherever the
sums of the rounding are exact.

* `RoundsHalfAway.unique` — a number has one rounding.
* `roundsHalfAway_roundHalfUp` — for a magnitude it is the one that takes a half up.
* `Decimal.roundWith_carriesOut` — a carry through nines leaves a one, one place higher.
* `Decimal.roundWith_eq_pure` — which sums have to be exact.
* `Decimal.roundsHalfAway_round` — a decimal is rounded to it, at any place.
-/

import Spreadsheet.Proofs.NormalForm

namespace Spreadsheet

-- A power of a natural number is core's, whatever other instances are in scope.
attribute [local instance (high)] instPowNat

/-- `RoundsHalfAway unit q r`: of the multiples of the unit, `r` is the nearest one to `q`;
of two that are equally near, the one that is farther from zero. -/
structure RoundsHalfAway (unit q r : Rat) : Prop where
  multiple : ∃ n : Int, r = n * unit
  nearest : ∀ n : Int, |r - q| ≤ |n * unit - q|
  away : ∀ n : Int, |n * unit - q| = |r - q| → |n * unit| ≤ |r|

section Roundings

variable {unit q r : Rat}

/-- A number has one rounding. -/
theorem RoundsHalfAway.unique {s : Rat} (hr : RoundsHalfAway unit q r)
    (hs : RoundsHalfAway unit q s) : r = s := by
  obtain ⟨n, rfl⟩ := hr.multiple
  obtain ⟨m, rfl⟩ := hs.multiple
  have hdistance : |n * unit - q| = |m * unit - q| := le_antisymm (hr.nearest m) (hs.nearest n)
  have hsize : |n * unit| = |m * unit| :=
    le_antisymm (hs.away n hdistance) (hr.away m hdistance.symm)
  rcases abs_eq_abs.mp hsize with hsame | hopposite
  · exact hsame
  · -- Opposite numbers are equally far only from zero, and zero is its own rounding.
    rw [hopposite] at hdistance
    rcases abs_eq_abs.mp hdistance with hsame | hcross
    · linarith
    · have hq : q = 0 := by linarith
      have hzero := hs.nearest 0
      simp only [hq, sub_zero, Int.cast_zero, zero_mul, abs_zero, abs_nonpos_iff] at hzero
      rw [hopposite, hzero, neg_zero]

variable (hunit : 0 < unit)
include hunit

/-- Different multiples are a unit apart. -/
theorem unit_le_abs_sub {n m : Int} (hne : n * unit ≠ m * unit) :
    unit ≤ |n * unit - m * unit| := by
  have hint : (1 : Int) ≤ |n - m| := by
    apply Int.one_le_abs
    intro hzero
    exact hne (by rw [Int.sub_eq_zero.mp hzero])
  have hrat : (1 : Rat) ≤ |(n : Rat) - m| := by exact_mod_cast hint
  rw [← sub_mul, abs_mul, abs_of_pos hunit]
  exact le_mul_of_one_le_left (le_of_lt hunit) hrat

/-- A multiple that is at most a half unit away is a nearest one. -/
theorem abs_sub_le_of_near {m : Int} (hnear : |m * unit - q| ≤ unit / 2) (n : Int) :
    |m * unit - q| ≤ |n * unit - q| := by
  by_cases hsame : n * unit = m * unit
  · rw [hsame]
  · have hapart := unit_le_abs_sub hunit hsame
    have htriangle := abs_sub_le (n * unit) q (m * unit)
    rw [abs_sub_comm q] at htriangle
    linarith

/-- A magnitude is rounded to the multiple that is at most a half unit above it, or less
than a half unit below it. -/
theorem roundsHalfAway_of_bounds (hq : 0 ≤ q) {m : Int} (hm : 0 ≤ m * unit)
    (habove : m * unit ≤ q + unit / 2) (hbelow : q < m * unit + unit / 2) :
    RoundsHalfAway unit q (m * unit) := by
  have hnear : |m * unit - q| ≤ unit / 2 := by
    rw [abs_le]
    constructor <;> linarith
  refine ⟨⟨m, rfl⟩, abs_sub_le_of_near hunit hnear, ?_⟩
  intro n hn
  by_cases hsame : n * unit = m * unit
  · rw [hsame]
  · -- The other multiple is the reflection at `q`, so it is not the one above `q`.
    have hreflected : n * unit - q = -(m * unit - q) := by
      rcases abs_eq_abs.mp hn with heq | hneg
      · exact absurd (sub_left_injective heq) hsame
      · exact hneg
    have hle : q ≤ m * unit := by
      by_contra hlt
      have hapart := unit_le_abs_sub hunit hsame
      rw [abs_of_pos (by linarith)] at hapart
      linarith
    rw [abs_of_nonneg hm, abs_le]
    constructor <;> linarith

/-- A magnitude is rounded in units, a half up. -/
theorem roundsHalfAway_roundHalfUp (hq : 0 ≤ q) :
    RoundsHalfAway unit q (roundHalfUp (q / unit) * unit) := by
  obtain ⟨hlow, hhigh⟩ := (roundHalfUp_eq_iff (div_nonneg hq (le_of_lt hunit))).mp rfl
  have hscale : q / unit * unit = q := div_mul_cancel₀ q (ne_of_gt hunit)
  generalize roundHalfUp (q / unit) = n at hlow hhigh ⊢
  have habove : (n : Rat) * unit ≤ (q / unit + 1 / 2) * unit :=
    mul_le_mul_of_nonneg_right hlow (le_of_lt hunit)
  have hbelow : (q / unit + 1 / 2) * unit < (n + 1) * unit := mul_lt_mul_of_pos_right hhigh hunit
  rw [add_mul, hscale] at habove hbelow
  rw [← Int.cast_natCast]
  apply roundsHalfAway_of_bounds hunit hq <;> push_cast
  · positivity
  · linarith
  · linarith

end Roundings

namespace Decimal

/-! ### The carry -/

/-- A carry runs through nines, and leaves zeros. -/
theorem increment_nines (count : Nat) :
    increment (List.replicate count 9) = (true, List.replicate count 0) := by
  induction count with
  | zero => rfl
  | succ count ih => simp [List.replicate_succ, increment, ih]

theorem carried_nines (count : Nat) :
    carried (List.replicate count 9) = 1 :: List.replicate count 0 := by
  rw [carried, increment_nines]

theorem dropFinalZeros_append_zeros (digits : List Nat) (count : Nat) :
    dropFinalZeros (digits ++ List.replicate count 0) = dropFinalZeros digits := by
  simp [dropFinalZeros]

theorem normalise_one_zeros (count : Nat) (scale : Int) :
    normalise (1 :: List.replicate count 0) scale = ⟨[1], scale⟩ := by
  have hdigits : dropFinalZeros (1 :: List.replicate count 0) = [1] :=
    dropFinalZeros_append_zeros [1] count
  rw [normalise, hdigits]
  rfl

theorem increment_fst_iff (digits : List Nat) :
    (increment digits).1 = true ↔ digits = List.replicate digits.length 9 := by
  induction digits with
  | nil => exact ⟨fun _ => rfl, fun _ => rfl⟩
  | cons digit rest ih =>
    rw [increment, List.length_cons, List.replicate_succ, List.cons.injEq, ← ih]
    split
    · rename_i rest' h
      simp [h]
    · rename_i rest' h
      split
      · rename_i hnine
        simp [h, hnine]
      · rename_i hother
        simp [hother]

theorem normalised_one (scale : Int) : Normalised ⟨[1], scale⟩ where
  digit_lt := by simp
  head_ne_zero := by simp
  last_ne_zero := by simp
  scale_of_nil := nofun

/-- A carry runs through all digits that are kept, be it none. -/
def CarriesOut (places : Int) (d : Decimal) : Prop :=
  ∃ (count next : Nat) (rest : List Nat), d.scale + places = count ∧
    d.digits = List.replicate count 9 ++ next :: rest ∧ 5 ≤ next

theorem carriesOut_of_drop {places : Int} {d : Decimal} {keep next : Nat} {rest : List Nat}
    (hscale : d.scale + places = keep) (hdrop : d.digits.drop keep = next :: rest)
    (hnext : 5 ≤ next) (hout : (increment (d.digits.take keep)).1 = true) :
    CarriesOut places d := by
  obtain ⟨hsplit, hkeep⟩ := take_append_of_drop hdrop
  rw [increment_fst_iff, hkeep] at hout
  rw [hout] at hsplit
  exact ⟨keep, next, rest, hscale, hsplit, hnext⟩

section Sums

variable {m : Type → Type} [Monad m] [LawfulMonad m] {add : Int → Int → m Int} {places : Int}
  {d : Decimal}

/-- A carry through all digits that are kept leaves a one, one place higher than the first
digit was. This is also how a digit from five up is rounded when none is kept. -/
theorem roundWith_carriesOut (hkept : add d.scale places = pure (d.scale + places))
    (h : CarriesOut places d) :
    roundWith add places d = add d.scale 1 >>= fun scale => pure ⟨[1], scale⟩ := by
  obtain ⟨count, next, rest, hscale, hdigits, hnext⟩ := h
  have hdrop : d.digits.drop count = next :: rest := by
    rw [hdigits]
    exact List.drop_left' (List.length_replicate ..)
  have htake : d.digits.take count = List.replicate count 9 := by
    rw [hdigits]
    exact List.take_left' (List.length_replicate ..)
  have hscale : d.scale + places = Int.ofNat count := hscale
  rw [roundWith, hkept, pure_bind, hscale]
  simp only [hdrop, htake, increment_nines, carried_nines, normalise_one_zeros,
    if_neg (Nat.not_lt.mpr hnext), if_true]

/-- Rounding is exact when its sums are: that of the scale and the count, and that of the
scale and one when a carry leaves the digits. -/
theorem roundWith_eq_pure {exact : Int} (hkept : add d.scale places = pure (d.scale + exact))
    (hcarry : CarriesOut exact d → add d.scale 1 = pure (d.scale + 1)) :
    roundWith add places d = pure (round exact d) := by
  rw [roundWith, hkept, round, roundWith]
  simp only [pure_bind]
  cases hscale : d.scale + exact with
  | negSucc _ => rfl
  | ofNat keep =>
    cases hdrop : d.digits.drop keep with
    | nil =>
      simp only [hdrop]
      rfl
    | cons next rest =>
      by_cases hnext : next < 5
      · simp only [hdrop, if_pos hnext]
        rfl
      · cases hout : (increment (d.digits.take keep)).1 with
        | false =>
          simp only [hdrop, if_neg hnext, hout, Bool.false_eq_true, if_false, pure_bind]
          rfl
        | true =>
          have hcarries := carriesOut_of_drop hscale hdrop (Nat.le_of_not_lt hnext) hout
          simp only [hdrop, if_neg hnext, hout, if_true, hcarry hcarries, pure_bind]
          rfl

end Sums

theorem round_carriesOut {places : Int} {d : Decimal} (h : CarriesOut places d) :
    round places d = ⟨[1], d.scale + 1⟩ := by
  rw [round, roundWith_carriesOut rfl h]
  rfl

/-! ### Rounding -/

/-- Rounding a decimal rounds the number that it denotes, in units of the place. -/
theorem roundsHalfAway_round (places : Int) {d : Decimal} (h : ∀ digit ∈ d.digits, digit < 10) :
    RoundsHalfAway (10 ^ (-places)) d.toRat (round places d).toRat := by
  have hunits : d.toRat * 10 ^ places = d.toRat / 10 ^ (-places) := by
    rw [zpow_neg, div_inv_eq_mul]
  rw [toRat_round places h, hunits]
  exact roundsHalfAway_roundHalfUp (by positivity) d.toRat_nonneg

-- No digit is kept: 0.5 and 0.4 to ones. The place stands left of the first digit: 9.9 to
-- hundreds.
example : round 0 ⟨[5], 0⟩ = ⟨[1], 1⟩ ∧ round 0 ⟨[4], 0⟩ = zero ∧
    round (-2) ⟨[9, 9], 1⟩ = zero := by
  decide

/-- Zero is the only decimal in normal form without digits. -/
theorem Normalised.eq_zero_iff {d : Decimal} (h : Normalised d) : d = zero ↔ d.isZero = true := by
  constructor
  · rintro rfl
    rfl
  · intro hzero
    have hvalue : d.toRat = zero.toRat := by rw [toRat_of_isZero hzero, toRat_of_isZero rfl]
    exact h.eq_of_toRat_eq normalised_zero hvalue

/-- What is less than a half unit is rounded to zero, and nothing else is, wherever the
unit stands among the digits or before them. -/
theorem round_eq_zero_iff (places : Int) {d : Decimal} (h : Normalised d) :
    round places d = zero ↔ d.toRat < 10 ^ (-places) / 2 := by
  have hpos : (0 : Rat) < 10 ^ places := by positivity
  have hhalf : (10 : Rat) ^ (-places) / 2 = 1 / 2 / 10 ^ places := by
    rw [zpow_neg]
    ring
  rw [(normalised_round places h).eq_zero_iff, isZero_round_iff places h, hhalf, lt_div_iff₀ hpos]

theorem round_eq_zero_of_neg {places : Int} {d : Decimal} (h : d.scale + places < 0) :
    round places d = zero := by
  rw [round, roundWith]
  simp only [pure_bind]
  cases hscale : d.scale + places with
  | negSucc _ => rfl
  | ofNat keep =>
    rw [hscale] at h
    exact absurd h (Int.not_lt.mpr (Int.natCast_nonneg keep))

/-- A decimal of which a digit is kept is not rounded to zero. -/
theorem round_ne_zero {places : Int} {d : Decimal} (h : Normalised d) (hne : d.isZero = false)
    (hkept : 0 < d.scale + places) : round places d ≠ zero := by
  intro hzero
  rw [round_eq_zero_iff places h] at hzero
  have hfirst := h.pow_le_toRat hne
  have hplace : (10 : Rat) ^ (-places) ≤ 10 ^ (d.scale - 1) :=
    zpow_le_zpow_right₀ (by norm_num) (by omega)
  have hpos : (0 : Rat) < 10 ^ (-places) := by positivity
  linarith

end Decimal

end Spreadsheet
