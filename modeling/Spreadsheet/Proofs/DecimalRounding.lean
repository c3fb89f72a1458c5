/-
# Decimals are rounded exactly

A decimal in normal form, rounded to a number of places, is the nearest multiple of
that place, a half going up, and in normal form again.

* `normalised_round`, `toRat_round` — rounding keeps the normal form and rounds the
  number that is denoted.
* `isZero_round_iff` — zero is what is less than half of the last place.
* `digits_round` — the digits before and after the point are the places of the
  rounded number.
-/

import Mathlib.Algebra.Order.Field.Power
import Spreadsheet.Proofs.DigitValue
import Spreadsheet.Proofs.Quotient

namespace Spreadsheet

-- A power of a natural number is core's, whatever other instances are in scope.
attribute [local instance (high)] instPowNat

namespace Decimal

/-! ### Normal form -/

theorem exists_append_zeros (digits : List Nat) :
    ∃ count, digits = dropFinalZeros digits ++ List.replicate count 0 := by
  have hsplit := List.takeWhile_append_dropWhile (p := (· == 0)) (l := digits.reverse)
  have hzeros : digits.reverse.takeWhile (· == 0) =
      List.replicate (digits.reverse.takeWhile (· == 0)).length 0 := by
    refine List.eq_replicate_iff.mpr ⟨rfl, fun digit hdigit => ?_⟩
    have hall := List.all_takeWhile (p := (· == 0)) (l := digits.reverse)
    exact eq_of_beq (List.all_eq_true.mp hall digit hdigit)
  refine ⟨(digits.reverse.takeWhile (· == 0)).length, ?_⟩
  rw [← List.reverse_inj, List.reverse_append, List.reverse_replicate, ← hzeros, dropFinalZeros,
    List.reverse_reverse, hsplit]

/-- Final zeros do not count. -/
theorem toRat_normalise (digits : List Nat) (scale : Int) :
    (normalise digits scale).toRat = Digits.value digits * 10 ^ (scale - digits.length) := by
  obtain ⟨count, hcount⟩ := exists_append_zeros digits
  have hvalue : Digits.value digits = Digits.value (dropFinalZeros digits) * 10 ^ count := by
    conv => lhs; rw [hcount]
    rw [Digits.value_append, Digits.value_zeros, List.length_replicate, Nat.add_zero]
  have hlength : digits.length = (dropFinalZeros digits).length + count := by
    conv => lhs; rw [hcount]
    rw [List.length_append, List.length_replicate]
  unfold normalise
  split
  · rename_i hempty
    rw [hvalue, List.isEmpty_iff.mp hempty]
    simp [zero, toRat]
  · have hpow : (10 : Rat) ^ (scale - (dropFinalZeros digits).length : Int) =
        10 ^ count * 10 ^ (scale - digits.length : Int) := by
      rw [← zpow_natCast, ← zpow_add₀ (by norm_num), hlength]
      congr 1
      push_cast
      ring
    rw [toRat, hpow, hvalue]
    push_cast
    ring

theorem toRat_nonneg (d : Decimal) : 0 ≤ d.toRat := by
  unfold toRat
  positivity

/-- A decimal lies below the power of ten of its scale. -/
theorem toRat_lt {d : Decimal} (h : ∀ digit ∈ d.digits, digit < 10) : d.toRat < 10 ^ d.scale := by
  have hvalue : (Digits.value d.digits : Rat) < 10 ^ (d.digits.length : Int) := by
    rw [zpow_natCast]
    exact_mod_cast Digits.value_lt h
  have hpos : (0 : Rat) < 10 ^ (d.scale - d.digits.length) := by positivity
  calc d.toRat < 10 ^ (d.digits.length : Int) * 10 ^ (d.scale - d.digits.length) :=
        mul_lt_mul_of_pos_right hvalue hpos
    _ = 10 ^ d.scale := by
        rw [← zpow_add₀ (by norm_num)]
        congr 1
        ring

/-! ### Rounding -/

/-- Digits that are cut before one of them. -/
theorem take_append_of_drop {digits rest : List Nat} {keep next : Nat}
    (h : digits.drop keep = next :: rest) :
    digits = digits.take keep ++ next :: rest ∧ (digits.take keep).length = keep := by
  constructor
  · rw [← h, List.take_append_drop]
  · have hlength := congrArg List.length h
    rw [List.length_drop, List.length_cons] at hlength
    rw [List.length_take]
    omega

/-- The ways in which a decimal is rounded: to zero, not at all, down, or up. -/
theorem round_cases {motive : Decimal → Prop} (places : Int) (d : Decimal)
    (none : d.scale + places < 0 → motive zero)
    (all : ∀ keep : Nat, d.scale + places = keep → d.digits.length ≤ keep → motive d)
    (down : ∀ kept next rest, d.scale + places = (kept.length : Int) →
      d.digits = kept ++ next :: rest → next < 5 → motive (normalise kept d.scale))
    (up : ∀ kept next rest, d.scale + places = (kept.length : Int) →
      d.digits = kept ++ next :: rest → 5 ≤ next →
      motive (normalise (carried kept) (d.scale + (carried kept).length - kept.length))) :
    motive (round places d) := by
  simp only [round, roundWith, pure_bind]
  split
  · rename_i h
    exact none (by rw [h]; exact Int.negSucc_lt_zero _)
  · rename_i keep h
    split
    · rename_i hdrop
      exact all keep h (List.drop_eq_nil_iff.mp hdrop)
    · rename_i next rest hdrop
      obtain ⟨hsplit, hkeep⟩ := take_append_of_drop hdrop
      have hscale : d.scale + places = ((d.digits.take keep).length : Int) := by
        rw [h, hkeep]
        rfl
      split
      · rename_i hnext
        exact down _ next rest hscale hsplit hnext
      · rename_i hnext
        have hplace : (if (increment (d.digits.take keep)).1 then d.scale + 1 else d.scale) =
            d.scale + (carried (d.digits.take keep)).length - (d.digits.take keep).length := by
          rw [length_carried]
          split <;> omega
        rw [← apply_ite pure, pure_bind, hplace]
        exact up _ next rest hscale hsplit (by omega)

/-- The digits that are cut off are a part of the last place that is kept. -/
theorem toRat_mul_pow_of_split {d : Decimal} {places : Int} {kept : List Nat} {next : Nat}
    {rest : List Nat} (hscale : d.scale + places = (kept.length : Int))
    (hdigits : d.digits = kept ++ next :: rest) :
    d.toRat * 10 ^ places = Digits.value kept +
      (next * 10 ^ rest.length + Digits.value rest) / 10 ^ (rest.length + 1) := by
  have hpow : (10 : Rat) ^ (d.scale - d.digits.length) * 10 ^ places =
      (10 ^ (rest.length + 1))⁻¹ := by
    rw [← zpow_add₀ (by norm_num), ← zpow_natCast, ← zpow_neg, hdigits]
    congr 1
    rw [List.length_append, List.length_cons]
    push_cast
    omega
  rw [toRat, mul_assoc, hpow, hdigits, Digits.value_append, Decimal.value_cons, List.length_cons]
  push_cast
  field_simp

/-- Of the digits that are cut off the first one decides: they are between that many
tenths and one more of the last place that is kept. -/
theorem tenths_of_cut (next : Nat) {rest : List Nat} (h : ∀ digit ∈ rest, digit < 10) :
    (next : Rat) / 10 ≤ (next * 10 ^ rest.length + Digits.value rest) / 10 ^ (rest.length + 1) ∧
      (next * 10 ^ rest.length + Digits.value rest) / 10 ^ (rest.length + 1) <
        ((next : Rat) + 1) / 10 := by
  have hvalue : (Digits.value rest : Rat) < 10 ^ rest.length := by
    exact_mod_cast Digits.value_lt h
  have hnonneg : (0 : Rat) ≤ Digits.value rest := Nat.cast_nonneg _
  have hpow : (0 : Rat) < 10 ^ rest.length := by positivity
  rw [pow_succ]
  constructor
  · rw [div_le_div_iff₀ (by norm_num) (by positivity)]
    nlinarith
  · rw [div_lt_div_iff₀ (by positivity) (by norm_num)]
    nlinarith

/-- What is rounded is not negative. -/
theorem toRat_mul_pow_nonneg (d : Decimal) (places : Int) : 0 ≤ d.toRat * 10 ^ places :=
  mul_nonneg d.toRat_nonneg (by positivity)

/-- The first digit that is cut off decides how the digits before it are rounded. -/
theorem roundHalfUp_of_split {d : Decimal} {places : Int} {kept : List Nat} {next : Nat}
    {rest : List Nat} (h : ∀ digit ∈ d.digits, digit < 10)
    (hscale : d.scale + places = (kept.length : Int)) (hdigits : d.digits = kept ++ next :: rest) :
    roundHalfUp (d.toRat * 10 ^ places) = Digits.value kept + if next < 5 then 0 else 1 := by
  have hrest : ∀ digit ∈ rest, digit < 10 := by
    intro digit hmem
    exact h digit (by simp [hdigits, hmem])
  obtain ⟨hlow, hhigh⟩ := tenths_of_cut next hrest
  rw [roundHalfUp_eq_iff (d.toRat_mul_pow_nonneg places), toRat_mul_pow_of_split hscale hdigits]
  split
  · rename_i hnext
    have hfour : (next : Rat) ≤ 4 := by exact_mod_cast Nat.le_of_lt_succ hnext
    have hpos : (0 : Rat) ≤ next := Nat.cast_nonneg next
    push_cast
    constructor <;> linarith
  · rename_i hnext
    have hfive : (5 : Rat) ≤ next := by exact_mod_cast Nat.le_of_not_lt hnext
    have hnine : (next : Rat) ≤ 9 := by
      exact_mod_cast Nat.le_of_lt_succ (h next (by simp [hdigits]))
    push_cast
    constructor <;> linarith

/-- A decimal that lies below a tenth of the last place is rounded to zero. -/
theorem roundHalfUp_of_scale_neg {d : Decimal} {places : Int}
    (h : ∀ digit ∈ d.digits, digit < 10) (hscale : d.scale + places < 0) :
    roundHalfUp (d.toRat * 10 ^ places) = 0 := by
  have hlt : d.toRat * 10 ^ places < 10 ^ (-1 : Int) := by
    calc d.toRat * 10 ^ places < 10 ^ d.scale * 10 ^ places :=
          mul_lt_mul_of_pos_right (toRat_lt h) (by positivity)
      _ = 10 ^ (d.scale + places) := (zpow_add₀ (by norm_num) _ _).symm
      _ ≤ 10 ^ (-1 : Int) := zpow_le_zpow_right₀ (by norm_num) (by omega)
  have hnonneg := d.toRat_mul_pow_nonneg places
  rw [roundHalfUp_eq_iff hnonneg]
  norm_num at hlt ⊢
  constructor <;> linarith

/-- A decimal without digits after the last place is rounded to itself. -/
theorem roundHalfUp_of_length_le {d : Decimal} {places : Int} {keep : Nat}
    (hscale : d.scale + places = keep) (hlength : d.digits.length ≤ keep) :
    (roundHalfUp (d.toRat * 10 ^ places) : Rat) = d.toRat * 10 ^ places := by
  have hwhole : d.toRat * 10 ^ places =
      (Digits.value d.digits * 10 ^ (keep - d.digits.length) : Nat) := by
    rw [toRat, mul_assoc, ← zpow_add₀ (by norm_num)]
    push_cast
    rw [← zpow_natCast]
    congr 2
    omega
  rw [hwhole, roundHalfUp_natCast]

/-- Rounding a decimal rounds the number that it denotes. -/
theorem toRat_round (places : Int) {d : Decimal} (h : ∀ digit ∈ d.digits, digit < 10) :
    (round places d).toRat = roundHalfUp (d.toRat * 10 ^ places) * 10 ^ (-places) := by
  refine round_cases (motive := fun rounded =>
    rounded.toRat = roundHalfUp (d.toRat * 10 ^ places) * 10 ^ (-places)) places d ?_ ?_ ?_ ?_
  · intro hscale
    rw [roundHalfUp_of_scale_neg h hscale]
    simp [zero, toRat]
  · intro keep hscale hlength
    rw [roundHalfUp_of_length_le hscale hlength, mul_assoc, ← zpow_add₀ (by norm_num)]
    simp
  · intro kept next rest hscale hdigits hnext
    rw [toRat_normalise, roundHalfUp_of_split h hscale hdigits, if_pos hnext]
    congr 2
    omega
  · intro kept next rest hscale hdigits hnext
    rw [toRat_normalise, roundHalfUp_of_split h hscale hdigits, if_neg (by omega), value_carried]
    congr 2
    omega

/-! ### The normal form of what is rounded -/

theorem digit_lt_increment {digits : List Nat} (h : ∀ digit ∈ digits, digit < 10) :
    ∀ digit ∈ (increment digits).2, digit < 10 := by
  induction digits with
  | nil => simp [increment]
  | cons first rest ih =>
    rw [List.forall_mem_cons] at h
    have hrest := ih h.2
    rw [increment]
    split
    · rename_i rest' heq
      rw [heq] at hrest
      exact List.forall_mem_cons.mpr ⟨h.1, hrest⟩
    · rename_i rest' heq
      rw [heq] at hrest
      split
      · exact List.forall_mem_cons.mpr ⟨by decide, hrest⟩
      · have hfirst := h.1
        exact List.forall_mem_cons.mpr ⟨by omega, hrest⟩

/-- A carry that stays inside the digits leaves the first one other than zero. -/
theorem head?_increment_ne_zero {digits : List Nat} (hhead : digits.head? ≠ some 0)
    (hcarry : (increment digits).1 = false) : (increment digits).2.head? ≠ some 0 := by
  cases digits with
  | nil => cases hcarry
  | cons first rest =>
    rw [increment] at hcarry ⊢
    split at hcarry
    · exact hhead
    · split at hcarry
      · cases hcarry
      · rename_i hne
        rw [if_neg hne]
        simp

theorem digit_lt_carried {digits : List Nat} (h : ∀ digit ∈ digits, digit < 10) :
    ∀ digit ∈ carried digits, digit < 10 := by
  have hincrement := digit_lt_increment h
  rw [carried]
  split
  · rename_i digits' heq
    rw [heq] at hincrement
    exact List.forall_mem_cons.mpr ⟨by decide, hincrement⟩
  · rename_i digits' heq
    rw [heq] at hincrement
    exact hincrement

theorem head?_carried_ne_zero {digits : List Nat} (hhead : digits.head? ≠ some 0) :
    (carried digits).head? ≠ some 0 := by
  have hincrement := head?_increment_ne_zero hhead
  rw [carried]
  split
  · simp
  · rename_i digits' heq
    rw [heq] at hincrement
    exact hincrement rfl

/-- Rounding keeps the normal form, also when the carry adds a digit. -/
theorem normalised_round (places : Int) {d : Decimal} (h : Normalised d) :
    Normalised (round places d) := by
  have hkept : ∀ {kept : List Nat} {next : Nat} {rest : List Nat},
      d.digits = kept ++ next :: rest →
        (∀ digit ∈ kept, digit < 10) ∧ kept.head? ≠ some 0 := by
    intro kept next rest hdigits
    refine ⟨fun digit hmem => h.digit_lt digit (by simp [hdigits, hmem]), ?_⟩
    have hhead := h.head_ne_zero
    cases kept with
    | nil => simp
    | cons first kept =>
      rw [hdigits] at hhead
      exact hhead
  refine round_cases (motive := Normalised) places d ?_ ?_ ?_ ?_
  · exact fun _ => normalised_zero
  · exact fun _ _ _ => h
  · intro kept next rest _ hdigits _
    obtain ⟨hlt, hhead⟩ := hkept hdigits
    exact normalised_normalise _ hlt hhead
  · intro kept next rest _ hdigits _
    obtain ⟨hlt, hhead⟩ := hkept hdigits
    exact normalised_normalise _ (digit_lt_carried hlt) (head?_carried_ne_zero hhead)

theorem length_digits_normalise_le (digits : List Nat) (scale : Int) :
    (normalise digits scale).isZero = true ∨
      (normalise digits scale).scale = scale ∧
        (normalise digits scale).digits.length ≤ digits.length := by
  unfold normalise
  split
  · exact Or.inl rfl
  · exact Or.inr ⟨rfl, (dropFinalZeros_isPrefix digits).length_le⟩

/-- No digit is left after the place that is rounded to. -/
theorem length_digits_round_le (places : Int) (d : Decimal) :
    (round places d).isZero = true ∨
      ((round places d).digits.length : Int) ≤ (round places d).scale + places := by
  refine round_cases (motive := fun rounded => rounded.isZero = true ∨
    (rounded.digits.length : Int) ≤ rounded.scale + places) places d ?_ ?_ ?_ ?_
  · exact fun _ => Or.inl rfl
  · intro keep hscale hlength
    right
    omega
  · intro kept next rest hscale _ _
    rcases length_digits_normalise_le kept d.scale with hzero | ⟨hsame, hlength⟩
    · exact Or.inl hzero
    · right
      omega
  · intro kept next rest hscale _ _
    rcases length_digits_normalise_le (carried kept)
      (d.scale + (carried kept).length - kept.length) with hzero | ⟨hsame, hlength⟩
    · exact Or.inl hzero
    · right
      omega

theorem isZero_iff {d : Decimal} : d.isZero = true ↔ d.digits = [] :=
  List.isEmpty_iff

theorem toRat_of_isZero {d : Decimal} (h : d.isZero = true) : d.toRat = 0 := by
  rw [toRat, isZero_iff.mp h]
  simp

/-- In normal form only zero denotes zero. -/
theorem toRat_eq_zero_iff {d : Decimal} (h : Normalised d) : d.toRat = 0 ↔ d.isZero = true := by
  refine ⟨fun hvalue => ?_, toRat_of_isZero⟩
  rw [isZero_iff]
  by_contra hne
  obtain ⟨places, hplaces⟩ : ∃ places, d.digits.length = places + 1 :=
    Nat.exists_eq_succ_of_ne_zero (by simpa using hne)
  have hle := Digits.pow_le_value h.head_ne_zero hplaces
  have hpos : 0 < Digits.value d.digits := Nat.lt_of_lt_of_le (Nat.pow_pos (by decide)) hle
  have htoRat : 0 < d.toRat := mul_pos (by exact_mod_cast hpos) (by positivity)
  exact ne_of_gt htoRat hvalue

/-- A decimal is rounded to zero when it is less than half of the last place. -/
theorem isZero_round_iff (places : Int) {d : Decimal} (h : Normalised d) :
    (round places d).isZero = true ↔ d.toRat * 10 ^ places < 1 / 2 := by
  have hplace : (10 : Rat) ^ (-places) ≠ 0 := by positivity
  rw [← toRat_eq_zero_iff (normalised_round places h), toRat_round places h.digit_lt,
    mul_eq_zero_iff_right hplace, Nat.cast_eq_zero,
    roundHalfUp_eq_zero_iff (d.toRat_mul_pow_nonneg places)]

/-- A decimal in normal form that is rounded to places after the point has no digit behind
them, zero included. -/
theorem length_digits_round_natCast_le (count : Nat) {d : Decimal} (h : Normalised d) :
    ((round count d).digits.length : Int) ≤ (round count d).scale + count := by
  rcases length_digits_round_le count d with hzero | hlength
  · rw [isZero_iff] at hzero
    rw [(normalised_round count h).scale_of_nil hzero, hzero, List.length_nil]
    omega
  · exact hlength

/-! ### Shifting -/

/-- Shifting a decimal multiplies the number that it denotes. -/
theorem toRat_shift (places : Int) (d : Decimal) :
    (d.shift places).toRat = d.toRat * 10 ^ places := by
  unfold shift
  split
  · rename_i hzero
    rw [toRat_of_isZero hzero, zero_mul]
  · rw [toRat, toRat, mul_assoc, ← zpow_add₀ (by norm_num)]
    congr 2
    ring

theorem shift_zero (d : Decimal) : d.shift 0 = d := by
  unfold shift
  split
  · rfl
  · rw [Int.add_zero]

theorem normalised_shift (places : Int) {d : Decimal} (h : Normalised d) :
    Normalised (d.shift places) := by
  unfold shift
  split
  · exact h
  · rename_i hzero
    exact ⟨h.digit_lt, h.head_ne_zero, h.last_ne_zero,
      fun hnil => absurd (isZero_iff.mpr hnil) hzero⟩

/-! ### The digits of a rounded decimal -/

theorem digitAt_natCast (d : Decimal) (i : Nat) : d.digitAt i = d.digits[i]?.getD 0 := rfl

theorem digitAt_of_neg (d : Decimal) {i : Int} (h : i < 0) : d.digitAt i = 0 := by
  cases i with
  | ofNat i => exact absurd h (by simp)
  | negSucc i => rfl

theorem digitAt_lt {d : Decimal} (h : ∀ digit ∈ d.digits, digit < 10) (i : Int) :
    d.digitAt i < 10 := by
  cases i with
  | ofNat i =>
    change d.digits[i]?.getD 0 < 10
    cases hget : d.digits[i]? with
    | none => decide
    | some digit => exact h digit (List.mem_of_getElem? hget)
  | negSucc i => exact Nat.succ_pos 9

/-- The places of a decimal from its first digit on: its digits, and then zeros. -/
theorem map_digitAt_range (d : Decimal) (count : Nat) (h : d.digits.length ≤ count) :
    (List.range count).map (fun i : Nat => d.digitAt i) =
      d.digits ++ List.replicate (count - d.digits.length) 0 := by
  apply List.ext_getElem
  · simp
    omega
  · intro i hi _
    rw [List.getElem_map, List.getElem_range, digitAt_natCast, List.getElem_append]
    split
    · rename_i hlt
      rw [List.getElem?_eq_getElem hlt]
      rfl
    · rename_i hle
      rw [List.getElem?_eq_none (by omega), List.getElem_replicate]
      rfl

/-- The places before and after the point are the digits, with zeros around them. -/
theorem integerDigits_append_fractionDigits {d : Decimal} {count : Nat}
    (hlength : (d.digits.length : Int) ≤ d.scale + count) :
    ∃ zeros tail : Nat, d.integerDigits ++ d.fractionDigits count =
        List.replicate zeros 0 ++ (d.digits ++ List.replicate tail 0) ∧
      (tail : Int) = d.scale + count - d.digits.length := by
  rcases Int.le_total 0 d.scale with hscale | hscale
  · obtain ⟨whole, hwhole⟩ := Int.eq_ofNat_of_zero_le hscale
    refine ⟨0, whole + count - d.digits.length, ?_, by omega⟩
    have hall := map_digitAt_range d (whole + count) (by omega)
    rw [List.range_add, List.map_append, List.map_map] at hall
    rw [integerDigits, fractionDigits, hwhole, List.replicate_zero, List.nil_append, ← hall]
    rfl
  · -- The places between the point and the first digit are zeros.
    obtain ⟨gap, hgap⟩ := Int.eq_ofNat_of_zero_le (show 0 ≤ -d.scale by omega)
    refine ⟨gap, count - gap - d.digits.length, ?_, by omega⟩
    have hrest := map_digitAt_range d (count - gap) (by omega)
    have hcount : count = gap + (count - gap) := by omega
    have hwhole : d.scale.toNat = 0 := by omega
    rw [integerDigits, hwhole, List.range_zero, List.map_nil, List.nil_append, fractionDigits,
      hcount, List.range_add, List.map_append, List.map_map, Nat.add_sub_cancel_left, ← hrest]
    congr 1
    · refine List.eq_replicate_iff.mpr ⟨by simp, fun digit hdigit => ?_⟩
      obtain ⟨i, hi, rfl⟩ := List.mem_map.mp hdigit
      rw [List.mem_range] at hi
      exact digitAt_of_neg d (by omega)
    · refine List.map_congr_left fun i _ => ?_
      have : d.scale + ((gap + i : Nat) : Int) = i := by
        push_cast
        omega
      exact congrArg d.digitAt this

/-- The number before and after the point, counted in units of the last place, is
written by the digits before and after the point. -/
theorem value_integerDigits_append {d : Decimal} {count : Nat}
    (hlength : (d.digits.length : Int) ≤ d.scale + count) :
    (Digits.value (d.integerDigits ++ d.fractionDigits count) : Rat) =
      d.toRat * 10 ^ (count : Int) := by
  obtain ⟨zeros, tail, hplaces, htail⟩ := integerDigits_append_fractionDigits hlength
  have hpow : (10 : Rat) ^ tail = 10 ^ (d.scale - d.digits.length + count) := by
    rw [← zpow_natCast, htail]
    congr 1
    ring
  rw [hplaces, Digits.value_append, Digits.value_append, Digits.value_zeros, Digits.value_zeros,
    List.length_replicate, toRat, mul_assoc, ← zpow_add₀ (by norm_num), ← hpow]
  push_cast
  ring

theorem digit_lt_integerDigits {d : Decimal} (h : ∀ digit ∈ d.digits, digit < 10) :
    ∀ digit ∈ d.integerDigits, digit < 10 := by
  intro digit hmem
  obtain ⟨i, _, rfl⟩ := List.mem_map.mp hmem
  exact digitAt_lt h _

theorem digit_lt_fractionDigits {d : Decimal} (h : ∀ digit ∈ d.digits, digit < 10) (count : Nat) :
    ∀ digit ∈ d.fractionDigits count, digit < 10 := by
  intro digit hmem
  obtain ⟨i, _, rfl⟩ := List.mem_map.mp hmem
  exact digitAt_lt h _

@[simp] theorem length_fractionDigits (d : Decimal) (count : Nat) :
    (d.fractionDigits count).length = count := by
  simp [fractionDigits]

/-- The digits before the point do not start with a zero. -/
theorem head?_integerDigits_ne_zero {d : Decimal} (h : Normalised d) :
    d.integerDigits.head? ≠ some 0 := by
  unfold integerDigits
  cases hscale : d.scale.toNat with
  | zero => simp
  | succ count =>
    cases hdigits : d.digits with
    | nil =>
      rw [h.scale_of_nil hdigits] at hscale
      cases hscale
    | cons first rest =>
      have hfirst := h.head_ne_zero
      rw [hdigits] at hfirst
      rw [List.range_succ_eq_map, List.map_cons, List.head?_cons, digitAt_natCast, hdigits]
      exact hfirst

/-- The digits before the point are those of the number they denote, none for zero. -/
theorem integerDigits_eq {d : Decimal} (h : Normalised d) :
    d.integerDigits = if Digits.value d.integerDigits = 0 then []
      else Digits.ofNat (Digits.value d.integerDigits) := by
  have hhead := head?_integerDigits_ne_zero h
  by_cases hnil : d.integerDigits = []
  · rw [hnil]
    rfl
  · have hpositive : Digits.value d.integerDigits ≠ 0 := by
      obtain ⟨places, hplaces⟩ : ∃ places, d.integerDigits.length = places + 1 :=
        Nat.exists_eq_succ_of_ne_zero (by simpa using hnil)
      have hle := Digits.pow_le_value hhead hplaces
      have hpow : 0 < 10 ^ places := Nat.pow_pos (by decide)
      omega
    rw [if_neg hpositive]
    exact Digits.eq_ofNat_value (digit_lt_integerDigits h.digit_lt) hhead hnil

/-- The digits before the point are those of the whole part, none for a number below
one; the digits after it are the last places. -/
theorem digits_of_toRat {d : Decimal} (h : Normalised d) {count units : Nat}
    (hlength : (d.digits.length : Int) ≤ d.scale + count)
    (hunits : d.toRat * 10 ^ (count : Int) = units) :
    d.integerDigits = (if units / 10 ^ count = 0 then [] else Digits.ofNat (units / 10 ^ count)) ∧
      d.fractionDigits count = Digits.lastPlaces count units := by
  have hvalue : Digits.value d.integerDigits * 10 ^ count +
      Digits.value (d.fractionDigits count) = units := by
    have hall := value_integerDigits_append hlength
    rw [hunits, Digits.value_append, length_fractionDigits] at hall
    exact_mod_cast hall
  have hfraction := digit_lt_fractionDigits h.digit_lt count
  have hlt := Digits.value_lt hfraction
  have hlast := Digits.eq_lastPlaces_value hfraction
  rw [length_fractionDigits] at hlt hlast
  have hwhole : units / 10 ^ count = Digits.value d.integerDigits := by
    rw [← hvalue, Nat.mul_comm, Nat.mul_add_div (Nat.pow_pos (by decide)), Nat.div_eq_of_lt hlt,
      Nat.add_zero]
  constructor
  · rw [hwhole]
    exact integerDigits_eq h
  · rw [← hvalue, Digits.lastPlaces_mul_pow_add, ← hlast]

/-- The digits that a decimal shows when it is rounded to a number of places are those
of the number that it denotes, rounded in units of the last place. -/
theorem digits_round {d : Decimal} (h : Normalised d) {count units : Nat}
    (hunits : roundHalfUp (d.toRat * 10 ^ (count : Int)) = units) :
    (round count d).integerDigits =
        (if units / 10 ^ count = 0 then [] else Digits.ofNat (units / 10 ^ count)) ∧
      (round count d).fractionDigits count = Digits.lastPlaces count units := by
  refine digits_of_toRat (normalised_round count h) (length_digits_round_natCast_le count h) ?_
  rw [toRat_round count h.digit_lt, hunits, mul_assoc, ← zpow_add₀ (by norm_num)]
  simp

end Decimal

end Spreadsheet
