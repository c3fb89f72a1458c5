/-
# Shortest decimals are rounded back

A decimal in the interval of a floating point number is nearer to it than to the numbers next to
it, or as near as to one of them whose last place is odd; so it is rounded to this number. Among
the multiples of a power of ten that is small enough one always lies in the interval, which is
why seventeen digits are enough.

* `RoundingInterval.nearestMagnitude_of_contains` — what the interval contains is rounded to its
  number.
* `Shortest.exists_candidate?` — seventeen digits are enough.
* `Binary64.ofRat_shortest` — a shortest decimal is rounded to the number it was found for.
-/

import Spreadsheet.Numeric.Shortest
import Spreadsheet.Proofs.NearestBinary64
import Spreadsheet.Proofs.SignificantDigits

namespace Spreadsheet

-- A power of a natural number is core's, whatever other instances are in scope.
attribute [local instance (high)] instPowNat

/-! ### The numbers next to a number -/

/-- A magnitude of 53 places: its places, and how far they are moved up. -/
structure Places (units m shift : Nat) : Prop where
  units_eq : units = m * 2 ^ shift
  shift_eq : units.log2 - 52 = shift
  lt : m < 2 ^ (53 : Nat)
  ge : 0 < shift → 2 ^ (52 : Nat) ≤ m

theorem exists_places {units : Nat} (h : Representable units) : ∃ m shift, Places units m shift := by
  rcases Binary64.units_cases h with ⟨hsmall, hshift⟩ | ⟨m, shift, hm, -, -, hunits, hshift⟩
  · exact ⟨units, 0, by rw [Nat.pow_zero, Nat.mul_one], hshift, hsmall, fun hpos => by omega⟩
  · exact ⟨_, shift, hunits, hshift, by omega, fun _ => by omega⟩

/-- How far below a magnitude the next one is: half a step when the lower one has its 53 places
one place further down. -/
def gapBelow (m shift : Nat) : Nat :=
  if m = 2 ^ (52 : Nat) ∧ 0 < shift then 2 ^ (shift - 1) else 2 ^ shift

theorem gapBelow_pos (m shift : Nat) : 0 < gapBelow m shift := by
  unfold gapBelow
  split <;> exact Nat.two_pow_pos _

section Places

variable {units m shift z : Nat} (h : Places units m shift)
include h

/-- The next magnitude above is a step away. -/
theorem Places.add_le (hz : Significant53 z) (hlt : units < z) : units + 2 ^ shift ≤ z := by
  rcases multiple_or_lt_of_significant hz shift with ⟨k, rfl⟩ | ⟨hpos, hbelow⟩
  · rw [h.units_eq] at hlt ⊢
    have hmk : m + 1 ≤ k := Nat.lt_of_mul_lt_mul_right hlt
    calc m * 2 ^ shift + 2 ^ shift = (m + 1) * 2 ^ shift := by rw [Nat.add_mul, Nat.one_mul]
      _ ≤ k * 2 ^ shift := Nat.mul_le_mul_right _ hmk
  · have hunits : 2 ^ (52 + shift) ≤ units := by
      rw [h.units_eq, Nat.pow_add]
      exact Nat.mul_le_mul_right _ (h.ge hpos)
    omega

/-- The next one below is a gap away. -/
theorem Places.le_sub (hz : Significant53 z) (hlt : z < units) : z + gapBelow m shift ≤ units := by
  have hmultiple : ∀ {n t k : Nat}, units = n * 2 ^ t → z = k * 2 ^ t → z + 2 ^ t ≤ units := by
    rintro n t k hunits rfl
    rw [hunits] at hlt ⊢
    have hkn : k + 1 ≤ n := Nat.lt_of_mul_lt_mul_right hlt
    calc k * 2 ^ t + 2 ^ t = (k + 1) * 2 ^ t := by rw [Nat.add_mul, Nat.one_mul]
      _ ≤ n * 2 ^ t := Nat.mul_le_mul_right _ hkn
  unfold gapBelow
  split
  · rename_i hboundary
    obtain ⟨rfl, hpos⟩ := hboundary
    obtain ⟨t, rfl⟩ := Nat.exists_eq_succ_of_ne_zero (Nat.ne_of_gt hpos)
    have hunits : units = 2 ^ (53 : Nat) * 2 ^ t := by
      rw [h.units_eq, Nat.pow_succ]
      omega
    rw [Nat.succ_sub_one]
    rcases multiple_or_lt_of_significant hz t with ⟨k, hk⟩ | ⟨-, hbelow⟩
    · exact hmultiple hunits hk
    · rw [Nat.pow_add] at hbelow
      omega
  · rename_i hinner
    rcases multiple_or_lt_of_significant hz shift with ⟨k, hk⟩ | ⟨hpos, hbelow⟩
    · exact hmultiple h.units_eq hk
    · have hm : 2 ^ (52 : Nat) + 1 ≤ m := by
        have hge := h.ge hpos
        have hne : m ≠ 2 ^ (52 : Nat) := fun heq => hinner ⟨heq, hpos⟩
        omega
      have hle := Nat.mul_le_mul_right (2 ^ shift) hm
      rw [Nat.add_mul, Nat.one_mul, ← h.units_eq, ← Nat.pow_add] at hle
      omega

/-- A number next to one whose last place is even has an odd last place. -/
theorem Places.not_evenLastPlace (heven : m % 2 = 0) :
    ¬EvenLastPlace (units + 2 ^ shift) ∧
      (0 < units → ∀ z, z + gapBelow m shift = units → ¬EvenLastPlace z) := by
  have hodd : ∀ {n t : Nat}, (0 < t → 2 ^ (52 : Nat) ≤ n) → n < 2 ^ (53 : Nat) → n % 2 = 1 →
      ¬EvenLastPlace (n * 2 ^ t) := by
    intro n t hlow hhigh hn hlast
    rw [EvenLastPlace, div_places_mul_pow hlow hhigh] at hlast
    omega
  have hlt := h.lt
  refine ⟨?_, fun hpos z hz => ?_⟩
  · have hnext : units + 2 ^ shift = (m + 1) * 2 ^ shift := by
      rw [h.units_eq, Nat.add_mul, Nat.one_mul]
    rw [hnext]
    exact hodd (fun hpos => Nat.le_succ_of_le (h.ge hpos)) (by omega) (by omega)
  · unfold gapBelow at hz
    split at hz
    · rename_i hboundary
      obtain ⟨t, ht⟩ := Nat.exists_eq_succ_of_ne_zero (Nat.ne_of_gt hboundary.2)
      have hunits := h.units_eq
      rw [hboundary.1, ht, Nat.pow_succ] at hunits
      rw [ht, Nat.succ_sub_one] at hz
      have hnext : z = (2 ^ (53 : Nat) - 1) * 2 ^ t := by omega
      rw [hnext]
      exact hodd (fun _ => by decide) (by decide) (by decide)
    · rename_i hinner
      obtain ⟨n, rfl⟩ : ∃ n, m = n + 1 := Nat.exists_eq_succ_of_ne_zero fun hzero => by
        rw [h.units_eq, hzero, Nat.zero_mul] at hpos
        omega
      have hnext : z = n * 2 ^ shift := by
        rw [h.units_eq, Nat.add_mul, Nat.one_mul] at hz
        omega
      rw [hnext]
      refine hodd (fun hshift => ?_) (by omega) (by omega)
      have hge := h.ge hshift
      have hne : n + 1 ≠ 2 ^ (52 : Nat) := fun heq => hinner ⟨heq, hshift⟩
      omega

/-! ### The interval of a number -/

/-- The places of a number are what is left when they are moved down. -/
theorem Places.div_eq : units / 2 ^ (units.log2 - 52) = m := by
  rw [h.shift_eq, h.units_eq, Nat.mul_div_cancel _ (Nat.two_pow_pos shift)]

/-- The interval ends half a gap below the number and half a step above it, in units. -/
theorem Places.ends : (RoundingInterval.ofUnits units).low * unitsInOne =
      units - (gapBelow m shift : Rat) / 2 ∧
    (RoundingInterval.ofUnits units).high * unitsInOne = units + (2 ^ shift : Rat) / 2 := by
  have hone : (unitsInOne : Rat) ≠ 0 := by exact_mod_cast Nat.ne_of_gt unitsInOne_pos
  have hgap : (if m = 2 ^ (52 : Nat) ∧ 1 < 2 ^ shift then 2 ^ shift else 2 * 2 ^ shift : Nat) =
      2 * gapBelow m shift := by
    unfold gapBelow
    cases shift with
    | zero => rw [if_neg (by simp), if_neg (by simp)]
    | succ t =>
      have hstep : 1 < 2 ^ (t + 1) := Nat.one_lt_two_pow (by omega)
      by_cases hm : m = 2 ^ (52 : Nat)
      · rw [if_pos ⟨hm, hstep⟩, if_pos ⟨hm, by omega⟩, Nat.pow_succ, Nat.mul_comm,
          Nat.succ_sub_one]
      · rw [if_neg fun heq => hm heq.1, if_neg fun heq => hm heq.1]
  rw [RoundingInterval.ofUnits, h.div_eq, h.shift_eq]
  dsimp only
  rw [hgap, Rat.mkRat_eq_div, Rat.mkRat_eq_div]
  push_cast
  constructor
  · field_simp
    ring
  · field_simp
    ring

/-- The number lies between them. -/
theorem Places.lt_ends {q : Rat} (hq : q * unitsInOne = units) :
    (RoundingInterval.ofUnits units).low < q ∧ q < (RoundingInterval.ofUnits units).high := by
  have hone : (0 : Rat) < unitsInOne := by exact_mod_cast unitsInOne_pos
  have hgap : (0 : Rat) < gapBelow m shift := by exact_mod_cast gapBelow_pos m shift
  have hstep : (0 : Rat) < 2 ^ shift := by positivity
  obtain ⟨hlow, hhigh⟩ := h.ends
  constructor
  · rw [← mul_lt_mul_iff_left₀ hone, hlow, hq]
    linarith
  · rw [← mul_lt_mul_iff_left₀ hone, hhigh, hq]
    linarith

theorem Places.closed : (RoundingInterval.ofUnits units).closed = (m % 2 == 0) := by
  rw [RoundingInterval.ofUnits, h.div_eq]

/-- What lies in the interval is at most half a gap below the number and half a step above it,
and less when the last place of the number is odd. -/
theorem Places.bounds_of_contains {q : Rat}
    (hq : (RoundingInterval.ofUnits units).contains q = true) :
    (units - (gapBelow m shift : Rat) / 2 ≤ q * unitsInOne ∧
        q * unitsInOne ≤ units + (2 ^ shift : Rat) / 2) ∧
      (m % 2 = 1 → units - (gapBelow m shift : Rat) / 2 < q * unitsInOne ∧
        q * unitsInOne < units + (2 ^ shift : Rat) / 2) := by
  have hone : (0 : Rat) < unitsInOne := by exact_mod_cast unitsInOne_pos
  obtain ⟨hlow, hhigh⟩ := h.ends
  rw [← hlow, ← hhigh, mul_le_mul_iff_left₀ hone, mul_le_mul_iff_left₀ hone,
    mul_lt_mul_iff_left₀ hone, mul_lt_mul_iff_left₀ hone]
  rw [RoundingInterval.contains, h.closed] at hq
  split at hq
  · rename_i heven
    rw [beq_iff_eq] at heven
    simp only [Bool.and_eq_true, decide_eq_true_eq] at hq
    exact ⟨hq, fun hodd => by omega⟩
  · simp only [Bool.and_eq_true, decide_eq_true_eq] at hq
    exact ⟨⟨le_of_lt hq.1, le_of_lt hq.2⟩, fun _ => hq⟩

/-- A magnitude that is as near to something in the interval is the number itself: a number next
to it could be as near only at an end of the interval, where its last place is odd. -/
theorem Places.eq_of_le_distance (hpos : 0 < units) {r : Rat}
    (hbounds : units - (gapBelow m shift : Rat) / 2 ≤ r ∧ r ≤ units + (2 ^ shift : Rat) / 2)
    (hstrict : m % 2 = 1 → units - (gapBelow m shift : Rat) / 2 < r ∧
      r < units + (2 ^ shift : Rat) / 2)
    (hz : Significant53 z) (hle : |(z : Rat) - r| ≤ |(units : Rat) - r|)
    (htie : |(units : Rat) - r| = |(z : Rat) - r| → units = z ∨ EvenLastPlace z) :
    z = units := by
  obtain ⟨hlow, hhigh⟩ := hbounds
  rcases Nat.lt_trichotomy z units with hlt | heq | hlt
  · have hgap : (z : Rat) + gapBelow m shift ≤ units := by exact_mod_cast h.le_sub hz hlt
    have hless : (z : Rat) < units := by exact_mod_cast hlt
    have hfar := neg_le_abs ((z : Rat) - r)
    rcases le_total (units : Rat) r with hside | hside
    · rw [abs_of_nonpos (by linarith : (units : Rat) - r ≤ 0)] at hle
      linarith
    · rw [abs_of_nonneg (by linarith : 0 ≤ (units : Rat) - r)] at hle htie
      have hend : r = units - (gapBelow m shift : Rat) / 2 := by linarith
      have hnext : z + gapBelow m shift = units := by
        have hsum : (z : Rat) + gapBelow m shift = units := by linarith
        exact_mod_cast hsum
      have heven : m % 2 = 0 := by
        by_contra hodd
        have hlt := (hstrict (by omega)).1
        linarith
      have hsame : (units : Rat) - r = |(z : Rat) - r| := by
        rw [abs_of_nonpos (by linarith : (z : Rat) - r ≤ 0)]
        linarith
      exact absurd ((htie hsame).resolve_left (by omega))
        ((h.not_evenLastPlace heven).2 hpos z hnext)
  · exact heq
  · have hgap : (units : Rat) + 2 ^ shift ≤ z := by exact_mod_cast h.add_le hz hlt
    have hless : (units : Rat) < z := by exact_mod_cast hlt
    have hfar := le_abs_self ((z : Rat) - r)
    rcases le_total r (units : Rat) with hside | hside
    · rw [abs_of_nonneg (by linarith : 0 ≤ (units : Rat) - r)] at hle
      linarith
    · rw [abs_of_nonpos (by linarith : (units : Rat) - r ≤ 0)] at hle htie
      have hend : r = units + (2 ^ shift : Rat) / 2 := by linarith
      have hnext : units + 2 ^ shift = z := by
        have hsum : (units : Rat) + 2 ^ shift = z := by linarith
        exact_mod_cast hsum
      have heven : m % 2 = 0 := by
        by_contra hodd
        have hlt := (hstrict (by omega)).2
        linarith
      have hsame : -((units : Rat) - r) = |(z : Rat) - r| := by
        rw [abs_of_nonneg (by linarith : 0 ≤ (z : Rat) - r)]
        linarith
      rw [← hnext] at htie hsame
      exact absurd ((htie hsame).resolve_left (by omega)) (h.not_evenLastPlace heven).1

/-- A gap is not more than the number. -/
theorem Places.gapBelow_le (hpos : 0 < units) : gapBelow m shift ≤ units := by
  have hm : 0 < m := Nat.pos_of_ne_zero fun hzero => by
    rw [h.units_eq, hzero, Nat.zero_mul] at hpos
    omega
  have hstep : 2 ^ shift ≤ units := by
    rw [h.units_eq]
    exact Nat.le_mul_of_pos_left _ hm
  unfold gapBelow
  split
  · exact Nat.le_trans (Nat.pow_le_pow_right (by decide) (Nat.sub_le _ _)) hstep
  · exact hstep

end Places

/-- **What the interval contains is rounded to its number.** -/
theorem RoundingInterval.nearestMagnitude_of_contains {units : Nat} (hunits : Representable units)
    (hpos : 0 < units) {q : Rat} (hq : (ofUnits units).contains q = true) :
    0 < q ∧ nearestMagnitude (q.num.natAbs * unitsInOne) q.den = units := by
  obtain ⟨m, shift, hplaces⟩ := exists_places hunits
  obtain ⟨hbounds, hstrict⟩ := hplaces.bounds_of_contains hq
  have hone : (0 : Rat) < unitsInOne := by exact_mod_cast unitsInOne_pos
  have hqpos : 0 < q := by
    have hgap : (gapBelow m shift : Rat) ≤ units := by exact_mod_cast hplaces.gapBelow_le hpos
    have hunitsPos : (0 : Rat) < units := by exact_mod_cast hpos
    exact pos_of_mul_pos_left (by linarith [hbounds.1] : 0 < q * unitsInOne) (le_of_lt hone)
  obtain ⟨hle, htie⟩ := Binary64.le_distance_units q hunits.1
  rw [abs_of_pos hqpos] at hle htie
  exact ⟨hqpos, hplaces.eq_of_le_distance hpos hbounds hstrict (nearestMagnitude_significant _ _)
    hle htie⟩

/-- So it is rounded to the number of these units. -/
theorem Binary64.ofRat_of_contains {units : Nat} (hunits : Representable units) (hpos : 0 < units)
    {q : Rat} (hq : (RoundingInterval.ofUnits units).contains q = true) :
    ofRat q = .finite false units hunits := by
  obtain ⟨hqpos, hnearest⟩ := RoundingInterval.nearestMagnitude_of_contains hunits hpos hq
  have hlimit : nearestMagnitude (q.num.natAbs * unitsInOne) q.den < unitLimit := by
    rw [hnearest]
    exact hunits.2
  rw [ofRat, ofQuotient, dif_pos hlimit, decide_eq_false (not_lt.mpr (le_of_lt hqpos))]
  simp only [hnearest]

/-! ### Seventeen digits are enough -/

/-- Seventeen digits tell a number from the numbers next to it: a step in the last of them is less
than the width of its interval. -/
theorem Places.lt_width {units m shift : Nat} (h : Places units m shift) :
    2 * units < 10 ^ (16 : Nat) * (gapBelow m shift + 2 ^ shift) := by
  have hlt := h.lt
  have hstep := Nat.two_pow_pos shift
  rw [h.units_eq]
  unfold gapBelow
  split
  · rename_i hboundary
    obtain ⟨t, ht⟩ := Nat.exists_eq_succ_of_ne_zero (Nat.ne_of_gt hboundary.2)
    have hhalf := Nat.two_pow_pos t
    rw [hboundary.1, ht, Nat.succ_sub_one, Nat.pow_succ]
    omega
  · have hle := Nat.mul_le_mul_right (2 ^ shift) (Nat.le_of_lt_succ hlt)
    omega

namespace Shortest

variable {rule : TieRule} {interval : RoundingInterval} {q : Rat} {place : Int}

/-- What lies between the ends is in the interval. -/
theorem contains_of_lt (hlow : interval.low < q) (hhigh : q < interval.high) :
    interval.contains q = true := by
  unfold RoundingInterval.contains
  split
  · simp [le_of_lt hlow, le_of_lt hhigh]
  · simp [hlow, hhigh]

/-- A neighbour on the grid that lies in the interval is found. -/
theorem exists_candidate?_of_contains
    (h : interval.contains ((q / 10 ^ place).floor.toNat * 10 ^ place) = true ∨
      interval.contains ((q / 10 ^ place).floor.toNat * 10 ^ place + 10 ^ place) = true) :
    ∃ count, candidate? rule interval q place = some count := by
  unfold candidate?
  dsimp only
  split
  · split
    · exact ⟨_, rfl⟩
    · split <;> exact ⟨_, rfl⟩
  · exact ⟨_, rfl⟩
  · exact ⟨_, rfl⟩
  · rename_i hlower hupper
    rw [hlower, hupper] at h
    rcases h with h | h <;> cases h

/-- When a step is less than the width of the interval, a neighbour lies in it: the interval does
not fit between the two. -/
theorem exists_candidate?_of_lt_width (hq : 0 < q) (hlow : interval.low < q)
    (hhigh : q < interval.high) (hwidth : 10 ^ place < interval.high - interval.low) :
    ∃ count, candidate? rule interval q place = some count := by
  refine exists_candidate?_of_contains ?_
  by_contra hnone
  rw [not_or] at hnone
  have hstep : (0 : Rat) < 10 ^ place := by positivity
  obtain ⟨hbelow, habove⟩ := Decimal.toNat_floor_bounds (le_of_lt (div_pos hq hstep))
  rw [le_div_iff₀ hstep] at hbelow
  rw [div_lt_iff₀ hstep, add_mul, one_mul] at habove
  have hlower : _ ≤ interval.low := not_lt.mp fun hlt =>
    hnone.1 (contains_of_lt hlt (lt_of_le_of_lt hbelow hhigh))
  have hupper : interval.high ≤ _ := not_lt.mp fun hlt =>
    hnone.2 (contains_of_lt (lt_trans hlow habove) hlt)
  linarith

/-- What is found is a decimal in the interval. -/
theorem contains_of_candidate? {count : Nat}
    (h : candidate? rule interval q place = some count) :
    interval.contains (count * 10 ^ place) = true := by
  rcases contains_candidate? h with ⟨rfl, hlower⟩ | ⟨rfl, hupper⟩
  · exact hlower
  · push_cast
    rwa [add_mul, one_mul]

/-- **Seventeen digits are enough**: of the multiples of the seventeenth place next to a number
one is in its interval. -/
theorem exists_candidate? (rule : TieRule) {units : Nat} (hunits : Representable units)
    (hq : q * unitsInOne = units) (hsmall : 10 ^ (-324 : Int) ≤ q) :
    ∃ count, candidate? rule (RoundingInterval.ofUnits units) q (Decimal.scaleOf q - 17) =
      some count := by
  obtain ⟨m, shift, hplaces⟩ := exists_places hunits
  obtain ⟨hlow, hhigh⟩ := hplaces.ends
  obtain ⟨hleft, hright⟩ := hplaces.lt_ends hq
  have hone : (0 : Rat) < unitsInOne := by exact_mod_cast unitsInOne_pos
  have hqpos : 0 < q := lt_of_lt_of_le (by positivity) hsmall
  refine exists_candidate?_of_lt_width hqpos hleft hright ?_
  have hstep : (10 : Rat) ^ (16 : Nat) * 10 ^ (Decimal.scaleOf q - 17) ≤ q := by
    have hplace : 16 + (Decimal.scaleOf q - 17) = Decimal.scaleOf q - 1 := by omega
    rw [← zpow_natCast, ← zpow_add₀ (by norm_num)]
    exact_mod_cast hplace ▸ (Decimal.scaleOf_spec hsmall).1
  have hwidth : (2 * units : Rat) < 10 ^ (16 : Nat) * (gapBelow m shift + 2 ^ shift) := by
    exact_mod_cast hplaces.lt_width
  have hscaled : (10 : Rat) ^ (16 : Nat) * 10 ^ (Decimal.scaleOf q - 17) * unitsInOne <
      10 ^ (16 : Nat) * ((RoundingInterval.ofUnits units).high -
        (RoundingInterval.ofUnits units).low) * unitsInOne := by
    calc (10 : Rat) ^ (16 : Nat) * 10 ^ (Decimal.scaleOf q - 17) * unitsInOne
        ≤ q * unitsInOne := mul_le_mul_of_nonneg_right hstep (le_of_lt hone)
      _ = units := hq
      _ < 10 ^ (16 : Nat) * (gapBelow m shift + 2 ^ shift) / 2 := by linarith
      _ = 10 ^ (16 : Nat) * ((RoundingInterval.ofUnits units).high * unitsInOne -
            (RoundingInterval.ofUnits units).low * unitsInOne) := by
          rw [hlow, hhigh]
          ring
      _ = _ := by ring
  exact lt_of_mul_lt_mul_left (lt_of_mul_lt_mul_right hscaled (le_of_lt hone)) (by positivity)

/-- The decimal of some steps denotes their number. -/
theorem toRat_ofSteps (count : Nat) (place : Int) :
    (ofSteps count place).toRat = count * 10 ^ place := by
  rw [ofSteps, Decimal.toRat_normalise, Digits.value_ofNat, add_sub_cancel_right]

/-- The seventeenth place is the last one tried. -/
theorem mem_places (scale : Int) : scale - 17 ∈ places scale :=
  List.mem_map.mpr ⟨16, by decide, by omega⟩

end Shortest

/-! ### Shortest decimals -/

/-- A shortest decimal lies in the interval of the number it is found for. -/
theorem Decimal.contains_shortest (rule : TieRule) {x : Binary64} (h : x.signedUnits ≠ 0) :
    (RoundingInterval.ofUnits x.signedUnits.natAbs).contains (shortest rule x).toRat = true := by
  have hunits : Representable x.signedUnits.natAbs := by
    cases x with
    | finite negative units hunits =>
      rwa [Binary64.natAbs_signedUnits_finite]
    | infinite _ => exact absurd rfl h
    | nan => exact absurd rfl h
  have hq : x.abs.toRat * unitsInOne = x.signedUnits.natAbs := by
    rw [Binary64.toRat_abs, div_mul_cancel₀]
    exact_mod_cast Nat.ne_of_gt unitsInOne_pos
  rw [shortest, if_neg h]
  dsimp only
  cases hfound : (Shortest.places (scaleOf x.abs.toRat)).findSome? fun place =>
      (Shortest.candidate? rule (RoundingInterval.ofUnits x.signedUnits.natAbs) x.abs.toRat
        place).map (Shortest.ofSteps · place) with
  | none =>
    obtain ⟨count, hcount⟩ :=
      Shortest.exists_candidate? rule hunits hq (Binary64.pow_le_toRat_abs h)
    have hnone := List.findSome?_eq_none_iff.mp hfound _ (Shortest.mem_places _)
    rw [hcount] at hnone
    exact absurd hnone (Option.some_ne_none _)
  | some d =>
    obtain ⟨place, -, hplace⟩ := List.exists_of_findSome?_eq_some hfound
    obtain ⟨count, hcount, rfl⟩ := Option.map_eq_some_iff.mp hplace
    rw [Option.getD_some, Shortest.toRat_ofSteps]
    exact Shortest.contains_of_candidate? hcount

/-- **A shortest decimal is rounded to the number it was found for**, whichever of two that are
equally near is taken. -/
theorem Binary64.ofRat_shortest (rule : TieRule) {x : Binary64} (h : x.isFinite = true) :
    ofRat (Decimal.shortest rule x).toRat = x.abs := by
  cases x with
  | finite negative units hunits =>
    rcases Nat.eq_zero_or_pos units with rfl | hpos
    · rw [Decimal.shortest, if_pos (by cases negative <;> rfl),
        Decimal.toRat_of_isZero rfl, ofRat_zero]
      rfl
    · have hne : (finite negative units hunits).signedUnits ≠ 0 := by
        rw [← Int.natAbs_ne_zero, natAbs_signedUnits_finite]
        exact Nat.ne_of_gt hpos
      have hcontains := Decimal.contains_shortest rule hne
      rw [natAbs_signedUnits_finite] at hcontains
      exact ofRat_of_contains hunits hpos hcontains
  | infinite negative => cases h
  | nan => cases h

end Spreadsheet
