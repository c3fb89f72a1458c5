/-
# Rounding with sums of 32 bits

Rounding a decimal adds the count of places to the scale, and one to the scale when a carry
leaves the digits. Where these sums are integers of 32 bits, the rounded decimal is the one
in normal form that denotes the number rounded half away from zero. Where one is not, there
is no such decimal, but for one pair of scale and count. The formats stay inside the range:
it takes a pattern of hundreds of millions of characters to leave it.

* `Decimal.SumsFit` — the range.
* `Decimal.roundInt32_eq_round` — inside it the sums are exact.
* `Decimal.sumsFit_of_roundsHalfAway` — outside it they lead elsewhere.
* `Decimal.roundInt32_halfAway` — rounding to any place.
* `NumberPattern.roundInt32_shown` — the range covers the formats.
-/

import Spreadsheet.Proofs.DecimalSurvival
import Spreadsheet.Proofs.HalfAwayRounding
import Spreadsheet.Proofs.PatternPlaces

namespace Spreadsheet

-- A power of a natural number is core's, whatever other instances are in scope.
attribute [local instance (high)] instPowNat

namespace Decimal

/-! ### The range -/

/-- The sums of rounding to so many places are integers of 32 bits: that of the scale and
the count, and that of the scale and one when a carry leaves the digits. -/
structure SumsFit (places : Int) (d : Decimal) : Prop where
  kept : FitsInt32 (d.scale + places)
  carry : CarriesOut places d → FitsInt32 (d.scale + 1)

/-- A sum that does not fit is the first one, or the second one where it is made. -/
theorem not_sumsFit_iff {places : Int} {d : Decimal} :
    ¬SumsFit places d ↔ ¬FitsInt32 (d.scale + places) ∨
      FitsInt32 (d.scale + places) ∧ CarriesOut places d ∧ ¬FitsInt32 (d.scale + 1) := by
  constructor
  · intro hnot
    by_cases hkept : FitsInt32 (d.scale + places)
    · refine Or.inr ⟨hkept, ?_⟩
      by_contra hcarry
      exact hnot ⟨hkept, fun hout => by_contra fun hsum => hcarry ⟨hout, hsum⟩⟩
    · exact Or.inl hkept
  · rintro (hkept | ⟨-, hout, hsum⟩) hfits
    · exact hkept hfits.kept
    · exact hsum (hfits.carry hout)

theorem roundInt32_eq_round (checked : Bool) {places : Int32} {d : Decimal}
    (h : SumsFit places.toInt d) : roundInt32 checked places d = some (round places.toInt d) :=
  roundWith_eq_pure (addInt32_of_fits checked h.kept) fun hout =>
    addInt32_of_fits checked (h.carry hout)

/-- Where sums are checked, rounding fails when one of them does not fit. -/
theorem roundInt32_eq_none_iff {places : Int32} {d : Decimal} :
    roundInt32 true places d = none ↔ ¬SumsFit places.toInt d := by
  constructor
  · intro hnone hfits
    rw [roundInt32_eq_round true hfits] at hnone
    cases hnone
  · intro hnot
    rcases not_sumsFit_iff.mp hnot with hkept | ⟨hkept, hout, hsum⟩
    · rw [roundInt32, roundWith, addInt32_of_not_fits hkept]
      rfl
    · rw [roundInt32, roundWith_carriesOut (addInt32_of_fits true hkept) hout,
        addInt32_of_not_fits hsum]
      rfl

/-- A rounded decimal has a scale of 32 bits again. -/
theorem fitsInt32_scale_round {places : Int} {d : Decimal} (hscale : FitsInt32 d.scale)
    (h : SumsFit places d) : FitsInt32 (round places d).scale := by
  have hnormalise : ∀ (digits : List Nat) {scale : Int}, FitsInt32 scale →
      FitsInt32 (normalise digits scale).scale := by
    intro digits scale hfits
    rw [normalise]
    split
    · decide
    · exact hfits
  refine round_cases (motive := fun rounded => FitsInt32 rounded.scale) places d
    ?none ?all ?down ?up
  case none => exact fun _ => by decide
  case all => exact fun _ _ _ => hscale
  case down => exact fun kept _ _ _ _ _ => hnormalise kept hscale
  case up =>
    intro kept next rest hkept hdigits hnext
    apply hnormalise
    rw [length_carried]
    split
    · rename_i hout
      rw [increment_fst_iff] at hout
      rw [hout] at hdigits
      have hfits := h.carry ⟨kept.length, next, rest, hkept, hdigits, hnext⟩
      rwa [Nat.cast_add, Nat.cast_one, ← add_assoc, add_sub_right_comm, add_sub_cancel_right]
    · rwa [Nat.add_zero, add_sub_cancel_right]

/-! ### Sums that wrap around -/

/-- The sum of two integers of 32 bits that wraps around is on the other side of zero, or it
is zero and both are the least integer. -/
theorem addInt32_wraps {a b : Int} (ha : FitsInt32 a) (hb : FitsInt32 b)
    (h : ¬FitsInt32 (a + b)) :
    ∃ b', addInt32 false a b = some (a + b') ∧
      (0 < a + b ∧ a + b' < 0 ∨ a + b < 0 ∧ a < 0 ∧ 0 < a + b' ∨
        a = -2147483648 ∧ b = -2147483648) := by
  refine ⟨(Int32.ofInt (a + b)).toInt - a, ?_, ?_⟩
  · rw [addInt32, if_neg h, if_neg Bool.false_ne_true, add_sub_cancel]
  · rw [Int32.toInt_ofInt]
    unfold FitsInt32 at ha hb h
    have hsize : Int32.size = 4294967296 := rfl
    rw [hsize, Int.bmod_def]
    omega

section Wraps

variable {places : Int32} {d : Decimal} (hscale : FitsInt32 d.scale)
include hscale

/-- When the sum of the scale and the count wraps around, the rounding is zero where it
should keep a digit, or keeps one where it should be zero. -/
theorem roundInt32_wraps_kept (h : Normalised d)
    (hkept : ¬FitsInt32 (d.scale + places.toInt)) :
    ∃ e, roundInt32 false places d = some e ∧ Normalised e ∧
      (e = round places.toInt d → d.scale = -2147483648 ∧ places.toInt = -2147483648) := by
  have hplaces : FitsInt32 places.toInt := ⟨places.le_toInt, Int.le_of_lt_add_one places.toInt_lt⟩
  have hne : d.isZero = false := by
    by_contra hzero
    rw [Bool.not_eq_false, isZero_iff] at hzero
    rw [h.scale_of_nil hzero, Int.zero_add] at hkept
    exact hkept hplaces
  obtain ⟨exact, hadd, hside⟩ := addInt32_wraps hscale hplaces hkept
  have hcarry : CarriesOut exact d → addInt32 false d.scale 1 = some (d.scale + 1) := by
    rintro ⟨count, -, -, hcount, -⟩
    apply addInt32_of_fits
    unfold FitsInt32 at hscale ⊢
    omega
  refine ⟨round exact d, roundWith_eq_pure hadd hcarry, normalised_round exact h, fun hsame => ?_⟩
  rcases hside with ⟨hpos, hneg⟩ | ⟨hneg, -, hpos⟩ | hleast
  · rw [round_eq_zero_of_neg hneg] at hsame
    exact absurd hsame.symm (round_ne_zero h hne hpos)
  · rw [round_eq_zero_of_neg hneg] at hsame
    exact absurd hsame (round_ne_zero h hne hpos)
  · exact hleast

/-- A one that is carried beyond the greatest scale comes out at the other end. -/
theorem roundInt32_wraps_carry (hkept : FitsInt32 (d.scale + places.toInt))
    (hout : CarriesOut places.toInt d) (hsum : ¬FitsInt32 (d.scale + 1)) :
    ∃ e, roundInt32 false places d = some e ∧ Normalised e ∧ e ≠ round places.toInt d := by
  obtain ⟨scale, hadd, hside⟩ := addInt32_wraps hscale (by decide) hsum
  refine ⟨⟨[1], d.scale + scale⟩, ?_, normalised_one _, fun hsame => ?_⟩
  · rw [roundInt32, roundWith_carriesOut (addInt32_of_fits false hkept) hout, hadd]
    rfl
  · rw [round_carriesOut hout] at hsame
    have hplace := congrArg Decimal.scale hsame
    dsimp only at hplace
    unfold FitsInt32 at hscale hsum
    omega

/-- Outside the range rounding is right by chance at most, when the scale and the count are
both the least integer. -/
theorem sumsFit_of_roundsHalfAway {checked : Bool} {e : Decimal} (h : Normalised d)
    (he : roundInt32 checked places d = some e)
    (hrounds : RoundsHalfAway (10 ^ (-places.toInt)) d.toRat e.toRat) :
    SumsFit places.toInt d ∨ d.scale = -2147483648 ∧ places.toInt = -2147483648 := by
  have hown := hrounds.unique (roundsHalfAway_round places.toInt h.digit_lt)
  have hrounded := normalised_round places.toInt h
  by_cases hfits : SumsFit places.toInt d
  · exact Or.inl hfits
  · right
    cases checked with
    | true =>
      rw [roundInt32_eq_none_iff.mpr hfits] at he
      cases he
    | false =>
      rcases not_sumsFit_iff.mp hfits with hkept | ⟨hkept, hout, hsum⟩
      · obtain ⟨wrapped, hwrapped, hnormalised, hleast⟩ := roundInt32_wraps_kept hscale h hkept
        obtain rfl := Option.some.inj (he.symm.trans hwrapped)
        exact hleast (hnormalised.eq_of_toRat_eq hrounded hown)
      · obtain ⟨wrapped, hwrapped, hnormalised, hne⟩ :=
          roundInt32_wraps_carry hscale hkept hout hsum
        obtain rfl := Option.some.inj (he.symm.trans hwrapped)
        exact absurd (hnormalised.eq_of_toRat_eq hrounded hown) hne

end Wraps

/-! ### Rounding to any place -/

/-- **A decimal in normal form is rounded exactly, at any place, while its sums fit into 32
bits.** The rounded decimal is in normal form and denotes the number rounded half away from
zero to a multiple of the place; no other decimal in normal form does. It is a one above the
first digit when a carry runs through all digits that are kept, be it none, and zero when the
number is less than a half unit. Where sums are checked, rounding fails when one of them does
not fit; and where it does not fail, it is right only in that range, or by chance when the
scale and the count are both the least integer. -/
theorem roundInt32_halfAway (checked : Bool) (places : Int32) {d : Decimal} (h : Normalised d)
    (hscale : FitsInt32 d.scale) :
    (SumsFit places.toInt d → ∃ e, roundInt32 checked places d = some e ∧
      Normalised e ∧ FitsInt32 e.scale ∧
      RoundsHalfAway (10 ^ (-places.toInt)) d.toRat e.toRat ∧
      (∀ e', Normalised e' → RoundsHalfAway (10 ^ (-places.toInt)) d.toRat e'.toRat → e' = e) ∧
      (CarriesOut places.toInt d → e = ⟨[1], d.scale + 1⟩) ∧
      (e = zero ↔ d.toRat < 10 ^ (-places.toInt) / 2)) ∧
    (roundInt32 true places d = none ↔ ¬SumsFit places.toInt d) ∧
    (∀ e, roundInt32 checked places d = some e →
      RoundsHalfAway (10 ^ (-places.toInt)) d.toRat e.toRat →
      SumsFit places.toInt d ∨ d.scale = -2147483648 ∧ places.toInt = -2147483648) := by
  refine ⟨fun hfits => ?rounded, roundInt32_eq_none_iff, fun e =>
    sumsFit_of_roundsHalfAway hscale h⟩
  case rounded =>
    have hnormalised := normalised_round places.toInt h
    have hrounds := roundsHalfAway_round places.toInt h.digit_lt
    refine ⟨round places.toInt d, roundInt32_eq_round checked hfits, hnormalised,
      fitsInt32_scale_round hscale hfits, hrounds, ?only, round_carriesOut,
      round_eq_zero_iff places.toInt h⟩
    intro e he hother
    exact he.eq_of_toRat_eq hnormalised (hother.unique hrounds)

/-- 9.995 to two places: a half, and a carry through all the digits that are kept. -/
theorem roundInt32_halfAway_carry :
    Normalised ⟨[9, 9, 9, 5], 1⟩ ∧ FitsInt32 1 ∧ SumsFit 2 ⟨[9, 9, 9, 5], 1⟩ ∧
      roundInt32 true 2 ⟨[9, 9, 9, 5], 1⟩ = some ⟨[1], 2⟩ ∧ Normalised ⟨[1], 2⟩ ∧
      RoundsHalfAway (10 ^ (-2 : Int)) (toRat ⟨[9, 9, 9, 5], 1⟩) (toRat ⟨[1], 2⟩) := by
  have hnormalised : Normalised ⟨[9, 9, 9, 5], 1⟩ := ⟨by decide, by decide, by decide, by decide⟩
  have hfits : SumsFit 2 ⟨[9, 9, 9, 5], 1⟩ := ⟨by decide, fun _ => by decide⟩
  obtain ⟨e, hround, he, -, hrounds, -, hcarry, -⟩ :=
    (roundInt32_halfAway true 2 hnormalised (by decide)).1 hfits
  obtain rfl := hcarry ⟨3, 5, [], rfl, rfl, by decide⟩
  exact ⟨hnormalised, by decide, hfits, hround, he, hrounds⟩

/-- Five, to the greatest count of places that 32 bits can hold: the sum of the scale and the
count does not fit. Where sums are checked rounding fails, and otherwise five is rounded to
zero, which is not its rounding. -/
theorem not_roundInt32_halfAway :
    Normalised ⟨[5], 1⟩ ∧ FitsInt32 1 ∧ roundInt32 true Int32.maxValue ⟨[5], 1⟩ = none ∧
      roundInt32 false Int32.maxValue ⟨[5], 1⟩ = some zero ∧
      ∀ checked, ¬∃ e, roundInt32 checked Int32.maxValue ⟨[5], 1⟩ = some e ∧ Normalised e ∧
        RoundsHalfAway (10 ^ (-Int32.maxValue.toInt)) (toRat ⟨[5], 1⟩) e.toRat := by
  have hchecked : roundInt32 true Int32.maxValue ⟨[5], 1⟩ = none := by decide
  have hwrapped : roundInt32 false Int32.maxValue ⟨[5], 1⟩ = some zero := by decide
  have hnormalised : Normalised ⟨[5], 1⟩ := ⟨by decide, by decide, by decide, by decide⟩
  refine ⟨hnormalised, by decide, hchecked, hwrapped, fun checked => ?_⟩
  rintro ⟨e, hround, he, hrounds⟩
  -- Five is its own rounding at that place, and no other decimal is.
  have hself : round Int32.maxValue.toInt ⟨[5], 1⟩ = ⟨[5], 1⟩ := round_eq_self (by decide)
  have hown := roundsHalfAway_round Int32.maxValue.toInt hnormalised.digit_lt
  rw [hself] at hown
  obtain rfl := he.eq_of_toRat_eq hnormalised (hrounds.unique hown)
  cases checked with
  | true =>
    rw [hchecked] at hround
    cases hround
  | false =>
    rw [hwrapped] at hround
    cases hround

end Decimal

/-! ### The sums of the formats -/

/-- The magnitude of a number is less than a power of ten. -/
theorem Binary64.abs_toRat_lt_pow (x : Binary64) : |x.toRat| < 10 ^ (309 : Int) := by
  by_cases hzero : x.toRat = 0
  · rw [hzero, abs_zero]
    positivity
  · refine lt_of_le_of_lt (abs_toRat_le_greatestFinite (isFinite_of_toRat_ne_zero hzero)) ?_
    decide +kernel

namespace Decimal

/-- The scale of the decimal that a number is shown from. -/
theorem scale_ofBinary64_bounds (x : Binary64) :
    -323 ≤ (ofBinary64 x).scale ∧ (ofBinary64 x).scale ≤ 310 := by
  have hnormalised := normalised_ofBinary64 x
  by_cases hzero : (ofBinary64 x).isZero = true
  · rw [hnormalised.scale_of_nil (isZero_iff.mp hzero)]
    omega
  · have hvalue := (toRat_eq_zero_iff hnormalised).not.mpr hzero
    have hfirst := hnormalised.pow_le_toRat (Bool.eq_false_iff.mpr hzero)
    have hlast := toRat_lt hnormalised.digit_lt
    have hunits : x.signedUnits ≠ 0 := by
      intro hunits
      rw [ofBinary64, if_pos hunits] at hzero
      exact hzero rfl
    have hsmall := Binary64.pow_le_toRat_abs hunits
    have hlarge := x.abs_toRat_lt_pow
    have hnearest := nearestDecimal_ofBinary64 x
    rw [Binary64.abs_toRat_eq] at hnearest hsmall
    generalize (ofBinary64 x).toRat = d at hnearest hvalue hfirst hlast
    generalize |x.toRat| = q at hnearest hsmall hlarge
    cases hnearest with
    | zero => exact absurd rfl hvalue
    | nearest place n hlow hhigh hnear _ =>
      obtain ⟨hbelow, habove⟩ := multiple_bounds (by decide) hlow hhigh hnear
      have hnext : (10 : Rat) ^ place < 10 ^ (place + 1) :=
        zpow_lt_zpow_right₀ (by norm_num) (lt_add_one place)
      have hplaceLow : -323 ≤ place := place_unique hsmall hhigh
      have hplaceHigh : place ≤ 309 := place_unique hlow hlarge
      have hscaleLow := place_unique hbelow hlast
      have hscaleHigh := place_unique hfirst (lt_of_le_of_lt habove hnext)
      omega

theorem roundInt32_ofInt (checked : Bool) {count : Int} {d : Decimal} (hcount : FitsInt32 count)
    (h : SumsFit count d) : roundInt32 checked (.ofInt count) d = some (round count d) := by
  have hsame : (Int32.ofInt count).toInt = count :=
    Int32.toInt_ofInt_of_le hcount.1 (Int.lt_add_one_of_le hcount.2)
  have hfits : SumsFit (Int32.ofInt count).toInt d := by rwa [hsame]
  rw [roundInt32_eq_round checked hfits, hsame]

end Decimal

namespace NumberPattern

theorem length_firstPointOnly_le (items : List Item) :
    (firstPointOnly items).length ≤ items.length := by
  induction items with
  | nil => exact Nat.le_refl _
  | cons item rest ih =>
    rw [firstPointOnly]
    split
    · exact Nat.succ_le_succ (List.length_filter_le _ _)
    · exact Nat.succ_le_succ ih

theorem length_lexemes_le (text : Text) : (lexemes text).length ≤ text.length := by
  fun_induction lexemes text with
  | case1 => exact Nat.le_refl _
  | case2 c rest ih => exact Nat.succ_le_succ (Nat.le_trans ih (Lexeme.length_first c rest))

/-- A section has at most one item for each character. -/
theorem length_items_le (source : Text) : (ofText source).items.length ≤ source.length := by
  refine Nat.le_trans (length_firstPointOnly_le _) ?_
  rw [List.length_map]
  exact length_lexemes_le source

/-- The digit places of a section are some of its items. -/
theorem places_le (pattern : NumberPattern) :
    pattern.wholePlaces.length + pattern.maxFraction ≤ pattern.items.length := by
  rw [length_wholePlaces, maxFraction_eq, wholeItems_eq_beforePoint, fractionItems_eq_afterPoint,
    Items.countPlaces_before_add_after]
  exact Nat.le_trans List.countP_le_length (List.takeWhile_sublist _).length_le

theorem scalingCommas_le (pattern : NumberPattern) :
    pattern.scalingCommas ≤ pattern.items.length := by
  have hmantissa : pattern.mantissa.length ≤ pattern.items.length :=
    (List.takeWhile_sublist _).length_le
  have hwhole : pattern.wholeItems.length ≤ pattern.mantissa.length :=
    (List.takeWhile_sublist _).length_le
  have hfirst : pattern.fromFirstPlace.length ≤ pattern.wholeItems.length :=
    (List.dropWhile_sublist _).length_le
  have hlast := (List.takeWhile_sublist (fun item => !item.isDigit)
    (l := pattern.fromFirstPlace.reverse)).length_le
  rw [List.length_reverse] at hlast
  exact Nat.le_trans List.count_le_length (by omega)

/-- An item stands for a power of ten of at most a few places. -/
theorem power_bounds (pattern : NumberPattern) :
    -3 * (pattern.items.length : Int) ≤ pattern.power ∧
      pattern.power ≤ 5 * pattern.items.length := by
  have hpercent := List.count_le_length (a := Item.percent) (l := pattern.items)
  have hperMille := List.count_le_length (a := Item.perMille) (l := pattern.items)
  have hcommas := scalingCommas_le pattern
  rw [power, Items.foldl_power]
  omega

/-- **The formats round inside the range**: under a section of fewer than `2 ^ 28` characters
a number is rounded in the same way with sums of 32 bits, to places after the point and to
significant digits. -/
theorem roundInt32_shown (checked : Bool) {source : Text} (hshort : source.length < 2 ^ (28 : Nat))
    (x : Binary64) :
    let pattern := ofText source
    let scaled := (Decimal.ofBinary64 x).shift pattern.power
    let significant : Int :=
      max pattern.wholePlaces.length 1 + pattern.maxFraction - scaled.scale
    scaled.roundInt32 checked (.ofInt pattern.maxFraction) =
        some (scaled.round pattern.maxFraction) ∧
      scaled.roundInt32 checked (.ofInt significant) = some (scaled.round significant) := by
  intro pattern scaled significant
  have hitems : pattern.items.length ≤ source.length := length_items_le source
  have hplaces := places_le pattern
  obtain ⟨hpowerLow, hpowerHigh⟩ := power_bounds pattern
  obtain ⟨hscaleLow, hscaleHigh⟩ := Decimal.scale_ofBinary64_bounds x
  have hscaled : scaled.scale = (Decimal.ofBinary64 x).scale ∨
      scaled.scale = (Decimal.ofBinary64 x).scale + pattern.power := by
    unfold scaled Decimal.shift
    split
    · exact Or.inl rfl
    · exact Or.inr rfl
  have hlead : max (pattern.wholePlaces.length : Int) 1 ≤ pattern.items.length + 1 := by omega
  have hnext : FitsInt32 (scaled.scale + 1) := by
    unfold FitsInt32
    omega
  constructor
  · refine Decimal.roundInt32_ofInt checked ?_ ⟨?_, fun _ => hnext⟩ <;> unfold FitsInt32 <;> omega
  · refine Decimal.roundInt32_ofInt checked ?_ ⟨?_, fun _ => hnext⟩ <;>
      unfold FitsInt32 significant <;> omega

end NumberPattern

end Spreadsheet
