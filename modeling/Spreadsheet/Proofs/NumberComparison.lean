/-
# What the comparisons of a criterion say

An operator other than the minus sign is a comparison of two members of any ordered
type. Floating point numbers are no such type, since `nan` has no place among them: the
others stand among the rational numbers with an infinity at either end, and `nan`
differs from every number, itself included.

* `Operator.holds_iff_of_strictMonoOn` — an encoding that keeps the order keeps every
  comparison.
* `Binary64.order?_of_isFinite` — finite numbers are ordered as their values are.
* `Operator.compareNumbers_eq` — comparing numbers decides what the operator says.
* `Operator.holdsOfNumbers_iff` — finite numbers compare as their values do.
-/

import Mathlib.Data.Int.ConditionallyCompleteOrder
import Mathlib.Order.Monotone.Basic
import Mathlib.Order.WithBot
import Spreadsheet.Criteria.Operator
import Spreadsheet.Proofs.Binary64Rounding

namespace Spreadsheet

/-! ### Members of an ordered type -/

section Ordered

variable {α β : Type*} [LinearOrder α] [LinearOrder β]

/-- An encoding that keeps the order of two members keeps how they compare. -/
theorem compare_of_strictMonoOn {f : α → β} {s : Set α} (hf : StrictMonoOn f s) {a b : α}
    (ha : a ∈ s) (hb : b ∈ s) : compare (f a) (f b) = compare a b :=
  (compare_iff _ _).mpr ((hf.compares ha hb).mpr ((compare_iff _ _).mp rfl))

/-- An encoding that turns the order round turns it round for any two members. -/
theorem compare_of_strictAnti {f : α → β} (hf : StrictAnti f) (a b : α) :
    compare (f a) (f b) = compare b a :=
  (compare_iff _ _).mpr (hf.compares.mpr ((compare_iff _ _).mp rfl))

namespace Operator

/-- What the operator says of two members of an ordered type; the minus sign is no
comparison and holds of none. -/
def Holds (operator : Operator) (a b : α) : Prop :=
  match operator with
  | equal => a = b
  | notEqual => a ≠ b
  | greater => b < a
  | greaterOrEqual => b ≤ a
  | less => a < b
  | lessOrEqual => a ≤ b
  | minus => False

instance (operator : Operator) (a b : α) : Decidable (operator.Holds a b) :=
  match operator with
  | equal => inferInstanceAs (Decidable (a = b))
  | notEqual => inferInstanceAs (Decidable (a ≠ b))
  | greater => inferInstanceAs (Decidable (b < a))
  | greaterOrEqual => inferInstanceAs (Decidable (b ≤ a))
  | less => inferInstanceAs (Decidable (a < b))
  | lessOrEqual => inferInstanceAs (Decidable (a ≤ b))
  | minus => inferInstanceAs (Decidable False)

/-- An operator accepts the order of two members that it holds of. -/
theorem accepts_compare {operator : Operator} (hop : operator ≠ .minus) (a b : α) :
    operator.accepts (compare a b) = some (decide (operator.Holds a b)) := by
  rcases lt_trichotomy a b with hlt | rfl | hgt
  · rw [compare_lt_iff_lt.mpr hlt]
    cases operator with
    | minus => exact absurd rfl hop
    | _ => simp [accepts, Holds, hlt, hlt.le, hlt.ne, hlt.not_ge, hlt.not_gt]
  · rw [compare_eq_iff_eq.mpr rfl]
    cases operator with
    | minus => exact absurd rfl hop
    | _ => simp [accepts, Holds]
  · rw [compare_gt_iff_gt.mpr hgt]
    cases operator with
    | minus => exact absurd rfl hop
    | _ => simp [accepts, Holds, hgt, hgt.le, hgt.ne', hgt.not_ge, hgt.not_gt]

/-- An encoding that keeps the order of two members keeps every comparison of them. -/
theorem holds_iff_of_strictMonoOn {f : α → β} {s : Set α} (hf : StrictMonoOn f s) {a b : α}
    (ha : a ∈ s) (hb : b ∈ s) (operator : Operator) :
    operator.Holds (f a) (f b) ↔ operator.Holds a b := by
  cases operator with
  | equal => exact hf.eq_iff_eq ha hb
  | notEqual => exact not_congr (hf.eq_iff_eq ha hb)
  | greater => exact hf.lt_iff_lt hb ha
  | greaterOrEqual => exact hf.le_iff_le hb ha
  | less => exact hf.lt_iff_lt ha hb
  | lessOrEqual => exact hf.le_iff_le ha hb
  | minus => exact Iff.rfl

end Operator

end Ordered

/-! ### Floating point numbers -/

namespace Binary64

/-- Finite numbers are ordered as their values are. -/
theorem order?_of_isFinite {x y : Binary64} (hx : x.isFinite = true) (hy : y.isFinite = true) :
    order? x y = some (compare x.toRat y.toRat) := by
  have hmono : StrictMonoOn (fun rank : Int => mkRat rank unitsInOne) Set.univ := by
    have hunits : (0 : Rat) < unitsInOne := by exact_mod_cast unitsInOne_pos
    intro a _ b _ hab
    change mkRat a unitsInOne < mkRat b unitsInOne
    rw [Rat.mkRat_eq_div, Rat.mkRat_eq_div]
    exact div_lt_div_of_pos_right (by exact_mod_cast hab) hunits
  rw [toRat, toRat, compare_of_strictMonoOn hmono (Set.mem_univ _) (Set.mem_univ _)]
  cases x with
  | finite _ _ _ =>
    cases y with
    | finite _ _ _ => rfl
    | _ => cases hy
  | _ => cases hx

/-- They are equal in the order when their values are. -/
theorem order?_eq_iff {x y : Binary64} (hx : x.isFinite = true) (hy : y.isFinite = true) :
    order? x y = some .eq ↔ x.toRat = y.toRat := by
  rw [order?_of_isFinite hx hy, Option.some.injEq, compare_eq_iff_eq]

/-- The place of a number among the rational numbers and two infinities; `nan` has none. -/
def extended? : Binary64 → Option (WithBot (WithTop Rat))
  | .nan => none
  | .infinite negative => some (if negative then ⊥ else ⊤)
  | x@(.finite _ _ _) => some (x.toRat : WithTop Rat)

theorem extended?_of_isFinite {x : Binary64} (h : x.isFinite = true) :
    x.extended? = some (x.toRat : WithTop Rat) := by
  cases x with
  | finite _ _ _ => rfl
  | _ => cases h

/-- The place in units: the infinities stand beyond all finite magnitudes. -/
def placeOfRank (rank : Int) : WithBot (WithTop Rat) :=
  if rank ≤ -(unitLimit : Int) then ⊥
  else if (unitLimit : Int) ≤ rank then ⊤
  else ((rank / unitsInOne : Rat) : WithTop Rat)

theorem strictMonoOn_placeOfRank :
    StrictMonoOn placeOfRank (Set.Icc (-(unitLimit : Int)) unitLimit) := by
  have hlimit : (0 : Int) < unitLimit := by exact_mod_cast unitLimit_pos
  have hunits : (0 : Rat) < unitsInOne := by exact_mod_cast unitsInOne_pos
  intro a ha b hb hab
  obtain ⟨haLow, haHigh⟩ := ha
  obtain ⟨hbLow, hbHigh⟩ := hb
  have hb' : ¬b ≤ -(unitLimit : Int) := by omega
  have ha' : ¬(unitLimit : Int) ≤ a := by omega
  simp only [placeOfRank, if_neg hb', if_neg ha']
  split
  · split <;> exact WithBot.bot_lt_coe _
  · split
    · exact WithBot.coe_lt_coe.mpr (WithTop.coe_lt_top _)
    · rw [WithBot.coe_lt_coe, WithTop.coe_lt_coe]
      exact div_lt_div_of_pos_right (by exact_mod_cast hab) hunits

/-- A rank lies from one infinity to the other, and gives the place of the number. -/
theorem rank?_mem {x : Binary64} {rank : Int} (h : x.rank? = some rank) :
    rank ∈ Set.Icc (-(unitLimit : Int)) unitLimit ∧ x.extended? = some (placeOfRank rank) := by
  have hlimit : (0 : Int) < unitLimit := by exact_mod_cast unitLimit_pos
  cases x with
  | nan => cases h
  | infinite negative =>
    cases negative with
    | true =>
      cases h
      exact ⟨⟨le_refl _, by omega⟩, by simp [extended?, placeOfRank]⟩
    | false =>
      cases h
      refine ⟨⟨by omega, le_refl _⟩, ?_⟩
      have hlow : ¬(unitLimit : Int) ≤ -(unitLimit : Int) := by omega
      simp [extended?, placeOfRank, hlow]
  | finite negative units hunits =>
    have hrank : rank = (finite negative units hunits).signedUnits := by
      cases h
      rfl
    have hlt : (units : Int) < unitLimit := by exact_mod_cast hunits.2
    have hbounds : -(unitLimit : Int) < rank ∧ rank < unitLimit := by
      rw [hrank, signedUnits]
      split <;> omega
    refine ⟨⟨le_of_lt hbounds.1, le_of_lt hbounds.2⟩, ?_⟩
    rw [placeOfRank, if_neg (by omega), if_neg (by omega), extended?_of_isFinite rfl, toRat,
      Rat.mkRat_eq_div, ← hrank]
    norm_cast

end Binary64

namespace Operator

/-- What the operator says of two floating point numbers: with `nan` only "not equal"
holds. -/
def HoldsOfNumbers (operator : Operator) (x y : Binary64) : Prop :=
  match x.extended?, y.extended? with
  | some a, some b => operator.Holds a b
  | _, _ => operator = .notEqual

instance (operator : Operator) (x y : Binary64) : Decidable (operator.HoldsOfNumbers x y) :=
  match hx : x.extended?, hy : y.extended? with
  | some a, some b => decidable_of_iff (operator.Holds a b) (by simp only [HoldsOfNumbers, hx, hy])
  | some _, none => decidable_of_iff (operator = .notEqual) (by simp only [HoldsOfNumbers, hx, hy])
  | none, _ => decidable_of_iff (operator = .notEqual) (by simp only [HoldsOfNumbers, hx])

/-- Finite numbers compare as their values do. -/
theorem holdsOfNumbers_iff {operator : Operator} {x y : Binary64} (hx : x.isFinite = true)
    (hy : y.isFinite = true) : operator.HoldsOfNumbers x y ↔ operator.Holds x.toRat y.toRat := by
  have hmono : StrictMonoOn (fun q : Rat => ((q : WithTop Rat) : WithBot (WithTop Rat))) Set.univ :=
    fun a _ b _ hab => WithBot.coe_lt_coe.mpr (WithTop.coe_lt_coe.mpr hab)
  simp only [HoldsOfNumbers, Binary64.extended?_of_isFinite hx, Binary64.extended?_of_isFinite hy]
  exact holds_iff_of_strictMonoOn hmono (Set.mem_univ _) (Set.mem_univ _) operator

/-- Without `nan`, numbers compare as their ranks. -/
theorem holdsOfNumbers_of_rank {operator : Operator} {x y : Binary64} {a b : Int}
    (hx : x.rank? = some a) (hy : y.rank? = some b) :
    operator.HoldsOfNumbers x y ↔ operator.Holds a b := by
  obtain ⟨ha, hxPlace⟩ := Binary64.rank?_mem hx
  obtain ⟨hb, hyPlace⟩ := Binary64.rank?_mem hy
  simp only [HoldsOfNumbers, hxPlace, hyPlace]
  exact holds_iff_of_strictMonoOn Binary64.strictMonoOn_placeOfRank ha hb operator

/-- With `nan` only "not equal" holds. -/
theorem compareNumbers_of_unordered {operator : Operator} {x y : Binary64}
    (hop : operator ≠ .minus) (h : Binary64.order? x y = none) :
    operator.compareNumbers x y = .ok (decide (operator = .notEqual)) := by
  cases operator with
  | minus => exact absurd rfl hop
  | _ => simp [compareNumbers, h]

/-- **Comparing numbers decides what the operator says of them.** -/
theorem compareNumbers_eq {operator : Operator} (hop : operator ≠ .minus) (x y : Binary64) :
    operator.compareNumbers x y = .ok (decide (operator.HoldsOfNumbers x y)) := by
  cases horder : Binary64.order? x y with
  | none =>
    have hnan : operator.HoldsOfNumbers x y ↔ operator = .notEqual := by
      rcases Binary64.order?_eq_none_iff.mp horder with rfl | rfl
      · exact Iff.rfl
      · unfold HoldsOfNumbers
        cases x.extended? <;> exact Iff.rfl
    rw [compareNumbers_of_unordered hop horder, decide_eq_decide.mpr hnan]
  | some order =>
    have haccepts := compareNumbers_of_order horder hop
    unfold Binary64.order? at horder
    split at horder
    · rename_i a b hx hy
      have hcompare : compare a b = order := by simpa using horder
      rw [← hcompare, accepts_compare hop a b] at haccepts
      rw [decide_eq_decide.mpr (holdsOfNumbers_of_rank hx hy)]
      cases hresult : operator.compareNumbers x y with
      | error e => rw [hresult] at haccepts; cases haccepts
      | ok holds => rw [hresult] at haccepts; cases haccepts; rfl
    · cases horder

end Operator

end Spreadsheet
