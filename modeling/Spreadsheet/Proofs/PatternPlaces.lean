/-
# What the items of a section ask for

A section of a number pattern is described by its items as they stand: which places
and commas are before the point, which places are after it, and which symbols
multiply the number. The counts that the section works with are these.

* `grouped_iff` — digits are grouped exactly when a comma has a place on both sides.
* `scalingCommas_eq` — a comma divides by a thousand exactly when it has a place
  before it and none after it.
* `minWhole_eq`, `minFraction_eq` — the zeros of the section that are always shown.
-/

import Mathlib.Data.List.TakeWhile
import Spreadsheet.Format.NumberPattern

namespace Spreadsheet

/-! ### The items of a section, as they stand -/

namespace Items

/-- The items before the point. -/
def beforePoint (items : List Item) : List Item :=
  items.takeWhile (· != .point)

/-- The items after the point; none when there is no point. -/
def afterPoint (items : List Item) : List Item :=
  (items.dropWhile (· != .point)).drop 1

/-- The number of places for digits. -/
def countPlaces (items : List Item) : Nat :=
  items.countP Item.isDigit

/-- The number of places from the first one that shows zeros on. -/
def placesFromZero (items : List Item) : Nat :=
  countPlaces (items.dropWhile (· != .digit true))

/-- A comma has a place for a digit on both of its sides. -/
def Separated (items : List Item) : Prop :=
  ∃ before after, items = before ++ .comma :: after ∧
    before.any Item.isDigit = true ∧ after.any Item.isDigit = true

/-- The number of commas with a place for a digit before them and none after them.
The flag says that a place was passed already. -/
def countScaling : (passed : Bool) → List Item → Nat
  | _, [] => 0
  | passed, item :: rest =>
    (if item = .comma ∧ passed = true ∧ rest.any Item.isDigit = false then 1 else 0) +
      countScaling (passed || item.isDigit) rest

/-- The power of ten that the percent and per mille symbols and the commas of a
section multiply a number by. -/
def scale (items : List Item) : Int :=
  2 * items.count .percent + 3 * items.count .perMille -
    3 * countScaling false (beforePoint items)

/-- The point splits the items. -/
theorem beforePoint_append (items : List Item) :
    items = beforePoint items ++ if .point ∈ items then .point :: afterPoint items else [] := by
  induction items with
  | nil => rfl
  | cons item rest ih =>
    by_cases hpoint : item = .point
    · subst hpoint
      simp [beforePoint, afterPoint]
    · have hbefore : beforePoint (item :: rest) = item :: beforePoint rest := by
        simp [beforePoint, hpoint]
      have hafter : afterPoint (item :: rest) = afterPoint rest := by
        simp [afterPoint, hpoint]
      have hmem : Item.point ∈ item :: rest ↔ Item.point ∈ rest := by
        rw [List.mem_cons]
        exact or_iff_right (Ne.symm hpoint)
      rw [hbefore, hafter, List.cons_append]
      simp only [hmem]
      rw [← ih]

theorem mem_of_mem_beforePoint {items : List Item} {item : Item} (h : item ∈ beforePoint items) :
    item ∈ items :=
  (List.takeWhile_sublist _).subset h

theorem mem_of_mem_afterPoint {items : List Item} {item : Item} (h : item ∈ afterPoint items) :
    item ∈ items :=
  (List.dropWhile_sublist _).subset (List.mem_of_mem_drop h)

theorem afterPoint_of_notMem {items : List Item} (h : Item.point ∉ items) :
    afterPoint items = [] := by
  have hall : ∀ item ∈ items, (item != .point) = true := by
    intro item hmem
    rw [bne_iff_ne]
    rintro rfl
    exact h hmem
  rw [afterPoint, List.dropWhile_eq_nil_iff.mpr hall, List.drop_nil]

theorem point_notMem_beforePoint (items : List Item) : Item.point ∉ beforePoint items := by
  intro hmem
  have hall := List.all_takeWhile (p := (· != Item.point)) (l := items)
  exact absurd (List.all_eq_true.mp hall _ hmem) (by simp)

/-- Only the first point of a section is kept. -/
theorem point_notMem_afterPoint (items : List Item) :
    Item.point ∉ afterPoint (firstPointOnly items) := by
  induction items with
  | nil => simp [firstPointOnly, afterPoint]
  | cons item rest ih =>
    rw [firstPointOnly]
    by_cases hpoint : item = .point
    · rw [if_pos hpoint, hpoint, afterPoint, List.dropWhile_cons_of_neg (by simp), List.drop_one,
        List.tail_cons]
      simp
    · rw [if_neg hpoint, afterPoint, List.dropWhile_cons_of_pos (by simpa using hpoint),
        ← afterPoint]
      exact ih

theorem beforePoint_firstPointOnly (items : List Item) :
    beforePoint (firstPointOnly items) = beforePoint items := by
  induction items with
  | nil => rfl
  | cons item rest ih =>
    by_cases hpoint : item = .point
    · subst hpoint
      rfl
    · rw [beforePoint, beforePoint] at ih ⊢
      rw [firstPointOnly, if_neg hpoint, List.takeWhile_cons_of_pos (by simpa using hpoint), ih,
        List.takeWhile_cons_of_pos (by simpa using hpoint)]

/-! ### Bare characters -/

theorem ofChar_eq_point_iff {c : Char} : Item.ofChar c = .point ↔ c = '.' := by
  unfold Item.ofChar
  split_ifs <;> simp_all

/-- Of characters that stand for themselves a full stop is the point. -/
theorem ofChar_bne_point : (· != Item.point) ∘ Item.ofChar = (· != '.') := by
  funext c
  rw [Function.comp_apply, Bool.eq_iff_iff, bne_iff_ne, bne_iff_ne, Ne, Ne, ofChar_eq_point_iff]

theorem beforePoint_map_ofChar (text : Text) :
    beforePoint (text.map Item.ofChar) = (text.takeWhile (· != '.')).map Item.ofChar := by
  rw [beforePoint, List.takeWhile_map, ofChar_bne_point]

theorem afterPoint_map_ofChar (text : Text) :
    afterPoint (text.map Item.ofChar) =
      ((text.dropWhile (· != '.')).drop 1).map Item.ofChar := by
  rw [afterPoint, List.dropWhile_map, ofChar_bne_point, List.map_drop]

/-! ### Counting places -/

/-- The points after the first are no places. -/
theorem countPlaces_firstPointOnly (items : List Item) :
    countPlaces (firstPointOnly items) = countPlaces items := by
  induction items with
  | nil => rfl
  | cons item rest ih =>
    rw [countPlaces, countPlaces] at ih ⊢
    rw [firstPointOnly]
    split
    · rw [List.countP_cons, List.countP_cons, List.countP_filter]
      congr 1
      refine List.countP_congr fun other _ => ?_
      cases other <;> simp [Item.isDigit]
    · rw [List.countP_cons, List.countP_cons, ih]

/-- The places are before the point or after it. -/
theorem countPlaces_before_add_after (items : List Item) :
    countPlaces (beforePoint items) + countPlaces (afterPoint items) = countPlaces items := by
  conv => rhs; rw [beforePoint_append items]
  rw [countPlaces, countPlaces, countPlaces, List.countP_append]
  split
  · rw [List.countP_cons_of_neg (by simp [Item.isDigit])]
  · rename_i hnone
    rw [afterPoint_of_notMem hnone]

/-- So the places after the first point stay what they are. -/
theorem countPlaces_afterPoint_firstPointOnly (items : List Item) :
    countPlaces (afterPoint (firstPointOnly items)) = countPlaces (afterPoint items) := by
  have hall := countPlaces_firstPointOnly items
  rw [← countPlaces_before_add_after, ← countPlaces_before_add_after items,
    beforePoint_firstPointOnly] at hall
  exact Nat.add_left_cancel hall

theorem filterMap_zero?_digit (zero : Bool) (items : List Item) :
    (Item.digit zero :: items).filterMap Item.zero? = zero :: items.filterMap Item.zero? := rfl

theorem filterMap_zero?_other {item : Item} (h : item.isDigit = false) (items : List Item) :
    (item :: items).filterMap Item.zero? = items.filterMap Item.zero? := by
  cases item with
  | digit zero => cases h
  | _ => rfl

theorem length_filterMap_zero? (items : List Item) :
    (items.filterMap Item.zero?).length = countPlaces items := by
  induction items with
  | nil => rfl
  | cons item rest ih =>
    rw [countPlaces] at ih ⊢
    cases item with
    | digit zero =>
      rw [filterMap_zero?_digit, List.length_cons, ih, List.countP_cons_of_pos rfl]
    | _ => rw [filterMap_zero?_other rfl, ih, List.countP_cons_of_neg (by simp [Item.isDigit])]

/-- The places from the first zero on, counted among the places or among the items. -/
theorem length_dropWhile_filterMap_zero? (items : List Item) :
    ((items.filterMap Item.zero?).dropWhile (fun zero => !zero)).length =
      placesFromZero items := by
  induction items with
  | nil => rfl
  | cons item rest ih =>
    rw [placesFromZero] at ih ⊢
    cases item with
    | digit zero =>
      rw [filterMap_zero?_digit]
      cases zero with
      | true =>
        rw [List.dropWhile_cons_of_neg (by simp), List.dropWhile_cons_of_neg (by simp),
          ← filterMap_zero?_digit, length_filterMap_zero?]
      | false =>
        rw [List.dropWhile_cons_of_pos (by simp), ih, List.dropWhile_cons_of_pos (by simp)]
    | _ => rw [filterMap_zero?_other rfl, ih, List.dropWhile_cons_of_pos (by simp)]

/-! ### Commas -/

/-- Dropping up to the first place keeps a part of the items that starts with it. -/
theorem dropWhile_append_of_any {before : List Item} (h : before.any Item.isDigit = true)
    (after : List Item) :
    (before ++ after).dropWhile (fun item => !item.isDigit) =
      before.dropWhile (fun item => !item.isDigit) ++ after := by
  induction before with
  | nil => cases h
  | cons item rest ih =>
    by_cases hdigit : item.isDigit = true
    · simp [hdigit]
    · have hrest : rest.any Item.isDigit = true := by simpa [hdigit] using h
      simp [hdigit, ih hrest]

theorem takeWhile_append_of_any {before : List Item} (h : before.any Item.isDigit = true)
    (after : List Item) :
    (before ++ after).takeWhile (fun item => !item.isDigit) =
      before.takeWhile (fun item => !item.isDigit) := by
  induction before with
  | nil => cases h
  | cons item rest ih =>
    by_cases hdigit : item.isDigit = true
    · simp [hdigit]
    · have hrest : rest.any Item.isDigit = true := by simpa [hdigit] using h
      simp [hdigit, ih hrest]

/-- What is left from the first place on starts with that place. -/
theorem any_of_dropWhile_eq {items front back : List Item}
    (h : items.dropWhile (fun item => !item.isDigit) = front ++ .comma :: back) :
    front.any Item.isDigit = true := by
  have hhead := List.head?_dropWhile_not (fun item : Item => !item.isDigit) items
  rw [h] at hhead
  cases front with
  | nil => simp [Item.isDigit] at hhead
  | cons item rest => simpa using Or.inl hhead

/-- Between the first place and the last one there is a comma exactly when a comma has
a place on both of its sides. -/
theorem separated_iff (items : List Item) :
    ((items.dropWhile (fun item => !item.isDigit)).reverse.dropWhile
      (fun item => !item.isDigit)).contains .comma = true ↔ Separated items := by
  rw [List.contains_iff_mem]
  constructor
  · intro hmem
    obtain ⟨after, before, hbetween⟩ := List.append_of_mem hmem
    have hfront := List.takeWhile_append_dropWhile (p := fun item : Item => !item.isDigit)
      (l := items)
    have hback := List.takeWhile_append_dropWhile (p := fun item : Item => !item.isDigit)
      (l := (items.dropWhile (fun item => !item.isDigit)).reverse)
    rw [hbetween] at hback
    have hrest : items.dropWhile (fun item => !item.isDigit) = before.reverse ++ .comma ::
        (after.reverse ++ ((items.dropWhile (fun item => !item.isDigit)).reverse.takeWhile
          (fun item => !item.isDigit)).reverse) := by
      have hreverse := congrArg List.reverse hback
      simpa using hreverse.symm
    have hafter := any_of_dropWhile_eq hbetween
    have hbefore := any_of_dropWhile_eq hrest
    rw [hrest, ← List.append_assoc] at hfront
    refine ⟨_, _, hfront.symm, ?_, ?_⟩
    · rw [List.any_append, hbefore, Bool.or_true]
    · rw [List.any_append, List.any_reverse, hafter, Bool.true_or]
  · rintro ⟨before, after, rfl, hbefore, hafter⟩
    rw [dropWhile_append_of_any hbefore, List.reverse_append, List.reverse_cons, List.append_assoc,
      dropWhile_append_of_any (by rwa [List.any_reverse])]
    simp

instance (items : List Item) : Decidable (Separated items) :=
  decidable_of_iff _ (separated_iff items)

/-- After a place, the commas that scale are those behind the last place. -/
theorem countScaling_true (items : List Item) :
    countScaling true items =
      (items.reverse.takeWhile (fun item => !item.isDigit)).count .comma := by
  induction items with
  | nil => rfl
  | cons item rest ih =>
    rw [countScaling, Bool.true_or, ih, List.reverse_cons]
    by_cases hany : rest.any Item.isDigit = true
    · rw [takeWhile_append_of_any (by rwa [List.any_reverse]), hany]
      simp
    · have hnone : ∀ other ∈ rest.reverse, (!other.isDigit) = true := by
        simpa using hany
      rw [List.takeWhile_append_of_pos hnone, List.takeWhile_eq_self_iff.mpr hnone,
        List.count_append, Bool.eq_false_iff.mpr hany, Nat.add_comm]
      cases item <;> simp [Item.isDigit]

/-- The commas that scale are those behind the last place, when there is one. -/
theorem countScaling_false (items : List Item) :
    countScaling false items =
      ((items.dropWhile (fun item => !item.isDigit)).reverse.takeWhile
        (fun item => !item.isDigit)).count .comma := by
  induction items with
  | nil => rfl
  | cons item rest ih =>
    rw [countScaling, Bool.false_or]
    by_cases hdigit : item.isDigit = true
    · have hcomma : item ≠ .comma := by
        rintro rfl
        cases hdigit
      have hlast := countScaling_true (item :: rest)
      rw [countScaling, Bool.true_or, if_neg (fun h => hcomma h.1)] at hlast
      rw [hdigit, List.dropWhile_cons_of_neg (by simp [hdigit]), ← hlast,
        if_neg (fun h => hcomma h.1)]
    · rw [Bool.eq_false_iff.mpr hdigit, ih, List.dropWhile_cons_of_pos (by simpa using hdigit)]
      simp

/-- Without commas nothing divides. -/
theorem countScaling_eq_zero {items : List Item} (h : Item.comma ∉ items) :
    countScaling false items = 0 := by
  rw [countScaling_false, List.count_eq_zero]
  intro hmem
  have hrest := List.mem_reverse.mp ((List.takeWhile_sublist _).subset hmem)
  exact h ((List.dropWhile_sublist _).subset hrest)

/-! ### Symbols -/

/-- The symbols that multiply, counted. -/
theorem foldl_power (items : List Item) (start : Nat) :
    (items.map Item.power).foldl (· + ·) start =
      start + (2 * items.count .percent + 3 * items.count .perMille) := by
  induction items generalizing start with
  | nil => rfl
  | cons item rest ih =>
    rw [List.map_cons, List.foldl_cons, ih]
    cases item <;> simp [Item.power] <;> omega

end Items

/-! ### What a section works with -/

namespace NumberPattern

open Items

variable {pattern : NumberPattern}

theorem isExponent_of_mem_mantissa {item : Item} (h : item ∈ pattern.mantissa) :
    item.isExponent = false := by
  simpa using List.mem_takeWhile_imp h

theorem wholeItems_eq_beforePoint (pattern : NumberPattern) :
    pattern.wholeItems = beforePoint pattern.mantissa := rfl

theorem fractionItems_eq_afterPoint (pattern : NumberPattern) :
    pattern.fractionItems = afterPoint pattern.mantissa := rfl

/-- Without an exponent all items belong to the number. -/
theorem mantissa_eq (h : ∀ item ∈ pattern.items, item.isExponent = false) :
    pattern.mantissa = pattern.items := by
  rw [mantissa, List.takeWhile_eq_self_iff]
  intro item hmem
  rw [h item hmem, Bool.not_false]

theorem wholeItems_eq (h : ∀ item ∈ pattern.items, item.isExponent = false) :
    pattern.wholeItems = beforePoint pattern.items := by
  rw [wholeItems, mantissa_eq h, beforePoint]

theorem fractionItems_eq (h : ∀ item ∈ pattern.items, item.isExponent = false) :
    pattern.fractionItems = afterPoint pattern.items := by
  rw [fractionItems, mantissa_eq h, afterPoint]

theorem isScientific_eq_false (h : ∀ item ∈ pattern.items, item.isExponent = false) :
    pattern.isScientific = false := by
  rw [isScientific, List.any_eq_false]
  intro item hmem
  rw [h item hmem]
  exact Bool.false_ne_true

theorem length_wholePlaces (pattern : NumberPattern) :
    pattern.wholePlaces.length = countPlaces pattern.wholeItems :=
  length_filterMap_zero? _

theorem minWhole_eq (pattern : NumberPattern) :
    pattern.minWhole = placesFromZero pattern.wholeItems :=
  length_dropWhile_filterMap_zero? _

theorem maxFraction_eq (pattern : NumberPattern) :
    pattern.maxFraction = countPlaces pattern.fractionItems :=
  length_filterMap_zero? _

theorem minFraction_eq (pattern : NumberPattern) :
    pattern.minFraction = placesFromZero pattern.fractionItems.reverse := by
  rw [minFraction, fractionPlaces, ← List.filterMap_reverse, length_dropWhile_filterMap_zero?]

theorem grouped_iff (pattern : NumberPattern) :
    pattern.grouped = true ↔ Separated pattern.wholeItems :=
  separated_iff _

theorem scalingCommas_eq (pattern : NumberPattern) :
    pattern.scalingCommas = countScaling false pattern.wholeItems :=
  (countScaling_false _).symm

/-- Symbols multiply wherever they stand, and commas divide in front of the point and of an
exponent. -/
theorem power_eq_count (pattern : NumberPattern) :
    pattern.power = 2 * pattern.items.count .percent + 3 * pattern.items.count .perMille -
      3 * countScaling false pattern.wholeItems := by
  rw [power, foldl_power, scalingCommas_eq, Nat.zero_add]
  push_cast
  rfl

theorem power_eq (h : ∀ item ∈ pattern.items, item.isExponent = false) :
    pattern.power = scale pattern.items := by
  rw [power_eq_count, wholeItems_eq h, scale]

end NumberPattern

end Spreadsheet
