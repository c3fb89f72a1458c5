/-
# Number patterns

One section of a number pattern, such as `#,##0.00` or `0.0E+00`. Reading it has
two steps: the text is cut into lexemes, which keep what they are made of, and
the lexemes are turned into items, of which only the first point counts.

What a section does to a number follows from its items: how many digits it shows
before and after the point, whether digits are grouped, and by which power of ten
the number is scaled first.

* `source_lexemes` — the lexemes put together are the pattern.
-/

import Spreadsheet.Text.Basic

namespace Spreadsheet

/-! ### Lexemes -/

/-- A piece of a pattern as it is written. -/
inductive Lexeme where
  | bare (c : Char)
  | escaped (c : Option Char)
  | quoted (quote : Char) (body : Text) (closed : Bool)
  | exponent (marker : Char) (sign : Option Char) (zeros : Nat)
deriving DecidableEq

namespace Lexeme

/-- The text of the piece. -/
def source : Lexeme → Text
  | bare c => [c]
  | escaped c => '\\' :: c.toList
  | quoted quote body closed => quote :: body ++ (if closed then [quote] else [])
  | exponent marker sign zeros => marker :: sign.toList ++ List.replicate zeros '0'

/-- The sign at the start of a text, if it starts with one, and the rest. -/
def splitSign : Text → Option Char × Text
  | [] => (none, [])
  | c :: rest => if c = '+' ∨ c = '-' then (some c, rest) else (none, c :: rest)

/-- The lexeme at the start of a text that begins with `c`, and the rest. -/
def first (c : Char) (rest : Text) : Lexeme × Text :=
  if c = '\\' then
    match rest with
    | [] => (.escaped none, [])
    | d :: left => (.escaped (some d), left)
  else if c = '"' ∨ c = '\'' then
    match rest.dropWhile (· != c) with
    | [] => (.quoted c rest false, [])
    | _ :: left => (.quoted c (rest.takeWhile (· != c)) true, left)
  else if c = 'E' ∨ c = 'e' then
    let (sign, unsigned) := splitSign rest
    let zeros := unsigned.takeWhile (· == '0')
    if zeros.isEmpty then (.bare c, rest)
    else (.exponent c sign zeros.length, unsigned.dropWhile (· == '0'))
  else (.bare c, rest)

/-- The sign and the rest make up the text. -/
theorem splitSign_append (text : Text) :
    (splitSign text).1.toList ++ (splitSign text).2 = text := by
  cases text with
  | nil => rfl
  | cons c rest =>
    rw [splitSign]
    split <;> rfl

/-- The first lexeme and the rest make up the text. -/
theorem source_first (c : Char) (rest : Text) :
    (first c rest).1.source ++ (first c rest).2 = c :: rest := by
  unfold first
  split
  · rename_i hc
    cases rest <;> simp [source, hc]
  · split
    · have hsplit := List.takeWhile_append_dropWhile (p := (· != c)) (l := rest)
      split
      · simp [source]
      · rename_i d left hdrop
        have hd : d = c := by
          have := List.head?_dropWhile_not (· != c) rest
          simpa [hdrop] using this
        rw [hdrop, hd] at hsplit
        simp [source, hsplit]
    · split
      · have hsign := splitSign_append rest
        have hzeros := List.takeWhile_append_dropWhile (p := (· == '0')) (l := (splitSign rest).2)
        have hrep : ∀ text : Text, List.replicate (text.takeWhile (· == '0')).length '0' =
            text.takeWhile (· == '0') := by
          intro text
          refine (List.eq_replicate_iff.2 ⟨rfl, fun d hd => ?_⟩).symm
          have hall := List.all_takeWhile (p := (· == '0')) (l := text)
          exact eq_of_beq (List.all_eq_true.1 hall d hd)
        dsimp only
        split
        · rfl
        · rw [source, hrep]
          simp only [List.cons_append, List.append_assoc]
          rw [hzeros, hsign]
      · rfl

theorem length_first (c : Char) (rest : Text) : (first c rest).2.length ≤ rest.length := by
  have h := congrArg List.length (source_first c rest)
  have hpos : 1 ≤ (first c rest).1.source.length := by
    cases (first c rest).1 <;> simp [source]
  simp only [List.length_append, List.length_cons] at h
  omega

end Lexeme

/-- The lexemes of a pattern. -/
def lexemes : Text → List Lexeme
  | [] => []
  | c :: rest => (Lexeme.first c rest).1 :: lexemes (Lexeme.first c rest).2
termination_by text => text.length
decreasing_by exact Nat.lt_succ_of_le (Lexeme.length_first c rest)

/-- The lexemes put together are the pattern. -/
theorem source_lexemes (pattern : Text) : (lexemes pattern).flatMap Lexeme.source = pattern := by
  fun_induction lexemes pattern with
  | case1 => rfl
  | case2 c rest ih => rw [List.flatMap_cons, ih, Lexeme.source_first]

/-! ### Items -/

/-- A part of a number pattern. -/
inductive Item where
  /-- A place for a digit, shown even when the digit is an outer zero if `zero`. -/
  | digit (zero : Bool)
  | point
  | comma
  | percent
  | perMille
  | exponent (marker : Char) (plus : Bool) (width : Nat)
  | literal (text : Text)
deriving DecidableEq

namespace Item

/-- The item of a bare character. -/
def ofChar (c : Char) : Item :=
  if c = '0' then .digit true
  else if c = '#' then .digit false
  else if c = '.' then .point
  else if c = ',' then .comma
  else if c = '%' then .percent
  else if c = '‰' then .perMille
  else .literal [c]

/-- The item of a lexeme. -/
def ofLexeme : Lexeme → Item
  | .bare c => ofChar c
  | .escaped c => .literal c.toList
  | .quoted _ body _ => .literal body
  | .exponent marker sign zeros => .exponent marker (sign == some '+') zeros

/-- Whether the item is a place for a digit. -/
def isDigit : Item → Bool
  | .digit _ => true
  | _ => false

/-- Whether the item is an exponent. -/
def isExponent : Item → Bool
  | .exponent _ _ _ => true
  | _ => false

/-- Whether the digit place shows an outer zero; `none` for other items. -/
def zero? : Item → Option Bool
  | .digit zero => some zero
  | _ => none

/-- The power of ten that the item multiplies the number by. -/
def power : Item → Nat
  | .percent => 2
  | .perMille => 3
  | _ => 0

end Item

/-- The items without every point after the first. -/
def firstPointOnly : List Item → List Item
  | [] => []
  | item :: rest =>
    if item = .point then item :: rest.filter (· ≠ .point) else item :: firstPointOnly rest

/-- A section of a number pattern. -/
structure NumberPattern where
  items : List Item

namespace NumberPattern

/-- The section that a text writes. -/
def ofText (text : Text) : NumberPattern :=
  ⟨firstPointOnly ((lexemes text).map Item.ofLexeme)⟩

/-! ### What a section asks for -/

/-- The items before the first exponent. -/
def mantissa (pattern : NumberPattern) : List Item :=
  pattern.items.takeWhile (fun item => !item.isExponent)

/-- The items before the point, and before the exponent. -/
def wholeItems (pattern : NumberPattern) : List Item :=
  pattern.mantissa.takeWhile (· != .point)

/-- The items between the point and the exponent. -/
def fractionItems (pattern : NumberPattern) : List Item :=
  (pattern.mantissa.dropWhile (· != .point)).drop 1

/-- The digit places before the point. -/
def wholePlaces (pattern : NumberPattern) : List Bool :=
  pattern.wholeItems.filterMap Item.zero?

/-- The digit places after the point. -/
def fractionPlaces (pattern : NumberPattern) : List Bool :=
  pattern.fractionItems.filterMap Item.zero?

/-- The least number of digits before the point: the places from the first that
shows zeros. -/
def minWhole (pattern : NumberPattern) : Nat :=
  (pattern.wholePlaces.dropWhile (fun zero => !zero)).length

/-- The greatest number of digits after the point. -/
def maxFraction (pattern : NumberPattern) : Nat :=
  pattern.fractionPlaces.length

/-- The least number of digits after the point: the places up to the last that
shows zeros. -/
def minFraction (pattern : NumberPattern) : Nat :=
  (pattern.fractionPlaces.reverse.dropWhile (fun zero => !zero)).length

/-- The items before the point, from the first digit place on. -/
def fromFirstPlace (pattern : NumberPattern) : List Item :=
  pattern.wholeItems.dropWhile (fun item => !item.isDigit)

/-- Whether digits are grouped: a comma stands between two digit places. -/
def grouped (pattern : NumberPattern) : Bool :=
  (pattern.fromFirstPlace.reverse.dropWhile (fun item => !item.isDigit)).contains .comma

/-- The commas after the last digit place, each of which divides by a thousand. -/
def scalingCommas (pattern : NumberPattern) : Nat :=
  (pattern.fromFirstPlace.reverse.takeWhile (fun item => !item.isDigit)).count .comma

/-- The power of ten that the number is multiplied by before it is shown. -/
def power (pattern : NumberPattern) : Int :=
  ((pattern.items.map Item.power).foldl (· + ·) 0 : Nat) - 3 * pattern.scalingCommas

/-- Whether the section shows an exponent. -/
def isScientific (pattern : NumberPattern) : Bool :=
  pattern.items.any Item.isExponent

end NumberPattern

end Spreadsheet
