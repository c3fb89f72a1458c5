/-
# Numbers under a pattern

A number is scaled and rounded as a section of a pattern asks, and its digits are
then laid out along the items of the section. The layout keeps, for each item,
the text that the item contributes, so that digits and literals stay apart.

* `items_layout` — the layout goes through the items of the section in order.
* `formatNumber_not_finite` — what is not finite is shown as an error.
-/

import Spreadsheet.Format.General
import Spreadsheet.Format.NumberPattern
import Spreadsheet.Format.Section
import Spreadsheet.Text.Blank

namespace Spreadsheet

/-! ### The digits that are shown -/

/-- The digits of a number as a section shows them: before the point, after it,
and the exponent; and whether all that is left after rounding is zero. -/
structure ShownNumber where
  whole : List Nat
  fraction : List Nat
  exponent : Int
  isZero : Bool

namespace NumberPattern

/-- The magnitude that is shown, with its exponent. A section with an exponent
shows as many digits before the point as it has places there, at least one. -/
def rounded (pattern : NumberPattern) (x : Binary64) : Decimal × Int :=
  let scaled := (Decimal.ofBinary64 x).shift pattern.power
  if pattern.isScientific then
    let lead : Int := max pattern.wholePlaces.length 1
    let d := scaled.round (lead + pattern.maxFraction - scaled.scale)
    if d.isZero then (d, 0) else ({ d with scale := lead }, d.scale - lead)
  else (scaled.round pattern.maxFraction, 0)

/-- Zeros in front, up to the least number of digits. -/
def padWhole (least : Nat) (digits : List Nat) : List Nat :=
  List.replicate (least - digits.length) 0 ++ digits

/-- The digits without the zeros at their end, down to the least number. -/
def trimFraction (least : Nat) (digits : List Nat) : List Nat :=
  digits.take least ++ Decimal.dropFinalZeros (digits.drop least)

/-- The digits of the magnitude of a number under the section. -/
def shown (pattern : NumberPattern) (x : Binary64) : ShownNumber :=
  let (d, exponent) := pattern.rounded x
  { whole := padWhole pattern.minWhole d.integerDigits
    fraction := trimFraction pattern.minFraction (d.fractionDigits pattern.maxFraction)
    exponent
    isZero := d.isZero }

end NumberPattern

/-! ### The layout -/

/-- The digits before the point, each with the group separator that follows it. -/
def wholeGlyphs (separator : Option Char) : List Nat → List Text
  | [] => []
  | digit :: rest =>
    (Nat.digitChar digit ::
        if rest.length ≠ 0 ∧ rest.length % 3 = 0 then separator.toList else []) ::
      wholeGlyphs separator rest

/-- The exponent: its marker, its sign, and its digits with leading zeros. -/
def exponentText (locale : Locale) (marker : Char) (plus : Bool) (width : Nat) (exponent : Int) :
    Text :=
  marker :: (if exponent < 0 then locale.negativeSign else if plus then ['+'] else []) ++
    Text.number width exponent.natAbs

/-- What is left to lay out: digits before the point, the places for them, digits
after the point; and how far along the section the layout is. -/
structure LayoutState where
  glyphs : List Text
  places : Nat
  fraction : Text
  inFraction : Bool
  afterExponent : Bool

namespace LayoutState

/-- A place before the point takes the digits that the places after it do not
need. -/
def takeWhole (state : LayoutState) : Text × LayoutState :=
  let count := state.glyphs.length - (state.places - 1)
  ((state.glyphs.take count).flatten,
    { state with glyphs := state.glyphs.drop count, places := state.places - 1 })

/-- A place after the point takes the next digit there. -/
def takeFraction (state : LayoutState) : Text × LayoutState :=
  (state.fraction.take 1, { state with fraction := state.fraction.drop 1 })

/-- The point takes the digits that found no place before it, and shows the
separator when digits follow. -/
def takePoint (locale : Locale) (state : LayoutState) : Text × LayoutState :=
  (state.glyphs.flatten ++ (if state.fraction.isEmpty then [] else [locale.decimalSeparator]),
    { state with glyphs := [], inFraction := true })

/-- The text of an item, and what is left after it. Places after the exponent
belong to it and show nothing. -/
def step (locale : Locale) (exponent : Int) (state : LayoutState) :
    Item → Text × LayoutState
  | .digit _ =>
    if state.afterExponent then ([], state)
    else if state.inFraction then state.takeFraction
    else state.takeWhole
  | .point => state.takePoint locale
  | .comma => ([], state)
  | .percent => (locale.percentSymbol, state)
  | .perMille => (locale.perMilleSymbol, state)
  | .exponent marker plus width =>
    (exponentText locale marker plus width exponent, { state with afterExponent := true })
  | .literal text => (text, state)

/-- The items with their texts. -/
def layout (locale : Locale) (exponent : Int) (state : LayoutState) :
    List Item → List (Item × Text)
  | [] => []
  | item :: rest =>
    (item, (state.step locale exponent item).1)
      :: layout locale exponent (state.step locale exponent item).2 rest

/-- The layout goes through the items in order. -/
theorem items_layout (locale : Locale) (exponent : Int) (state : LayoutState) (items : List Item) :
    (state.layout locale exponent items).map Prod.fst = items := by
  induction items generalizing state with
  | nil => rfl
  | cons item rest ih => rw [layout, List.map_cons, ih]

end LayoutState

namespace NumberPattern

/-- Where the layout of a number starts. -/
def start (pattern : NumberPattern) (locale : Locale) (shown : ShownNumber) : LayoutState where
  glyphs := wholeGlyphs (if pattern.grouped then some locale.groupSeparator else none) shown.whole
  places := pattern.wholePlaces.length
  fraction := Digits.text shown.fraction
  inFraction := false
  afterExponent := false

/-- The items of the section with the texts they have for a number. -/
def layout (pattern : NumberPattern) (locale : Locale) (x : Binary64) : List (Item × Text) :=
  (pattern.start locale (pattern.shown x)).layout locale (pattern.shown x).exponent pattern.items

/-- The magnitude of a number under the section. -/
def text (pattern : NumberPattern) (locale : Locale) (x : Binary64) : Text :=
  (pattern.layout locale x).flatMap Prod.snd

end NumberPattern

/-! ### Sections and signs -/

/-- A section that shows something, if the pattern has it. -/
def filledSection? (pattern : Text) (index : Nat) : Option Text :=
  ((sections pattern)[index]?).filter (fun part => !part.isEmpty)

/-- The section for a number, and whether a negative number gets a sign in it. The
second section is for negative numbers and the third for zero; an empty one
leaves them to the first. -/
def sectionFor (pattern : Text) (x : Binary64) : Text × Bool :=
  match (if x.isNegative then filledSection? pattern 1
    else if x.isZero then filledSection? pattern 2 else none) with
  | some part => (part, false)
  | none => ((sections pattern).headD [], true)

/-- A finite number under a pattern of up to three sections. A number that rounds
to zero is shown like zero if the pattern has a section for it, and has no sign in
any case. -/
def formatSection (locale : Locale) (pattern : Text) (x : Binary64) : Text :=
  let (part, signed) := sectionFor pattern x
  let chosen := NumberPattern.ofText part
  let isZero := (chosen.shown x).isZero
  match if isZero && !x.isZero then filledSection? pattern 2 else none with
  | some zeroPart => (NumberPattern.ofText zeroPart).text locale (.zero false)
  | none =>
    (if signed && x.isNegative && !isZero then locale.negativeSign else []) ++
      chosen.text locale x

/-- A number under a pattern. -/
def formatNumber (locale : Locale) (pattern : Text) (x : Binary64) : Text :=
  if !x.isFinite then numberError
  else if pattern.trim.equalsIgnoringAsciiCase generalName then formatGeneral locale x
  else if pattern.isEmpty then []
  else formatSection locale pattern x

/-- What is not finite is shown as an error, whatever the pattern. -/
theorem formatNumber_not_finite {locale : Locale} {pattern : Text} {x : Binary64}
    (h : x.isFinite = false) : formatNumber locale pattern x = numberError := by
  rw [formatNumber, h, Bool.not_false, if_pos rfl]

/-! ### Signs of negative sections -/

/-- Whether the text goes on with a parenthesis after the sign. -/
def signBeforeParenthesis (sign text : Text) : Bool :=
  match Text.afterLeading? sign text with
  | some rest => Text.startsWith rest ['(']
  | none => false

/-- Whether the pattern stands between parentheses. -/
def isParenthesised (pattern : Text) : Bool :=
  Text.startsWith pattern ['('] && Text.endsWith pattern [')']

/-- Whether the text starts with the sign twice. -/
def signDoubled (sign text : Text) : Bool :=
  match Text.afterLeading? sign text with
  | some rest => Text.startsWith rest sign
  | none => false

/-- A number under a pattern; an empty pattern shows nothing. -/
def formatPart (locale : Locale) (pattern : Text) (x : Binary64) : Text :=
  if pattern.isEmpty then [] else formatNumber locale pattern x

/-- A number under a template. With exactly three sections the one for the sign of
the number is taken as a pattern of its own. A sign that the pattern repeats, or
that stands before parentheses around the whole pattern, is dropped. -/
def formatSections (locale : Locale) (template : Text) (x : Binary64) : Text :=
  let sign := locale.negativeSign
  match sections template with
  | [positive, negative, zero] =>
    if x.isPositive then formatPart locale positive x
    else if x.isNegative then
      let shown := formatPart locale negative x
      if (signDoubled sign shown && Text.startsWith negative sign) ||
          (signBeforeParenthesis sign shown && isParenthesised negative) then
        shown.drop sign.length
      else shown
    else formatPart locale zero x
  | _ =>
    let shown := formatPart locale template x
    if signBeforeParenthesis sign shown && isParenthesised template then shown.drop sign.length
    else shown

end Spreadsheet
