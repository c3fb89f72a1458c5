/-
# What a fraction pattern asks for

The text of a fraction pattern is cut at its first slash. Before the slash stand the places of the
numerator, and in front of them the text that may have a place for the whole part; after the slash
stand the digits of a fixed denominator, or places. Blanks around these parts do not count. This
says what each part asks for, without a word on how the cuts are found, and reading a pattern
agrees with it.

* `Text.CutsStart`, `Text.CutsEnd` — the longest run at an end of a text.
* `FractionPattern.WrittenBy` — what a text asks for.
* `FractionPattern.writtenBy_iff` — every text asks for one thing, and reading it gives that.
-/

import Spreadsheet.Format.Fraction
import Spreadsheet.Proofs.TextCuts
import Spreadsheet.Proofs.WrittenNumber

namespace Spreadsheet

-- A power of a natural number is core's, whatever other instances are in scope.
attribute [local instance (high)] instPowNat

/-! ### Runs at the ends of a text -/

namespace Text

/-- The run is the longest one of its kind at the start of the text, in front of the rest. -/
structure CutsStart (kind : Char → Prop) (text run rest : Text) : Prop where
  eq : text = run ++ rest
  run : ∀ c ∈ run, kind c
  rest : ∀ c ∈ rest.head?, ¬kind c

/-- The run is the longest one of its kind at the end of the text, behind the front. -/
structure CutsEnd (kind : Char → Prop) (text front run : Text) : Prop where
  eq : text = front ++ run
  run : ∀ c ∈ run, kind c
  front : ∀ c ∈ front.getLast?, ¬kind c

section Kinds

variable {kind : Char → Prop} {is : Char → Bool} (his : ∀ c, is c = true ↔ kind c) {text : Text}
include his

theorem cutsStart_iff {run rest : Text} :
    CutsStart kind text run rest ↔ text.takeWhile is = run ∧ text.dropWhile is = rest := by
  constructor
  · rintro ⟨rfl, hrun, hrest⟩
    refine leadingRun_append (fun c hc => (his c).mpr (hrun c hc)) fun c hc => ?_
    rw [Bool.eq_false_iff, Ne, his]
    exact hrest c hc
  · rintro ⟨rfl, rfl⟩
    refine ⟨List.takeWhile_append_dropWhile.symm, fun c hc => ?_, fun c hc => ?_⟩
    · exact (his c).mp (List.mem_takeWhile_imp hc)
    · have hnot := List.head?_dropWhile_not is text
      rw [hc] at hnot
      rw [← his]
      exact Bool.eq_false_iff.mp hnot

theorem cutsEnd_iff {front run : Text} :
    CutsEnd kind text front run ↔
      text.dropTrailing is = front ∧ (text.reverse.takeWhile is).reverse = run := by
  have hreverse : CutsEnd kind text front run ↔
      CutsStart kind text.reverse run.reverse front.reverse := by
    constructor
    · rintro ⟨rfl, hrun, hfront⟩
      refine ⟨List.reverse_append, fun c hc => hrun c (List.mem_reverse.mp hc), fun c hc => ?_⟩
      rw [List.head?_reverse] at hc
      exact hfront c hc
    · rintro ⟨heq, hrun, hfront⟩
      rw [← List.reverse_append, List.reverse_inj] at heq
      refine ⟨heq, fun c hc => hrun c (List.mem_reverse.mpr hc), fun c hc => ?_⟩
      rw [List.head?_reverse] at hfront
      exact hfront c hc
  rw [hreverse, cutsStart_iff his, dropTrailing, List.reverse_eq_iff, List.reverse_eq_iff]
  exact and_comm

end Kinds

end Text

/-! ### What the parts ask for -/

namespace FractionPattern

open Text

/-- White space. -/
def Blank (c : Char) : Prop :=
  isBlank c = true

/-- A digit from 0 to 9. -/
def Digit (c : Char) : Prop :=
  c.isDigit = true

/-- A place for a digit. -/
def Place (c : Char) : Prop :=
  c = '?' ∨ c = '#' ∨ c = '0'

/-- What stands before and after the first slash; without a slash the denominator is a single
place. -/
inductive AroundSlash : (source before after : Text) → Prop
  | slash {before after : Text} : '/' ∉ before → AroundSlash (before ++ '/' :: after) before after
  | absent {source : Text} : '/' ∉ source → AroundSlash source source ['?']

/-- The parts of a pattern: what stands in front of the numerator, the places of the numerator,
and what starts with the denominator. -/
inductive Parts (source whole numerator denominator : Text) : Prop
  | mk {before after head margin margin' : Text} : AroundSlash source before after →
      CutsEnd Blank before head margin → CutsEnd Place head whole numerator →
      CutsStart Blank after margin' denominator → Parts source whole numerator denominator

/-- What a denominator asks for. Digits fix it, up to `2 ^ 53`, unless they write zero; otherwise
its places limit it, of which at most four count. -/
inductive HasDenominator (pattern : FractionPattern) (denominator : Text) : Prop
  | fixed {digits rest : Text} {n : Nat} : CutsStart Digit denominator digits rest →
      digits.Writes n → n ≠ 0 → pattern.fixed = some (min n (2 ^ (53 : Nat))) →
      pattern.maxDenominator = min n (2 ^ (53 : Nat)) →
      pattern.denominatorWidth = digits.length → HasDenominator pattern denominator
  | free {places rest : Text} : CutsStart Place denominator places rest →
      (∀ digits rest' n, CutsStart Digit denominator digits rest' → digits.Writes n → n = 0) →
      pattern.fixed = none → pattern.maxDenominator + 1 = 10 ^ min (max places.length 1) 4 →
      pattern.denominatorWidth = max places.length 1 → HasDenominator pattern denominator

/-- What a text asks for: a whole part when a digit place that is not blank stands in front of the
numerator, the width of the numerator, and the denominator. -/
inductive WrittenBy (pattern : FractionPattern) (source : Text) : Prop
  | mk {whole numerator denominator : Text} : Parts source whole numerator denominator →
      (pattern.hasWhole = true ↔ '#' ∈ whole ∨ '0' ∈ whole) →
      pattern.numeratorWidth = max numerator.length 1 →
      pattern.HasDenominator denominator → WrittenBy pattern source

/-! ### Reading the parts -/

theorem isPlace_iff (c : Char) : isPlace c = true ↔ Place c := by
  simp [isPlace, Place, or_assoc]

theorem AroundSlash.splitSlash_eq {source before after : Text}
    (h : AroundSlash source before after) : splitSlash source = (before, after) := by
  have hother : ∀ {text : Text}, '/' ∉ text → ∀ c ∈ text, (c == '/') = false := by
    intro text hnot c hc
    rw [beq_eq_false_iff_ne]
    rintro rfl
    exact hnot hc
  cases h with
  | slash hnot => rw [splitSlash, breakAt_append_cons (hother hnot) rfl]
  | absent hnot =>
    have hall : ∀ c ∈ source, (!(c == '/')) = true := fun c hc => by rw [hother hnot c hc]; rfl
    rw [splitSlash, breakAt, (leadingRun_eq_self hall).1, (leadingRun_eq_self hall).2]

theorem aroundSlash_splitSlash (source : Text) :
    AroundSlash source (splitSlash source).1 (splitSlash source).2 := by
  obtain ⟨before, after, h⟩ : ∃ before after, AroundSlash source before after := by
    by_cases hmem : '/' ∈ source
    · obtain ⟨before, after, rfl, hnot⟩ := List.eq_append_cons_of_mem hmem
      exact ⟨before, after, .slash hnot⟩
    · exact ⟨source, ['?'], .absent hmem⟩
  rw [h.splitSlash_eq]
  exact h

theorem parts_iff {source whole numerator denominator : Text} :
    Parts source whole numerator denominator ↔
      (splitSlash source).1.trimEnd.dropTrailing isPlace = whole ∧
      ((splitSlash source).1.trimEnd.reverse.takeWhile isPlace).reverse = numerator ∧
      (splitSlash source).2.trimStart = denominator := by
  have hblank : ∀ c, isBlank c = true ↔ Blank c := fun _ => Iff.rfl
  constructor
  · rintro ⟨hslash, hmargin, hplaces, hstart⟩
    rw [cutsEnd_iff hblank] at hmargin
    rw [cutsEnd_iff isPlace_iff] at hplaces
    rw [cutsStart_iff hblank] at hstart
    rw [hslash.splitSlash_eq, trimEnd, hmargin.1]
    exact ⟨hplaces.1, hplaces.2, hstart.2⟩
  · rintro ⟨rfl, rfl, rfl⟩
    exact .mk (aroundSlash_splitSlash source) ((cutsEnd_iff hblank).mpr ⟨rfl, rfl⟩)
      ((cutsEnd_iff isPlace_iff).mpr ⟨rfl, rfl⟩) ((cutsStart_iff hblank).mpr ⟨rfl, rfl⟩)

theorem fixedOf_eq (digits : Text) :
    fixedOf digits = if Nat.ofDigitChars 10 digits 0 = 0 then none
      else some (min (Nat.ofDigitChars 10 digits 0) (2 ^ (53 : Nat))) := by
  have hzero : min (Nat.ofDigitChars 10 digits 0) maxFixedDenominator = 0 ↔
      Nat.ofDigitChars 10 digits 0 = 0 := by
    unfold maxFixedDenominator
    omega
  simp only [fixedOf, hzero]
  rfl

/-- The longest run of digits at the start of a text writes a number, unless there is none. -/
theorem writes_leadingDigits {text : Text} (hne : text.takeWhile Char.isDigit ≠ []) :
    Writes (text.takeWhile Char.isDigit)
      (Nat.ofDigitChars 10 (text.takeWhile Char.isDigit) 0) :=
  ⟨hne, fun _ hc => List.mem_takeWhile_imp hc, rfl⟩

theorem hasDenominator_iff {pattern : FractionPattern} {denominator : Text} :
    pattern.HasDenominator denominator ↔
      pattern.fixed = fixedOf (denominator.takeWhile Char.isDigit) ∧
      pattern.denominatorWidth =
        if pattern.fixed.isSome then (denominator.takeWhile Char.isDigit).length
        else max (denominator.takeWhile isPlace).length 1 := by
  have hdigit : ∀ c, Char.isDigit c = true ↔ Digit c := fun _ => Iff.rfl
  rw [fixedOf_eq]
  constructor
  · intro h
    cases h with
    | fixed hcut hwrites hne hfixed _ hwidth =>
      rw [cutsStart_iff hdigit] at hcut
      rw [hfixed, hcut.1, hwrites.value, if_neg hne]
      exact ⟨rfl, hwidth⟩
    | free hcut hzero hfixed _ hwidth =>
      rw [cutsStart_iff isPlace_iff] at hcut
      have hvalue : Nat.ofDigitChars 10 (denominator.takeWhile Char.isDigit) 0 = 0 := by
        by_cases hnil : denominator.takeWhile Char.isDigit = []
        · rw [hnil]
          rfl
        · exact hzero _ _ _ ((cutsStart_iff hdigit).mpr ⟨rfl, rfl⟩) (writes_leadingDigits hnil)
      rw [hfixed, hcut.1, if_pos hvalue]
      exact ⟨rfl, hwidth⟩
  · rintro ⟨hfixed, hwidth⟩
    split at hfixed
    · rename_i hvalue
      rw [hfixed] at hwidth
      refine .free ((cutsStart_iff isPlace_iff).mpr ⟨rfl, rfl⟩) ?_ hfixed ?_ hwidth
      · intro digits rest n hcut hwrites
        rw [cutsStart_iff hdigit] at hcut
        rw [← hwrites.value, ← hcut.1, hvalue]
      · have hpos : 0 < 10 ^ min pattern.denominatorWidth 4 := Nat.pow_pos (by decide)
        rw [maxDenominator, hfixed, Option.getD_none, Nat.sub_add_cancel hpos, hwidth]
        rfl
    · rename_i hvalue
      have hne : denominator.takeWhile Char.isDigit ≠ [] := by
        intro hnil
        rw [hnil] at hvalue
        exact hvalue rfl
      rw [hfixed] at hwidth
      refine .fixed ((cutsStart_iff hdigit).mpr ⟨rfl, rfl⟩) (writes_leadingDigits hne) hvalue
        hfixed ?_ hwidth
      rw [maxDenominator, hfixed, Option.getD_some]

/-- Blanks at the end of a text do not change what it starts with. -/
theorem takeWhile_trim {is : Char → Bool} (his : ∀ c, is c = true → isBlank c = false)
    (text : Text) : (trim text).takeWhile is = (trimStart text).takeWhile is := by
  obtain ⟨tail, htail, hblank⟩ := exists_dropTrailing_append isBlank (trimStart text)
  conv => rhs; rw [htail]
  refine ((leadingRun_within (fun c hc => ?_) _).1).symm
  cases hkind : is c with
  | false => rfl
  | true =>
    have hc := hblank c (List.mem_of_mem_head? hc)
    rw [his c hkind] at hc
    cases hc

theorem isBlank_of_isPlace {c : Char} (h : isPlace c = true) : isBlank c = false := by
  rw [isPlace_iff] at h
  rcases h with rfl | rfl | rfl <;> decide

/-- **Every text asks for one thing, and reading it gives that.** -/
theorem writtenBy_iff {pattern : FractionPattern} {source : Text} :
    pattern.WrittenBy source ↔ pattern = ofText source := by
  have hdigits : (trim (splitSlash source).2).takeWhile Char.isDigit =
      (trimStart (splitSlash source).2).takeWhile Char.isDigit :=
    takeWhile_trim (fun _ hc => (isDigit_kind hc).blank) _
  have hplaces : (trim (splitSlash source).2).takeWhile isPlace =
      (trimStart (splitSlash source).2).takeWhile isPlace :=
    takeWhile_trim (fun _ => isBlank_of_isPlace) _
  have hany : ∀ {whole : Text}, whole.any (fun c => c == '#' || c == '0') = true ↔
      '#' ∈ whole ∨ '0' ∈ whole := by
    intro whole
    simp [and_or_left, exists_or]
  constructor
  · rintro ⟨hparts, hwhole, hnumerator, hdenominator⟩
    obtain ⟨rfl, rfl, rfl⟩ := parts_iff.mp hparts
    obtain ⟨hfixed, hwidth⟩ := hasDenominator_iff.mp hdenominator
    rw [← hany, ← Bool.eq_iff_iff] at hwhole
    rw [List.length_reverse] at hnumerator
    rw [hfixed, ← hdigits, ← hplaces] at hwidth
    rw [← hdigits] at hfixed
    cases pattern
    simp only at hwhole hnumerator hfixed hwidth
    rw [hwhole, hnumerator, hfixed, hwidth]
    rfl
  · rintro rfl
    refine .mk (parts_iff.mpr ⟨rfl, rfl, rfl⟩) hany ?_ (hasDenominator_iff.mpr ?_)
    · rw [List.length_reverse]
      rfl
    · rw [← hdigits, ← hplaces]
      exact ⟨rfl, rfl⟩

-- Zeros in front of a denominator do not count, zeros alone are places, and without a slash
-- there is one place.
example : (ofText "# ?/008".toList).maxDenominator = 8 ∧
    (ofText "?/000".toList).maxDenominator = 999 ∧ (ofText "# ?".toList).maxDenominator = 9 := by
  decide

end FractionPattern

end Spreadsheet
