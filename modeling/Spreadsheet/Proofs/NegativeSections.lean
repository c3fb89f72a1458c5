/-
# Signs of negative sections

With three sections the one for negative numbers is shown as a pattern of its own, which puts
the sign of the locale in front, and the sign is then taken away again where the section has
its own mark of a negative number. How this section is shown in a pattern of two is the measure:
there it gets no sign.

In parentheses no sign is left, whatever the locale. A minus sign of the section itself is only
noticed when the section starts with the sign of the locale; one in quotes, after a backslash,
or of another kind is shown next to the sign of the locale.

* `formatNumber_secondSection` — the section for negative numbers in a pattern of two.
* `formatSections_negative` — which sign is taken away.
* `formatSections_parenthesised` — no sign in front of parentheses.
* `formatSections_ownMinus` — the sign in front of a minus sign of the section.
-/

import Spreadsheet.Proofs.NumberGrammar
import Spreadsheet.Proofs.SectionSigns

namespace Spreadsheet

-- A power of a natural number is core's, whatever other instances are in scope.
attribute [local instance (high)] instPowNat

/-! ### What a text starts with -/

theorem Text.startsWith_iff {text lead : Text} : startsWith text lead = true ↔ lead <+: text := by
  simp only [startsWith, Option.isSome_iff_exists, afterLeading?_eq_some_iff]
  constructor
  · rintro ⟨rest, rfl⟩
    exact List.prefix_append lead rest
  · rintro ⟨rest, rfl⟩
    exact ⟨rest, rfl⟩

theorem Text.afterLeading?_startsWith_iff {lead next text : Text} :
    (∃ rest, afterLeading? lead text = some rest ∧ startsWith rest next = true) ↔
      lead ++ next <+: text := by
  simp only [afterLeading?_eq_some_iff, startsWith_iff]
  constructor
  · rintro ⟨rest, rfl, hnext⟩
    exact (List.prefix_append_right_inj lead).mpr hnext
  · rintro ⟨rest, rfl⟩
    exact ⟨next ++ rest, List.append_assoc lead next rest, List.prefix_append next rest⟩

theorem signBeforeParenthesis_iff {sign text : Text} :
    signBeforeParenthesis sign text = true ↔ sign ++ ['('] <+: text := by
  rw [← Text.afterLeading?_startsWith_iff, signBeforeParenthesis]
  cases Text.afterLeading? sign text <;> simp

theorem signDoubled_iff {sign text : Text} :
    signDoubled sign text = true ↔ sign ++ sign <+: text := by
  rw [← Text.afterLeading?_startsWith_iff, signDoubled]
  cases Text.afterLeading? sign text <;> simp

theorem singleton_isPrefix_iff {c : Char} {text : Text} : [c] <+: text ↔ text.head? = some c := by
  cases text with
  | nil => simp
  | cons d text => simp [List.cons_prefix_cons, eq_comm]

/-- A pattern between parentheses starts with the one and ends with the other. -/
theorem isParenthesised_iff {pattern : Text} :
    isParenthesised pattern = true ↔ pattern.head? = some '(' ∧ pattern.getLast? = some ')' := by
  rw [isParenthesised, Bool.and_eq_true, Text.startsWith_iff, Text.endsWith, Text.startsWith_iff,
    singleton_isPrefix_iff, List.reverse_singleton, singleton_isPrefix_iff, List.head?_reverse]

/-! ### Characters that stand for themselves -/

/-- The characters that a section does not show as they are. -/
def patternMarks : Text :=
  ['\\', '"', '\'', 'E', 'e', '0', '#', '.', ',', '%', '‰']

namespace NumberPattern

/-- **A section that starts with a character that stands for itself shows it first.** -/
theorem text_of_isPrefix {pattern : Text} {c : Char} (h : c ∉ patternMarks)
    (hstart : [c] <+: pattern) (locale : Locale) (x : Binary64) :
    [c] <+: (ofText pattern).text locale x := by
  obtain ⟨rest, rfl⟩ := hstart
  simp only [patternMarks, List.mem_cons, List.not_mem_nil, or_false, not_or] at h
  obtain ⟨hescape, hdouble, hsingle, hupper, hlower, hzero, hplace, hpoint, hcomma, hpercent,
    hmille⟩ := h
  have hbefore : (Lexeme.bare c).Before rest :=
    .bare hescape (not_or.mpr ⟨hdouble, hsingle⟩) fun hmarker =>
      absurd hmarker (not_or.mpr ⟨hupper, hlower⟩)
  have hitem : Item.ofChar c = .literal [c] := by
    rw [Item.ofChar, if_neg hzero, if_neg hplace, if_neg hpoint, if_neg hcomma, if_neg hpercent,
      if_neg hmille]
  have hitems : (ofText ([c] ++ rest)).items =
      .literal [c] :: firstPointOnly ((lexemes rest).map Item.ofLexeme) := by
    have hlexemes : lexemes ([c] ++ rest) = .bare c :: lexemes rest :=
      Lexeme.lexemes_source_append hbefore
    rw [ofText, hlexemes, List.map_cons, Item.ofLexeme, hitem, firstPointOnly,
      if_neg (by simp)]
  rw [text, layout, hitems, LayoutState.layout, List.flatMap_cons]
  exact List.prefix_append _ _

end NumberPattern

/-- The name of the general format starts with its first letter, or with a blank. -/
theorem exists_isPrefix_of_general {pattern : Text}
    (h : pattern.trim.equalsIgnoringAsciiCase generalName = true) :
    ∃ c, [c] <+: pattern ∧ (isBlank c = true ∨ c.toLower = 'g') := by
  cases pattern with
  | nil => exact absurd h (by decide)
  | cons c rest =>
    refine ⟨c, List.prefix_append [c] rest, or_iff_not_imp_left.mpr fun hvisible => ?_⟩
    have hname : generalName.map Char.toLower = 'g' :: "eneral".toList := by decide
    rw [Text.trim_cons (Bool.eq_false_iff.mpr hvisible), Text.equalsIgnoringAsciiCase, beq_iff_eq,
      List.map_cons, hname, List.cons.injEq] at h
    exact h.1

/-- A section that shows a parenthesis or a minus sign first is not the general format. -/
theorem not_general_of_text {pattern : Text} {mark : Char} (h : mark ∈ ['(', '-', '\u2212'])
    {locale : Locale} {x : Binary64}
    (htext : [mark] <+: (NumberPattern.ofText pattern).text locale x) :
    pattern.trim.equalsIgnoringAsciiCase generalName = false := by
  have hpattern : ∀ c ∈ patternMarks, ¬(isBlank c = true ∨ c.toLower = 'g') :=
    List.all_iff_forall_prop.mp (by decide)
  have hmark : ∀ c ∈ ['(', '-', '\u2212'], ¬(isBlank c = true ∨ c.toLower = 'g') :=
    List.all_iff_forall_prop.mp (by decide)
  by_contra hgeneral
  obtain ⟨c, hprefix, hstart⟩ := exists_isPrefix_of_general (by simpa using hgeneral)
  -- the name is shown as it is
  have hshown := NumberPattern.text_of_isPrefix (fun hc => hpattern c hc hstart) hprefix locale x
  rw [singleton_isPrefix_iff] at htext hshown
  rw [htext, Option.some.injEq] at hshown
  exact hmark mark h (hshown ▸ hstart)

/-- A number under a section by itself: one that is negative has the sign of the locale in front,
unless it is rounded to zero. -/
theorem formatPart_of_sections {pattern : Text} (hpart : sections pattern = [pattern])
    (hne : pattern ≠ []) (hgeneral : pattern.trim.equalsIgnoringAsciiCase generalName = false)
    {x : Binary64} (hx : x.isFinite = true) (locale : Locale) :
    formatPart locale pattern x =
      (if 0 ≤ x.toRat ∨ (NumberPattern.ofText pattern).RoundsToZero x then []
        else locale.negativeSign) ++ (NumberPattern.ofText pattern).text locale x := by
  have hempty : pattern.isEmpty = false := List.isEmpty_eq_false_iff.mpr hne
  have hunsigned : (0 ≤ x.toRat ∨ (NumberPattern.ofText pattern).RoundsToZero x) ↔
      (x.isNegative && !((NumberPattern.ofText pattern).shown x).isZero) = false := by
    rw [← NumberPattern.isZero_shown_iff, Bool.and_eq_false_iff, Bool.not_eq_false',
      Bool.eq_false_iff, Ne, Binary64.isNegative_iff hx, not_lt]
  rw [formatPart, hempty, if_neg Bool.false_ne_true, formatNumber_of_sections hpart hne hgeneral hx]
  simp only [hunsigned]
  cases x.isNegative && !((NumberPattern.ofText pattern).shown x).isZero <;> rfl

/-! ### The section for negative numbers -/

/-- What comes after a section takes no part in it. -/
theorem sectionsFrom_cut {state : ScanState} {text part next : Text} {parts : List Text}
    (h : sectionsFrom state text = part :: next :: parts) (back : Text) :
    sectionsFrom state (part ++ ';' :: back) = part :: sections back := by
  induction text generalizing state part with
  | nil => cases h
  | cons c rest ih =>
    by_cases hcut : state = .plain ∧ c = ';'
    · rw [sectionsFrom, if_pos hcut, List.cons.injEq] at h
      obtain ⟨rfl, -⟩ := hcut
      rw [← h.1, List.nil_append, sectionsFrom, if_pos ⟨rfl, rfl⟩, sections]
    · obtain ⟨first, others, hfirst⟩ :=
        List.exists_cons_of_ne_nil (sectionsFrom_ne_nil (state.next c) rest)
      rw [sectionsFrom_cons hcut, hfirst, List.modifyHead_cons, List.cons.injEq] at h
      obtain ⟨rfl, rfl⟩ := h
      rw [List.cons_append, sectionsFrom_cons hcut, ih hfirst, List.modifyHead_cons]

section ThreeSections

variable {template positive negative zero : Text} {x : Binary64}

/-- The section for negative numbers is a pattern of one section. -/
theorem sections_second (hsections : sections template = [positive, negative, zero]) :
    sections negative = [negative] := by
  have hmem : negative ∈ sections template := by simp [hsections]
  exact sections_of_mem hmem

/-- The first two of three sections make up a pattern of two. -/
theorem sections_firstTwo (hsections : sections template = [positive, negative, zero]) :
    sections (positive ++ ';' :: negative) = [positive, negative] := by
  rw [sections, sectionsFrom_cut hsections negative, sections_second hsections]

/-- **In a pattern of two sections a negative number has the text of the second one.** -/
theorem formatNumber_secondSection (hsections : sections template = [positive, negative, zero])
    (hne : negative ≠ []) (hx : x.toRat < 0) (locale : Locale) :
    formatNumber locale (positive ++ ';' :: negative) x =
      (NumberPattern.ofText negative).text locale x := by
  have hfinite := Binary64.isFinite_of_toRat_ne_zero (ne_of_lt hx)
  have htwo := sections_firstTwo hsections
  have hgeneral :
      (positive ++ ';' :: negative).trim.equalsIgnoringAsciiCase generalName = false := by
    by_contra hname
    rw [sections_of_general (by simpa using hname)] at htwo
    simp at htwo
  have hsecond : filledSection? (positive ++ ';' :: negative) 1 = some negative :=
    filledSection?_of_mem (by simp [htwo]) hne
  have hthird : filledSection? (positive ++ ';' :: negative) 2 = none :=
    filledSection?_eq_none_iff.mpr (by simp [htwo])
  have hsection : sectionFor (positive ++ ';' :: negative) x = (negative, false) := by
    rw [sectionFor, (Binary64.isNegative_iff hfinite).mpr hx, if_pos rfl, hsecond]
  rw [formatNumber_eq_formatSection (by simp) hgeneral hfinite, formatSection, hsection]
  simp only [hthird, ite_self, Bool.false_and, Bool.false_eq_true, if_false, List.nil_append]

/-- **Which sign is taken away.** Of three sections the one for negative numbers is shown as a
pattern of its own. The sign in front goes when it stands there twice and the section starts
with it, or when it stands before a parenthesis and the section is in parentheses. -/
theorem formatSections_negative (hsections : sections template = [positive, negative, zero])
    (hx : x.toRat < 0) (locale : Locale) :
    formatSections locale template x =
      if (locale.negativeSign ++ locale.negativeSign <+: formatPart locale negative x ∧
            locale.negativeSign <+: negative) ∨
          (locale.negativeSign ++ ['('] <+: formatPart locale negative x ∧
            isParenthesised negative = true)
        then (formatPart locale negative x).drop locale.negativeSign.length
        else formatPart locale negative x := by
  have hfinite := Binary64.isFinite_of_toRat_ne_zero (ne_of_lt hx)
  have hnegative := (Binary64.isNegative_iff hfinite).mpr hx
  have hpositive : x.isPositive = false := by
    rw [Binary64.isNegative, beq_iff_eq] at hnegative
    rw [Binary64.isPositive, hnegative]
    rfl
  simp only [formatSections, hsections, hpositive, hnegative, Bool.false_eq_true, if_false, if_true,
    Bool.or_eq_true, Bool.and_eq_true, signDoubled_iff, signBeforeParenthesis_iff,
    Text.startsWith_iff]

end ThreeSections

/-! ### Parentheses -/

/-- The sign of a registered locale is no parenthesis. -/
theorem Locale.head?_negativeSign_ne {locale : Locale} (h : locale ∈ registered) :
    locale.negativeSign.head? ≠ some '(' := by
  rcases (distinct_of_registered locale h).sign with hsign | hsign <;> simp [hsign]

/-- A text that starts with a parenthesis starts with no other sign. -/
theorem eq_nil_of_isPrefix {sign text : Text} (hsign : sign.head? ≠ some '(')
    (htext : ['('] <+: text) (h : sign <+: text) : sign = [] := by
  obtain ⟨rest, rfl⟩ := htext
  cases sign with
  | nil => rfl
  | cons c sign =>
    rw [List.singleton_append, List.cons_prefix_cons] at h
    exact absurd (congrArg some h.1) hsign

/-- The sign that is put in front of a parenthesis is taken away again, and nothing else. -/
theorem drop_sign {sign text : Text} (hsign : sign.head? ≠ some '(') (htext : ['('] <+: text)
    (unsigned : Prop) [Decidable unsigned] :
    (if sign ++ ['('] <+: (if unsigned then [] else sign) ++ text
      then ((if unsigned then [] else sign) ++ text).drop sign.length
      else (if unsigned then [] else sign) ++ text) = text := by
  by_cases hunsigned : unsigned
  · rw [if_pos hunsigned, List.nil_append]
    split
    · rename_i hprefix
      rw [eq_nil_of_isPrefix hsign htext ((List.prefix_append _ _).trans hprefix), List.length_nil,
        List.drop_zero]
    · rfl
  · rw [if_neg hunsigned, if_pos ((List.prefix_append_right_inj sign).mpr htext), List.drop_left]

section Parenthesised

variable {locale : Locale} {pattern : Text} {x : Binary64}

/-- A section in parentheses shows the first of them first. -/
theorem text_of_isParenthesised (h : isParenthesised pattern = true) (locale : Locale)
    (x : Binary64) : ['('] <+: (NumberPattern.ofText pattern).text locale x := by
  have hstart := singleton_isPrefix_iff.mpr (isParenthesised_iff.mp h).1
  exact NumberPattern.text_of_isPrefix (by decide) hstart locale x

/-- A number under a section in parentheses by itself. -/
theorem formatPart_of_isParenthesised (hpart : sections pattern = [pattern])
    (h : isParenthesised pattern = true) (hx : x.isFinite = true) (locale : Locale) :
    formatPart locale pattern x =
      (if 0 ≤ x.toRat ∨ (NumberPattern.ofText pattern).RoundsToZero x then []
        else locale.negativeSign) ++ (NumberPattern.ofText pattern).text locale x := by
  have hne : pattern ≠ [] := by
    rintro rfl
    cases h
  exact formatPart_of_sections hpart hne
    (not_general_of_text (by decide) (text_of_isParenthesised h locale x)) hx locale

variable (hsign : locale.negativeSign.head? ≠ some '(')
include hsign

/-- Of three sections the one for negative numbers has no sign in front of its parentheses. -/
theorem formatSections_of_isParenthesised {template positive negative zero : Text}
    (hsections : sections template = [positive, negative, zero])
    (h : isParenthesised negative = true) (hx : x.toRat < 0) :
    formatSections locale template x = (NumberPattern.ofText negative).text locale x := by
  have hparenthesis := singleton_isPrefix_iff.mpr (isParenthesised_iff.mp h).1
  have hfinite := Binary64.isFinite_of_toRat_ne_zero (ne_of_lt hx)
  rw [formatSections_negative hsections hx,
    formatPart_of_isParenthesised (sections_second hsections) h hfinite]
  by_cases hempty : locale.negativeSign = []
  · simp [hempty]
  · have hsingle : ¬locale.negativeSign <+: negative := fun hprefix =>
      hempty (eq_nil_of_isPrefix hsign hparenthesis hprefix)
    simp only [hsingle, h, and_false, and_true, false_or]
    exact drop_sign hsign (text_of_isParenthesised h locale x) _

/-- A single section in parentheses shows no sign either. -/
theorem formatSections_single (hsections : sections pattern = [pattern])
    (h : isParenthesised pattern = true) (hx : x.isFinite = true) :
    formatSections locale pattern x = (NumberPattern.ofText pattern).text locale x := by
  simp only [formatSections, hsections, h, Bool.and_true, signBeforeParenthesis_iff,
    formatPart_of_isParenthesised hsections h hx]
  exact drop_sign hsign (text_of_isParenthesised h locale x) _

/-- **No sign stands in front of parentheses.** Let the sign of the locale not start with a
parenthesis, as that of no registered locale does. Then a negative number under three sections,
the second of them in parentheses, has the text that it has under the first two of them; and
under a single section in parentheses it has the text of its opposite. In both cases the text
starts with the parenthesis. -/
theorem formatSections_parenthesised (hx : x.toRat < 0) :
    (∀ template positive negative zero : Text, sections template = [positive, negative, zero] →
      negative.head? = some '(' → negative.getLast? = some ')' →
        formatSections locale template x =
            formatNumber locale (positive ++ ';' :: negative) x ∧
          (formatSections locale template x).head? = some '(') ∧
    (∀ template : Text, sections template = [template] →
      template.head? = some '(' → template.getLast? = some ')' →
        formatSections locale template x = formatSections locale template x.neg ∧
          (formatSections locale template x).head? = some '(') := by
  constructor
  · intro template positive negative zero hsections hhead hlast
    have h := isParenthesised_iff.mpr ⟨hhead, hlast⟩
    have hne : negative ≠ [] := by
      rintro rfl
      cases h
    rw [formatSections_of_isParenthesised hsign hsections h hx,
      formatNumber_secondSection hsections hne hx]
    exact ⟨rfl, singleton_isPrefix_iff.mp (text_of_isParenthesised h locale x)⟩
  · intro template hsections hhead hlast
    have h := isParenthesised_iff.mpr ⟨hhead, hlast⟩
    have hfinite := Binary64.isFinite_of_toRat_ne_zero (ne_of_lt hx)
    rw [formatSections_single hsign hsections h hfinite,
      formatSections_single hsign hsections h (by rwa [Binary64.isFinite_neg]),
      NumberPattern.text_neg]
    exact ⟨rfl, singleton_isPrefix_iff.mp (text_of_isParenthesised h locale x)⟩

end Parenthesised

/-- In Swedish, minus five under a section in parentheses with an escaped parenthesis and text in
quotes, as the second of three and alone. -/
theorem formatSections_parenthesised_swedish :
    let part := "(\\(0.0 \"kr\")".toList
    let template := "0.0;".toList ++ part ++ ";\"nil\"".toList
    Locale.swedish.negativeSign.head? ≠ some '(' ∧ (Binary64.ofInt (-5)).toRat < 0 ∧
      sections template = ["0.0".toList, part, "\"nil\"".toList] ∧ sections part = [part] ∧
      part.head? = some '(' ∧ part.getLast? = some ')' ∧
      formatSections .swedish template (.ofInt (-5)) =
        formatNumber .swedish ("0.0".toList ++ ';' :: part) (.ofInt (-5)) ∧
      formatSections .swedish part (.ofInt (-5)) =
        formatSections .swedish part (Binary64.ofInt (-5)).neg := by
  intro part template
  have hsign := Locale.head?_negativeSign_ne (by decide : Locale.swedish ∈ Locale.registered)
  have hx : (Binary64.ofInt (-5)).toRat < 0 := by decide +kernel
  have hthree : sections template = ["0.0".toList, part, "\"nil\"".toList] := by decide
  have hone : sections part = [part] := by decide
  have hhead : part.head? = some '(' := by decide
  have hlast : part.getLast? = some ')' := by decide
  obtain ⟨hsecond, hsingle⟩ := formatSections_parenthesised hsign hx
  exact ⟨hsign, hx, hthree, hone, hhead, hlast, (hsecond _ _ _ _ hthree hhead hlast).1,
    (hsingle _ hone hhead hlast).1⟩

/-! ### Minus signs -/

/-- A section that shows a minus sign first is not in parentheses. -/
theorem not_isParenthesised_of_text {pattern : Text} {minus : Char} (h : minus ∈ ['-', '\u2212'])
    {locale : Locale} {x : Binary64}
    (htext : [minus] <+: (NumberPattern.ofText pattern).text locale x) :
    isParenthesised pattern = false := by
  have hminus : ∀ minus ∈ ['-', '\u2212'], minus ≠ '(' := List.all_iff_forall_prop.mp (by decide)
  by_contra hparenthesised
  have hparenthesis := text_of_isParenthesised (by simpa using hparenthesised) locale x
  rw [singleton_isPrefix_iff] at htext hparenthesis
  rw [htext, Option.some.injEq] at hparenthesis
  exact hminus minus h hparenthesis

/-- Of three sections the one for negative numbers, when it is shown with a minus sign first. -/
theorem formatSections_of_minus {locale : Locale} {own minus : Char}
    (hsign : locale.negativeSign = [own]) (hown : own ∈ ['-', '\u2212'])
    (hminus : minus ∈ ['-', '\u2212']) {template positive negative zero : Text}
    (hsections : sections template = [positive, negative, zero]) (hne : negative ≠ [])
    {x : Binary64} (hx : x.toRat < 0) {shown : Text}
    (hshown : (NumberPattern.ofText negative).text locale x = shown) (hfirst : [minus] <+: shown) :
    formatSections locale template x =
      if (NumberPattern.ofText negative).RoundsToZero x then
        if locale.negativeSign ++ locale.negativeSign <+: shown ∧ locale.negativeSign <+: negative
          then shown.drop locale.negativeSign.length else shown
      else if locale.negativeSign <+: negative then shown
      else locale.negativeSign ++ shown := by
  subst hshown
  have hmarks : ∀ c ∈ ['-', '\u2212'], c ∉ patternMarks := List.all_iff_forall_prop.mp (by decide)
  have hgeneral := not_general_of_text (List.mem_cons_of_mem '(' hminus) hfirst
  have hfinite := Binary64.isFinite_of_toRat_ne_zero (ne_of_lt hx)
  rw [formatSections_negative hsections hx,
    formatPart_of_sections (sections_second hsections) hne hgeneral hfinite]
  simp only [not_isParenthesised_of_text hminus hfirst, not_le.mpr hx, false_or,
    Bool.false_eq_true, and_false, or_false]
  by_cases hround : (NumberPattern.ofText negative).RoundsToZero x
  · simp only [hround, if_true, List.nil_append]
  · simp only [hround, if_false, List.prefix_append_right_inj, List.drop_left]
    by_cases hstart : locale.negativeSign <+: negative
    · -- a section that starts with the sign shows it
      have hshows : locale.negativeSign <+: (NumberPattern.ofText negative).text locale x := by
        rw [hsign] at hstart ⊢
        exact NumberPattern.text_of_isPrefix (hmarks own hown) hstart locale x
      simp only [hstart, hshows, and_self, if_true]
    · simp only [hstart, and_false, if_false]

/-- **The sign in front of a minus sign of the section.** Let the second of three sections, in a
pattern of two, show a negative number with a minus sign first, the plain one or that of the
locale. As one of three it is shown with the sign of the locale in front of that, unless the
section itself starts with this sign, or the number is rounded to zero. A number that is rounded
to zero has its text in a pattern of two, but where this starts with the sign of the locale
twice, and the section with it once, one of both is lost. An empty section shows nothing. -/
theorem formatSections_ownMinus {locale : Locale} (hlocale : locale ∈ Locale.registered)
    {template positive negative zero : Text}
    (hsections : sections template = [positive, negative, zero]) {x : Binary64} (hx : x.toRat < 0)
    {shown : Text} (hshown : formatNumber locale (positive ++ ';' :: negative) x = shown)
    (hminus : ['-'] <+: shown ∨ locale.negativeSign <+: shown) :
    formatSections locale template x =
      if negative = [] then []
      else if (NumberPattern.ofText negative).RoundsToZero x then
        if locale.negativeSign ++ locale.negativeSign <+: shown ∧ locale.negativeSign <+: negative
          then shown.drop locale.negativeSign.length else shown
      else if locale.negativeSign <+: negative then shown
      else locale.negativeSign ++ shown := by
  by_cases hne : negative = []
  · subst hne
    rw [formatSections_negative hsections hx]
    simp [formatPart]
  · obtain ⟨own, hsign, hown⟩ : ∃ own, locale.negativeSign = [own] ∧ own ∈ ['-', '\u2212'] := by
      rcases (Locale.distinct_of_registered locale hlocale).sign with h | h <;>
        exact ⟨_, h, by decide⟩
    obtain ⟨minus, hmem, hfirst⟩ : ∃ minus ∈ ['-', '\u2212'], [minus] <+: shown := by
      rcases hminus with h | h
      · exact ⟨'-', by decide, h⟩
      · exact ⟨own, hown, hsign ▸ h⟩
    rw [formatNumber_secondSection hsections hne hx] at hshown
    rw [if_neg hne]
    exact formatSections_of_minus hsign hown hmem hsections hne hx hshown hfirst

/-- In Swedish, minus five under a section that starts with the plain minus sign. -/
theorem formatSections_ownMinus_swedish :
    let template := "0;-0.0;0".toList
    let shown := "-5,0".toList
    Locale.swedish ∈ Locale.registered ∧
      sections template = ["0".toList, "-0.0".toList, "0".toList] ∧
      (Binary64.ofInt (-5)).toRat < 0 ∧
      formatNumber .swedish ("0".toList ++ ';' :: "-0.0".toList) (.ofInt (-5)) = shown ∧
      ['-'] <+: shown ∧ formatSections .swedish template (.ofInt (-5)) = '\u2212' :: shown := by
  intro template shown
  have hlocale : Locale.swedish ∈ Locale.registered := by decide
  have hsections : sections template = ["0".toList, "-0.0".toList, "0".toList] := by decide
  have hx : (Binary64.ofInt (-5)).toRat < 0 := by decide +kernel
  have hshown : formatNumber .swedish ("0".toList ++ ';' :: "-0.0".toList) (.ofInt (-5)) =
      shown := by decide +kernel
  have hminus : ['-'] <+: shown := by decide
  have hsome : ¬(NumberPattern.ofText "-0.0".toList).RoundsToZero (.ofInt (-5)) := by
    decide +kernel
  refine ⟨hlocale, hsections, hx, hshown, hminus, ?_⟩
  rw [formatSections_ownMinus hlocale hsections hx hshown (Or.inl hminus), if_neg (by decide),
    if_neg hsome, if_neg (by decide)]
  rfl

/-- **A section with its own minus sign can get a second one.** In American English, minus five
under a section that starts with a minus sign in quotes. -/
theorem not_formatSections_ownMinus :
    ¬∀ locale ∈ Locale.registered, ∀ template positive negative zero : Text,
      sections template = [positive, negative, zero] → ∀ x : Binary64, x.toRat < 0 →
        (['-'] <+: formatNumber locale (positive ++ ';' :: negative) x ∨
          locale.negativeSign <+: formatNumber locale (positive ++ ';' :: negative) x) →
        formatSections locale template x =
          formatNumber locale (positive ++ ';' :: negative) x := by
  intro hlaw
  have htwo : formatNumber .americanEnglish ("0".toList ++ ';' :: "\"-\"0".toList) (.ofInt (-5)) =
      "-5".toList := by decide +kernel
  have hthree : formatSections .americanEnglish "0;\"-\"0;0".toList (.ofInt (-5)) =
      "--5".toList := by decide +kernel
  have hequal := hlaw .americanEnglish (by decide) "0;\"-\"0;0".toList "0".toList
    "\"-\"0".toList "0".toList (by decide) (.ofInt (-5)) (by decide +kernel)
    (Or.inl (by rw [htwo]; decide))
  rw [hthree, htwo] at hequal
  exact absurd hequal (by decide)

end Spreadsheet
