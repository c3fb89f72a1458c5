/-
# Patterns with a star at their ends

A pattern of plain characters with a star after them, before them, or on both sides matches
the texts that begin with these characters, end with them or hold them, once both are folded.
Pattern and text are folded apart, so a text that is put together from the characters of the
pattern need not match: a capital sigma that ends a word in the pattern and not in the text has
two forms.

* `Glob.matchesText_prefix_iff` and its companions — what such patterns match.
* `Text.foldCase_prefix_iff`, `Text.foldCase_suffix_iff` — when the folding of a part is a part
  of the folding.
* `Matcher.wildcard_affixes` — which of the texts that are put together match.
-/

import Spreadsheet.Criteria.Matcher
import Spreadsheet.Proofs.CaseContext
import Spreadsheet.Proofs.GlobLanguage

namespace Spreadsheet

namespace Glob

/-! ### Plain characters -/

/-- Whether the character stands for itself in a pattern, whatever follows it. -/
def standsForItself (c : Char) : Bool :=
  c != '*' && c != '?' && c != '~'

theorem standsForItself_iff {c : Char} :
    standsForItself c = true ↔ c ≠ '*' ∧ c ≠ '?' ∧ c ≠ '~' := by
  simp [standsForItself, and_assoc]

theorem all_standsForItself_iff {text : Text} :
    text.all standsForItself = true ↔ '*' ∉ text ∧ '?' ∉ text ∧ '~' ∉ text := by
  simp only [List.all_eq_true, standsForItself_iff]
  constructor
  · intro h
    exact ⟨fun hmem => (h _ hmem).1 rfl, fun hmem => (h _ hmem).2.1 rfl,
      fun hmem => (h _ hmem).2.2 rfl⟩
  · rintro ⟨hstar, hone, htilde⟩ c hc
    exact ⟨fun h => hstar (h ▸ hc), fun h => hone (h ▸ hc), fun h => htilde (h ▸ hc)⟩

variable {part : Text}

/-- Plain characters are read as themselves. -/
theorem scan_append (hplain : part.all standsForItself = true) (pattern : Text) :
    scan (part ++ pattern) = part.map .literal ++ scan pattern := by
  induction part with
  | nil => rfl
  | cons c rest ih =>
    rw [List.all_cons, Bool.and_eq_true, standsForItself_iff] at hplain
    obtain ⟨⟨hstar, hone, htilde⟩, hrest⟩ := hplain
    rw [List.cons_append, scan_other htilde, if_neg hstar, if_neg hone, ih hrest]
    rfl

/-- Plain characters are no wildcards. -/
theorem hasWildcards_append (hplain : part.all standsForItself = true) (pattern : Text) :
    hasWildcards (part ++ pattern) = hasWildcards pattern := by
  induction part with
  | nil => rfl
  | cons c rest ih =>
    rw [List.all_cons, Bool.and_eq_true, standsForItself_iff] at hplain
    obtain ⟨⟨hstar, hone, htilde⟩, hrest⟩ := hplain
    rw [List.cons_append, hasWildcards_other htilde, if_neg (not_or.mpr ⟨hstar, hone⟩), ih hrest]

/-- What holds no escape mark is left as it is. -/
theorem unescape_append (htilde : '~' ∉ part) (pattern : Text) :
    unescape (part ++ pattern) = part ++ unescape pattern := by
  induction part with
  | nil => rfl
  | cons c rest ih =>
    rw [List.mem_cons, not_or] at htilde
    rw [List.cons_append, unescape_other (Ne.symm htilde.1), ih htilde.2]
    rfl

/-- Plain characters escape nothing. -/
theorem unescape_eq_self (hplain : part.all standsForItself = true) : unescape part = part := by
  have hkept := unescape_append (all_standsForItself_iff.mp hplain).2.2 []
  rwa [unescape, List.append_nil] at hkept

/-- Folding keeps plain characters plain. -/
theorem all_standsForItself_foldCase (hplain : part.all standsForItself = true) :
    part.foldCase.all standsForItself = true := by
  rw [all_standsForItself_iff] at hplain ⊢
  rwa [Text.mem_foldCase_iff (by decide), Text.mem_foldCase_iff (by decide),
    Text.mem_foldCase_iff (by decide)]

/-! ### Stars at the ends -/

/-- Plain characters fit themselves. -/
theorem fits_literals_iff {tokens : List Token} {text : Text} :
    Fits (part.map .literal ++ tokens) text ↔ ∃ rest, text = part ++ rest ∧ Fits tokens rest := by
  induction part generalizing text with
  | nil => simp
  | cons c part ih =>
    rw [List.map_cons, List.cons_append, fits_literal_iff]
    constructor
    · rintro ⟨left, rfl, hleft⟩
      obtain ⟨rest, rfl, hrest⟩ := ih.mp hleft
      exact ⟨rest, rfl, hrest⟩
    · rintro ⟨rest, rfl, hrest⟩
      exact ⟨part ++ rest, rfl, ih.mpr ⟨rest, rfl, hrest⟩⟩

/-- A star at the end fits whatever is left. -/
theorem fits_star (text : Text) : Fits [.anyRun] text := by
  have hstar := Fits.anyRun text Fits.nil
  rwa [List.append_nil] at hstar

/-- Plain characters before a star match the texts that begin with them. -/
theorem matchesText_prefix_iff (hplain : part.all standsForItself = true) {text : Text} :
    matchesText (part ++ ['*']) text = true ↔ part <+: text := by
  rw [matchesText_iff_fits, scan_append hplain]
  change Fits (part.map .literal ++ [.anyRun]) text ↔ _
  rw [fits_literals_iff]
  constructor
  · rintro ⟨rest, rfl, -⟩
    exact List.prefix_append part rest
  · rintro ⟨rest, rfl⟩
    exact ⟨rest, rfl, fits_star rest⟩

/-- Plain characters after a star match the texts that end with them. -/
theorem matchesText_suffix_iff (hplain : part.all standsForItself = true) {text : Text} :
    matchesText ('*' :: part) text = true ↔ part <:+ text := by
  have hscan := scan_append hplain []
  rw [List.append_nil] at hscan
  rw [matchesText_iff_fits]
  change Fits (.anyRun :: scan part) text ↔ _
  rw [hscan, fits_anyRun_iff]
  constructor
  · rintro ⟨taken, rest, rfl, hrest⟩
    obtain ⟨left, rfl, hleft⟩ := fits_literals_iff.mp hrest
    rw [fits_nil_iff.mp hleft, List.append_nil]
    exact List.suffix_append taken part
  · rintro ⟨taken, rfl⟩
    exact ⟨taken, part, rfl, fits_literals_iff.mpr ⟨[], (List.append_nil part).symm, .nil⟩⟩

/-- Plain characters between two stars match the texts that hold them. -/
theorem matchesText_infix_iff (hplain : part.all standsForItself = true) {text : Text} :
    matchesText ('*' :: part ++ ['*']) text = true ↔ part <:+: text := by
  rw [matchesText_iff_fits]
  change Fits (.anyRun :: scan (part ++ ['*'])) text ↔ _
  rw [scan_append hplain, fits_anyRun_iff]
  change (∃ taken rest, text = taken ++ rest ∧ Fits (part.map .literal ++ [.anyRun]) rest) ↔ _
  constructor
  · rintro ⟨taken, rest, rfl, hrest⟩
    obtain ⟨left, rfl, -⟩ := fits_literals_iff.mp hrest
    exact ⟨taken, left, List.append_assoc taken part left⟩
  · rintro ⟨taken, left, rfl⟩
    exact ⟨taken, part ++ left, List.append_assoc taken part left,
      fits_literals_iff.mpr ⟨left, rfl, fits_star left⟩⟩

end Glob

/-! ### Parts of a folded text -/

namespace Text

variable {before part after : Text}

/-- A text in parts, of which one stands between the ends of words. -/
theorem foldCase_of_breaks (before part after : Text)
    (hbefore : before.getLast?.all endsWord = true) (hafter : after.head?.all endsWord = true) :
    foldCase (before ++ part ++ after) =
      foldCaseWithin [] before (part ++ after) ++ foldCase part ++
        foldCaseAfter (before ++ part).reverse after := by
  rw [foldCase_parts, foldCaseWithin_eq_iff.mpr (keepsSigmas_of_breaks hbefore hafter part)]

/-- The folding of what a text begins with begins its folding exactly when the sigmas of that
part keep their forms. -/
theorem foldCase_prefix_iff : part.foldCase <+: (part ++ after).foldCase ↔
    KeepsSigmas [] part after := by
  have hparts := foldCase_parts [] part after
  rw [foldCaseWithin, List.nil_append, List.nil_append] at hparts
  have hlength := length_foldCaseWithin_eq [] part after
  rw [hparts, ← foldCaseWithin_eq_iff]
  constructor
  · rintro ⟨rest, hrest⟩
    exact (List.append_inj hrest hlength.symm).1.symm
  · intro h
    rw [← h]
    exact List.prefix_append _ _

/-- The folding of what a text ends with ends its folding exactly when the sigmas of that part
keep their forms. -/
theorem foldCase_suffix_iff : part.foldCase <:+ (before ++ part).foldCase ↔
    KeepsSigmas before part [] := by
  have hparts := foldCase_parts before part []
  rw [foldCaseAfter, List.append_nil, List.append_nil] at hparts
  have hlength := length_foldCaseWithin_eq before.reverse part []
  rw [hparts, ← foldCaseWithin_eq_iff]
  constructor
  · rintro ⟨rest, hrest⟩
    exact (List.append_inj' hrest hlength.symm).2.symm
  · intro h
    rw [← h]
    exact List.suffix_append _ _

/-- The folding of a part whose sigmas keep their forms is a part of the folding. -/
theorem foldCase_infix (h : KeepsSigmas before part after) :
    part.foldCase <:+: (before ++ part ++ after).foldCase := by
  rw [foldCase_parts, foldCaseWithin_eq_iff.mpr h]
  exact ⟨_, _, rfl⟩

end Text

/-! ### Matching -/

namespace Matcher

/-- A text with wildcards matches by its folding. -/
theorem wildcard_text_iff (locale : Locale) {pattern : Text}
    (hpattern : Glob.hasWildcards pattern = true) (text : Text) :
    wildcard locale pattern (.text text) = some .eq ↔
      Glob.matchesText pattern.foldCase text.foldCase = true := by
  simp [wildcard, compareText, hpattern]

variable {part : Text}

/-- **`p*` matches the texts whose folding begins with the folding of `p`.** -/
theorem wildcard_prefix_iff (locale : Locale) (hplain : part.all Glob.standsForItself = true)
    (text : Text) :
    wildcard locale (part ++ ['*']) (.text text) = some .eq ↔ part.foldCase <+: text.foldCase := by
  have hfold : (part ++ ['*']).foldCase = part.foldCase ++ ['*'] :=
    Text.foldCase_of_breaks [] part ['*'] rfl (by decide)
  rw [wildcard_text_iff locale (Glob.hasWildcards_append hplain ['*']), hfold,
    Glob.matchesText_prefix_iff (Glob.all_standsForItself_foldCase hplain)]

/-- **`*p` matches the texts whose folding ends with the folding of `p`.** -/
theorem wildcard_suffix_iff (locale : Locale) (hplain : part.all Glob.standsForItself = true)
    (text : Text) :
    wildcard locale ('*' :: part) (.text text) = some .eq ↔ part.foldCase <:+ text.foldCase := by
  have hfold : Text.foldCase ('*' :: part) = '*' :: part.foldCase := by
    have hparts := Text.foldCase_of_breaks ['*'] part [] (by decide) rfl
    rwa [Text.foldCaseAfter, List.append_nil, List.append_nil] at hparts
  rw [wildcard_text_iff locale rfl, hfold,
    Glob.matchesText_suffix_iff (Glob.all_standsForItself_foldCase hplain)]

/-- **`*p*` matches the texts whose folding holds the folding of `p`.** -/
theorem wildcard_infix_iff (locale : Locale) (hplain : part.all Glob.standsForItself = true)
    (text : Text) :
    wildcard locale ('*' :: part ++ ['*']) (.text text) = some .eq ↔
      part.foldCase <:+: text.foldCase := by
  have hfold : Text.foldCase ('*' :: part ++ ['*']) = '*' :: part.foldCase ++ ['*'] :=
    Text.foldCase_of_breaks ['*'] part ['*'] (by decide) (by decide)
  rw [wildcard_text_iff locale rfl, hfold,
    Glob.matchesText_infix_iff (Glob.all_standsForItself_foldCase hplain)]

/-- **Which texts match that are put together with the characters of a pattern.** In every
locale and for plain characters, the pattern with a star after them matches a text that begins
with them, and the pattern with a star before them a text that ends with them, exactly when the
capital sigmas among them keep in the text the form that they have in the characters alone; if
they do, the pattern with a star on either side matches a text that holds them. So all three
match when there is no capital sigma among the characters. -/
theorem wildcard_affixes (locale : Locale) (hplain : part.all Glob.standsForItself = true)
    (before after : Text) :
    (wildcard locale (part ++ ['*']) (.text (part ++ after)) = some .eq ↔
        Text.KeepsSigmas [] part after) ∧
      (wildcard locale ('*' :: part) (.text (before ++ part)) = some .eq ↔
        Text.KeepsSigmas before part []) ∧
      (Text.KeepsSigmas before part after →
        wildcard locale ('*' :: part ++ ['*']) (.text (before ++ part ++ after)) = some .eq) ∧
      ('Σ' ∉ part →
        wildcard locale (part ++ ['*']) (.text (part ++ after)) = some .eq ∧
          wildcard locale ('*' :: part) (.text (before ++ part)) = some .eq ∧
          wildcard locale ('*' :: part ++ ['*']) (.text (before ++ part ++ after)) =
            some .eq) := by
  rw [wildcard_prefix_iff locale hplain, wildcard_suffix_iff locale hplain,
    wildcard_infix_iff locale hplain, Text.foldCase_prefix_iff, Text.foldCase_suffix_iff]
  refine ⟨Iff.rfl, Iff.rfl, Text.foldCase_infix, fun hsigma => ?_⟩
  have hkeeps := Text.keepsSigmas_of_notMem hsigma
  exact ⟨hkeeps [] after, hkeeps before [], Text.foldCase_infix (hkeeps before after)⟩

/-- The Greek word for a street ends with a sigma, and so it does where a blank follows it or
stands before it. -/
theorem wildcard_affixes_street :
    ("ΟΔΟΣ".toList).all Glob.standsForItself = true ∧
      wildcard .german ("ΟΔΟΣ".toList ++ ['*']) (.text ("ΟΔΟΣ".toList ++ " 5".toList)) =
        some .eq ∧
      wildcard .german ('*' :: "ΟΔΟΣ".toList) (.text ("Η ".toList ++ "ΟΔΟΣ".toList)) =
        some .eq ∧
      wildcard .german ('*' :: "ΟΔΟΣ".toList ++ ['*'])
        (.text ("Η ".toList ++ "ΟΔΟΣ".toList ++ " 5".toList)) = some .eq := by
  have hplain : ("ΟΔΟΣ".toList).all Glob.standsForItself = true := by decide
  have hbefore : ("Η ".toList).getLast?.all Text.endsWord = true := by decide
  have hafter : (" 5".toList).head?.all Text.endsWord = true := by decide
  obtain ⟨hbegins, hends, hholds, -⟩ :=
    wildcard_affixes .german hplain "Η ".toList " 5".toList
  exact ⟨hplain, hbegins.mpr (Text.keepsSigmas_of_breaks rfl hafter _),
    hends.mpr (Text.keepsSigmas_of_breaks hbefore rfl _),
    hholds (Text.keepsSigmas_of_breaks hbefore hafter _)⟩

/-- A text that begins with the letters alpha and sigma and goes on with another letter is not
matched by the pattern of the two letters and a star, nor one that ends with a sigma by the
pattern of a star and a sigma, nor the first text by the pattern with two stars. -/
theorem not_wildcard_sigma :
    ("ΑΣ".toList).all Glob.standsForItself = true ∧ ("Σ".toList).all Glob.standsForItself = true ∧
      wildcard .americanEnglish ("ΑΣ".toList ++ ['*']) (.text ("ΑΣ".toList ++ "Α".toList)) ≠
        some .eq ∧
      wildcard .americanEnglish ('*' :: "Σ".toList) (.text ("Α".toList ++ "Σ".toList)) ≠
        some .eq ∧
      wildcard .americanEnglish ('*' :: "ΑΣ".toList ++ ['*'])
        (.text ([] ++ "ΑΣ".toList ++ "Α".toList)) ≠ some .eq := by
  have hword : ("ΑΣ".toList).all Glob.standsForItself = true := by decide
  have hletter : ("Σ".toList).all Glob.standsForItself = true := by decide
  rw [Ne, Ne, Ne, wildcard_prefix_iff .americanEnglish hword,
    wildcard_suffix_iff .americanEnglish hletter, wildcard_infix_iff .americanEnglish hword]
  exact ⟨hword, hletter, by decide +kernel, by decide +kernel, by decide +kernel⟩

end Matcher

end Spreadsheet
