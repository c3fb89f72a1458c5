/-
# Patterns without wildcards

A pattern is scanned for wildcards, freed of its escape marks and read into tokens by three
functions, which take an escape mark alike: the first finds a wildcard exactly when the third
does, and a pattern without one matches the one text that the second makes of it.

Folding goes before the scan of the tokens, but after the escape marks are taken out. The two
orders come to the same unless a mark next to a letter hides from a capital sigma what word it
stands in.

* `Glob.hasWildcards_iff` — the scan for wildcards and the tokens agree.
* `Glob.matchesText_iff_eq_unescape` — what a pattern without wildcards matches.
* `Glob.unescape_foldCaseAfter_iff` — when the order of folding and unescaping does not matter.
* `Matcher.literal_patterns` — when matching decides what the comparison of texts decides.
-/

import Spreadsheet.Proofs.AffixPatterns

namespace Spreadsheet

namespace Glob

/-! ### Tokens -/

/-- Joining stars keeps what tokens there are. -/
theorem mem_collapse_iff {token : Token} {tokens : List Token} :
    token ∈ collapse tokens ↔ token ∈ tokens := by
  fun_induction collapse tokens with
  | case1 rest ih => simp [ih]
  | case2 first rest _ ih => simp [ih]
  | case3 => rfl

/-- **A wildcard is found exactly when there is a token of one.** -/
theorem hasWildcards_iff (pattern : Text) :
    hasWildcards pattern = true ↔ .anyRun ∈ tokens pattern ∨ .anyOne ∈ tokens pattern := by
  rw [tokens, mem_collapse_iff, mem_collapse_iff]
  induction pattern using pattern_induction with
  | nil => simp [hasWildcards, scan]
  | final => simp [hasWildcards, scan]
  | escaped c rest ih => simpa [hasWildcards, scan] using ih
  | other c rest htilde ih =>
    rw [hasWildcards_other htilde, scan_other htilde]
    by_cases hstar : c = '*'
    · simp [hstar]
    · by_cases hone : c = '?'
      · simp [hone]
      · simpa [hstar, hone] using ih

/-- Without a wildcard, every token is a character of the text that the pattern writes. -/
theorem scan_of_not_hasWildcards {pattern : Text} (h : hasWildcards pattern = false) :
    scan pattern = (unescape pattern).map .literal := by
  induction pattern using pattern_induction with
  | nil => rfl
  | final => rfl
  | escaped c rest ih =>
    rw [scan, unescape, List.map_cons, ih h]
  | other c rest htilde ih =>
    rw [hasWildcards_other htilde] at h
    split at h
    · cases h
    · rename_i hplain
      rw [not_or] at hplain
      rw [scan_other htilde, if_neg hplain.1, if_neg hplain.2, unescape_other htilde, ih h,
        List.map_cons]

/-- **A pattern without wildcards matches one text**, the one that it writes. -/
theorem matchesText_iff_eq_unescape {pattern : Text} (h : hasWildcards pattern = false)
    {text : Text} : matchesText pattern text = true ↔ text = unescape pattern := by
  rw [matchesText_iff_fits, scan_of_not_hasWildcards h,
    ← List.append_nil ((unescape pattern).map Token.literal), fits_literals_iff]
  constructor
  · rintro ⟨rest, rfl, hrest⟩
    rw [fits_nil_iff.mp hrest, List.append_nil]
  · rintro rfl
    exact ⟨[], (List.append_nil _).symm, .nil⟩

/-! ### Folding a pattern -/

section FoldChar

variable (before : Text) (c : Char) (after : Text)

/-- A character folds to one character at least, and what follows the first one stands for
itself. -/
theorem exists_foldChar : ∃ first rest, Text.foldChar before c after = first :: rest ∧
    rest.all standsForItself = true := by
  unfold Text.foldChar lowercase
  split
  · exact ⟨_, [], rfl, rfl⟩
  · split
    · exact ⟨_, _, rfl, by decide⟩
    · split <;> exact ⟨_, [], rfl, rfl⟩

/-- The folding of an escaped character is escaped. -/
theorem hasWildcards_escaped (pattern : Text) :
    hasWildcards ('~' :: (Text.foldChar before c after ++ pattern)) = hasWildcards pattern := by
  obtain ⟨first, rest, hfold, hrest⟩ := exists_foldChar before c after
  rw [hfold, List.cons_append, hasWildcards, hasWildcards_append hrest]

theorem unescape_escaped (pattern : Text) :
    unescape ('~' :: (Text.foldChar before c after ++ pattern)) =
      Text.foldChar before c after ++ unescape pattern := by
  obtain ⟨first, rest, hfold, hrest⟩ := exists_foldChar before c after
  rw [hfold, List.cons_append, unescape, unescape_append (all_standsForItself_iff.mp hrest).2.2]
  rfl

/-- A character that is no escape mark folds to no text with one. -/
theorem unescape_foldChar_append {c : Char} (htilde : c ≠ '~') (pattern : Text) :
    unescape (Text.foldChar before c after ++ pattern) =
      Text.foldChar before c after ++ unescape pattern := by
  apply unescape_append
  rw [Text.mem_foldChar_iff (by decide)]
  exact Ne.symm htilde

/-- An escape mark folds to itself. -/
theorem foldCaseAfter_tilde (rest : Text) :
    Text.foldCaseAfter before ('~' :: rest) = '~' :: Text.foldCaseAfter ('~' :: before) rest := by
  rw [Text.foldCaseAfter_cons, Text.foldChar_of_isPlainMark (by decide)]
  rfl

end FoldChar

/-- Folding keeps whether there is a wildcard. -/
theorem hasWildcards_foldCaseAfter (before pattern : Text) :
    hasWildcards (Text.foldCaseAfter before pattern) = hasWildcards pattern := by
  induction pattern using pattern_induction generalizing before with
  | nil => rfl
  | final =>
    rw [foldCaseAfter_tilde]
    rfl
  | escaped c rest ih =>
    rw [foldCaseAfter_tilde, Text.foldCaseAfter_cons, hasWildcards_escaped, ih, hasWildcards]
  | other c rest htilde ih =>
    rw [Text.foldCaseAfter_cons, hasWildcards_other htilde]
    by_cases hwildcard : c = '*' ∨ c = '?'
    · have hmark : isPlainMark c = true := by
        rcases hwildcard with rfl | rfl <;> decide
      rw [Text.foldChar_of_isPlainMark hmark, List.singleton_append, hasWildcards_other htilde,
        if_pos hwildcard, if_pos hwildcard]
    · have hplain : (Text.foldChar before c rest).all standsForItself = true := by
        rw [not_or] at hwildcard
        rw [all_standsForItself_iff, Text.mem_foldChar_iff (by decide),
          Text.mem_foldChar_iff (by decide), Text.mem_foldChar_iff (by decide)]
        exact ⟨Ne.symm hwildcard.1, Ne.symm hwildcard.2, Ne.symm htilde⟩
      rw [hasWildcards_append hplain, ih, if_neg hwildcard]

/-- Every capital sigma of a pattern has the form that it has in the text without the escape marks;
in reverse, what stands before the pattern, and that without the escape marks. -/
def KeepsForms : (before before' pattern : Text) → Prop
  | _, _, [] => True
  | _, _, ['~'] => True
  | before, before', '~' :: c :: rest =>
    (c = 'Σ' → Text.sigmaForm ('~' :: before) rest = Text.sigmaForm before' (unescape rest)) ∧
      KeepsForms (c :: '~' :: before) (c :: before') rest
  | before, before', c :: rest =>
    (c = 'Σ' → Text.sigmaForm before rest = Text.sigmaForm before' (unescape rest)) ∧
      KeepsForms (c :: before) (c :: before') rest

theorem keepsForms_other {c : Char} (htilde : c ≠ '~') (before before' rest : Text) :
    KeepsForms before before' (c :: rest) ↔
      (c = 'Σ' → Text.sigmaForm before rest = Text.sigmaForm before' (unescape rest)) ∧
        KeepsForms (c :: before) (c :: before') rest := by
  rw [KeepsForms]
  · exact fun h => absurd h htilde
  · exact fun _ _ h => absurd h htilde

/-- **A pattern may be folded first or freed of its escape marks first** exactly when that changes
the form of no capital sigma. -/
theorem unescape_foldCaseAfter_iff {before before' pattern : Text} :
    unescape (Text.foldCaseAfter before pattern) = Text.foldCaseAfter before' (unescape pattern) ↔
      KeepsForms before before' pattern := by
  induction pattern using pattern_induction generalizing before before' with
  | nil => exact iff_of_true rfl trivial
  | final =>
    refine iff_of_true ?_ trivial
    rw [foldCaseAfter_tilde]
    exact (foldCaseAfter_tilde before' []).symm
  | escaped c rest ih =>
    have hlength := Text.length_foldChar ('~' :: before) before' c rest (unescape rest)
    rw [foldCaseAfter_tilde, Text.foldCaseAfter_cons, unescape_escaped, unescape,
      Text.foldCaseAfter_cons, KeepsForms, ← ih, ← Text.foldChar_congr_iff]
    exact ⟨fun h => List.append_inj h hlength, fun h => by rw [h.1, h.2]⟩
  | other c rest htilde ih =>
    have hlength := Text.length_foldChar before before' c rest (unescape rest)
    rw [Text.foldCaseAfter_cons, unescape_foldChar_append _ _ htilde, unescape_other htilde,
      Text.foldCaseAfter_cons, keepsForms_other htilde, ← ih, ← Text.foldChar_congr_iff]
    exact ⟨fun h => List.append_inj h hlength, fun h => by rw [h.1, h.2]⟩

/-- Without a capital sigma there is no form to change. -/
theorem keepsForms_of_notMem {pattern : Text} (h : 'Σ' ∉ pattern) (before before' : Text) :
    KeepsForms before before' pattern := by
  induction pattern using pattern_induction generalizing before before' with
  | nil => trivial
  | final => trivial
  | escaped c rest ih =>
    simp only [List.mem_cons, not_or] at h
    exact ⟨fun hsigma => absurd hsigma.symm h.2.1, ih h.2.2 _ _⟩
  | other c rest htilde ih =>
    simp only [List.mem_cons, not_or] at h
    rw [keepsForms_other htilde]
    exact ⟨fun hsigma => absurd hsigma.symm h.1, ih h.2 _ _⟩

/-- Whether the escape marks of a pattern stand before characters of a kind only, a final one
apart. -/
def escapesOnly (kind : Char → Bool) : Text → Bool
  | [] => true
  | ['~'] => true
  | '~' :: c :: rest => kind c && escapesOnly kind rest
  | _ :: rest => escapesOnly kind rest

theorem escapesOnly_other {c : Char} (htilde : c ≠ '~') (kind : Char → Bool) (rest : Text) :
    escapesOnly kind (c :: rest) = escapesOnly kind rest := by
  rw [escapesOnly]
  · exact fun h => absurd h htilde
  · exact fun _ _ h => absurd h htilde

/-- Escape marks before characters that end a word hide no letter. -/
theorem meetsCased_unescape {pattern : Text} (h : escapesOnly Text.endsWord pattern = true) :
    Text.meetsCased (unescape pattern) = Text.meetsCased pattern := by
  induction pattern using pattern_induction with
  | nil => rfl
  | final => rfl
  | escaped c rest ih =>
    rw [escapesOnly, Bool.and_eq_true] at h
    rw [unescape, Text.meetsCased_of_endsWord h.1, Text.meetsCased_of_endsWord (by decide)]
  | other c rest htilde ih =>
    rw [escapesOnly_other htilde] at h
    rw [unescape_other htilde, Text.meetsCased_cons, Text.meetsCased_cons, ih h]

/-- So they change no form. -/
theorem keepsForms_of_escapesOnly {pattern : Text}
    (h : escapesOnly Text.endsWord pattern = true) {before before' : Text}
    (hbefore : Text.meetsCased before = Text.meetsCased before') :
    KeepsForms before before' pattern := by
  induction pattern using pattern_induction generalizing before before' with
  | nil => trivial
  | final => trivial
  | escaped c rest ih =>
    rw [escapesOnly, Bool.and_eq_true] at h
    refine ⟨?_, ih h.2 ?_⟩
    · -- a capital sigma ends no word
      rintro rfl
      exact absurd h.1 (by decide)
    · rw [Text.meetsCased_of_endsWord h.1, Text.meetsCased_of_endsWord h.1]
  | other c rest htilde ih =>
    rw [escapesOnly_other htilde] at h
    rw [keepsForms_other htilde]
    refine ⟨fun _ => ?_, ih h ?_⟩
    · rw [Text.sigmaForm, Text.sigmaForm, hbefore, meetsCased_unescape h]
    · rw [Text.meetsCased_cons, Text.meetsCased_cons, hbefore]

end Glob

/-! ### Matching and comparing -/

namespace Matcher

/-- Without wildcards a pattern is compared with a text by their foldings. -/
theorem compareText_eq_iff {pattern : Text} (h : Glob.hasWildcards pattern = false) (text : Text) :
    compareText pattern text = .eq ↔ text.foldCase = (Glob.unescape pattern).foldCase := by
  rw [compareText, h, foldedOrder]
  exact Text.order_eq_iff

/-- Its folding matches a text that is the folding without its escape marks. -/
theorem matchesText_foldCase_iff {pattern : Text} (h : Glob.hasWildcards pattern = false)
    (text : Text) :
    Glob.matchesText pattern.foldCase text = true ↔ text = Glob.unescape pattern.foldCase :=
  Glob.matchesText_iff_eq_unescape ((Glob.hasWildcards_foldCaseAfter [] pattern).trans h)

/-- **What is compared is what would be matched**, for every text, exactly when the escape marks
change the form of no capital sigma. -/
theorem compareText_iff_matchesText_iff {pattern : Text}
    (h : Glob.hasWildcards pattern = false) :
    (∀ text, compareText pattern text = .eq ↔
        Glob.matchesText pattern.foldCase text.foldCase = true) ↔
      Glob.KeepsForms [] [] pattern := by
  rw [← Glob.unescape_foldCaseAfter_iff]
  simp only [compareText_eq_iff h, matchesText_foldCase_iff h]
  constructor
  · intro hsame
    exact ((hsame (Glob.unescape pattern)).mp rfl).symm
  · intro hsame text
    rw [Text.foldCase, Text.foldCase, Text.foldCase, hsame]

/-- **The three readings of escape marks.** A pattern is scanned to have a wildcard exactly when
there is one among its tokens. A pattern without one matches exactly the text that it writes. When
it is compared with a text, both are folded, and the pattern after its escape marks are taken out;
matching its folding with that of the text decides the same equality, for every text, exactly when
the escape marks change the form of no capital sigma. So it does for a pattern without a capital
sigma, and for one whose escape marks stand before characters that end a word, such as `*`, `?` and
`~`. -/
theorem literal_patterns (pattern : Text) :
    (Glob.hasWildcards pattern = true ↔
        .anyRun ∈ Glob.tokens pattern ∨ .anyOne ∈ Glob.tokens pattern) ∧
      (Glob.hasWildcards pattern = false →
        (∀ text, Glob.matchesText pattern text = true ↔ text = Glob.unescape pattern) ∧
          ((∀ text, compareText pattern text = .eq ↔
              Glob.matchesText pattern.foldCase text.foldCase = true) ↔
            Glob.KeepsForms [] [] pattern) ∧
          ('Σ' ∉ pattern ∨ Glob.escapesOnly Text.endsWord pattern = true →
            ∀ text, compareText pattern text = .eq ↔
              Glob.matchesText pattern.foldCase text.foldCase = true)) := by
  refine ⟨Glob.hasWildcards_iff pattern, fun h => ?_⟩
  refine ⟨fun _ => Glob.matchesText_iff_eq_unescape h, compareText_iff_matchesText_iff h, ?_⟩
  intro hkind
  rw [compareText_iff_matchesText_iff h]
  rcases hkind with hsigma | hescapes
  · exact Glob.keepsForms_of_notMem hsigma [] []
  · exact Glob.keepsForms_of_escapesOnly hescapes rfl

/-- A street and an escaped question mark behind it: what the comparison and the match take for
equal are the same texts. -/
theorem literal_patterns_street :
    Glob.hasWildcards "ΟΔΟΣ~?".toList = false ∧
      Glob.escapesOnly Text.endsWord "ΟΔΟΣ~?".toList = true ∧
      Glob.matchesText "οδος~?".toList "οδος?".toList = true := by
  have hliteral : Glob.hasWildcards "ΟΔΟΣ~?".toList = false := by decide
  have hescapes : Glob.escapesOnly Text.endsWord "ΟΔΟΣ~?".toList = true := by decide
  obtain ⟨-, hreadings⟩ := literal_patterns "ΟΔΟΣ~?".toList
  obtain ⟨-, -, hsame⟩ := hreadings hliteral
  have hmatches := (hsame (Or.inr hescapes) "ΟΔΟΣ?".toList).mp (by decide +kernel)
  have hpattern : Text.foldCase "ΟΔΟΣ~?".toList = "οδος~?".toList := by decide +kernel
  have htext : Text.foldCase "ΟΔΟΣ?".toList = "οδος?".toList := by decide +kernel
  rw [hpattern, htext] at hmatches
  exact ⟨hliteral, hescapes, hmatches⟩

/-- An escape mark between an alpha and a sigma: the pattern is compared with the two letters as
equal, but its folding does not match theirs, and with a star behind it neither does the matcher. -/
theorem not_literal_patterns :
    Glob.hasWildcards "Α~Σ".toList = false ∧
      compareText "Α~Σ".toList "ΑΣ".toList = .eq ∧
      Glob.matchesText (Text.foldCase "Α~Σ".toList) (Text.foldCase "ΑΣ".toList) = false ∧
      wildcard .americanEnglish "Α~Σ".toList (.text "ΑΣ".toList) = some .eq ∧
      wildcard .americanEnglish "Α~Σ*".toList (.text "ΑΣ".toList) ≠ some .eq := by
  have hliteral : Glob.hasWildcards "Α~Σ".toList = false := by decide
  have hequal : compareText "Α~Σ".toList "ΑΣ".toList = .eq := by
    rw [compareText_eq_iff hliteral]
    rfl
  have hunmatched : Glob.matchesText (Text.foldCase "Α~Σ".toList) (Text.foldCase "ΑΣ".toList) =
      false := by
    rw [← Bool.not_eq_true, matchesText_foldCase_iff hliteral]
    decide +kernel
  refine ⟨hliteral, hequal, hunmatched, congrArg some hequal, ?_⟩
  have hpattern : Text.foldCase "Α~Σ*".toList = "α~σ*".toList := by decide +kernel
  have htext : Text.foldCase "ΑΣ".toList = "ας".toList := by decide +kernel
  rw [Ne, wildcard_text_iff _ (by decide), hpattern, htext, Glob.matchesText_iff_fits]
  change ¬Glob.Fits ("ασ".toList.map .literal ++ [.anyRun]) _
  rw [Glob.fits_literals_iff]
  rintro ⟨rest, hrest, -⟩
  exact absurd hrest (by simp)

end Matcher

end Spreadsheet
