/-
# Quoted text in date patterns

A pattern is read item by item, each from where the one before it ended. A quoted text and a
character after a backslash are items of their own, and no run of letters reaches into them. So
they stand for themselves and cut the pattern in two, if what precedes them leaves no quotation
and no backslash open. Only a short fraction looks back, at a point before it.

* `DateItem.first_append` — the first item does not depend on what follows its own text.
* `dateItems_append` — the items of two patterns, one after the other.
* `afterItem_iterate` — the items use up the pattern.
* `formatCustom_quoted` — what is shown around a quoted text.
-/

import Spreadsheet.Proofs.DateFormats
import Spreadsheet.Proofs.TextCuts

namespace Spreadsheet

/-! ### Patterns that leave nothing open -/

/-- The marks that quote a text in a pattern. -/
def patternQuotes : List Char := ['"', '\'']

/-- What the next character of a pattern belongs to. -/
inductive PatternState where
  | plain
  | escaped
  | quoted (mark : Char)
deriving DecidableEq

/-- What the character after the next one belongs to. -/
def PatternState.step : PatternState → Char → PatternState
  | .plain, c =>
    if c ∈ patternQuotes then .quoted c else if c = '\\' then .escaped else .plain
  | .escaped, _ => .plain
  | .quoted mark, c => if c = mark then .plain else .quoted mark

namespace Text

/-- The pattern ends outside its quotations, and not with a backslash that has nothing behind
it. -/
def EndsPlain (pattern : Text) : Prop :=
  pattern.foldl PatternState.step .plain = .plain

instance (pattern : Text) : Decidable pattern.EndsPlain :=
  inferInstanceAs (Decidable (pattern.foldl PatternState.step .plain = .plain))

/-- Behind a pattern that ends plain another one is read as if it stood alone. -/
theorem EndsPlain.append_iff {front rest : Text} (h : front.EndsPlain) :
    (front ++ rest).EndsPlain ↔ rest.EndsPlain := by
  unfold EndsPlain at *
  rw [List.foldl_append, h]

/-- A character that opens nothing ends plain. -/
theorem endsPlain_singleton {c : Char} (hquote : c ∉ patternQuotes) (hescape : c ≠ '\\') :
    EndsPlain [c] := by
  simp [EndsPlain, PatternState.step, hquote, hescape]

/-- So does a run of it. -/
theorem endsPlain_of_forall {c : Char} (h : EndsPlain [c]) {run : Text} (hrun : ∀ d ∈ run, d = c) :
    run.EndsPlain := by
  induction run with
  | nil => rfl
  | cons d run ih =>
    rw [List.forall_mem_cons] at hrun
    rw [hrun.1, ← List.singleton_append, h.append_iff]
    exact ih hrun.2

/-- A quotation goes on up to its mark. -/
theorem foldl_step_quoted {mark : Char} {text : Text} (h : mark ∉ text) :
    text.foldl PatternState.step (.quoted mark) = .quoted mark := by
  induction text with
  | nil => rfl
  | cons c text ih =>
    rw [List.mem_cons, not_or] at h
    rw [List.foldl_cons, PatternState.step, if_neg (Ne.symm h.1), ih h.2]

/-- A quotation that is closed ends plain. -/
theorem endsPlain_quoted {mark : Char} (hmark : mark ∈ patternQuotes) {text : Text}
    (h : mark ∉ text) : EndsPlain (mark :: (text ++ [mark])) := by
  rw [EndsPlain, List.foldl_cons, PatternState.step, if_pos hmark, List.foldl_append,
    foldl_step_quoted h]
  simp [PatternState.step]

end Text

/-! ### The first item -/

/-- No mark of quotations is the letter of a field. -/
theorem DateField.ofChar?_quote : ∀ mark ∈ patternQuotes, ofChar? mark = none := by
  intro mark hmem
  simp only [patternQuotes, List.mem_cons, List.not_mem_nil, or_false] at hmem
  rcases hmem with rfl | rfl <;> rfl

/-- The letters of fields open nothing. -/
theorem DateField.endsPlain_of_ofChar? {c : Char} {kind : DateField} (h : ofChar? c = some kind) :
    Text.EndsPlain [c] := by
  apply Text.endsPlain_singleton
  · intro hmem
    rw [ofChar?_quote c hmem] at h
    cases h
  · rintro rfl
    cases h

/-- Only the capital letter stands for a short fraction. -/
theorem DateField.eq_of_ofChar?_shortFraction {c : Char} (h : ofChar? c = some .shortFraction) :
    c = 'F' := by
  unfold ofChar? at h
  split at h <;> first | rfl | cases h

namespace DateItem

variable {c : Char} {rest : Text}

/-- A quoted text is an item of its own. -/
theorem first_quoted {mark : Char} (hmark : mark ∈ patternQuotes) {text : Text} (h : mark ∉ text)
    (rest : Text) : first mark (text ++ mark :: rest) = (.literal text, rest) := by
  have hmarks : mark = '"' ∨ mark = '\'' := by simpa [patternQuotes] using hmark
  have hbefore : ∀ d ∈ text, (d != mark) = true := by
    intro d hd
    rw [bne_iff_ne]
    rintro rfl
    exact h hd
  have hstop : ∀ d ∈ (mark :: rest).head?, (d != mark) = false := by simp
  obtain ⟨htake, hdrop⟩ := Text.leadingRun_append hbefore hstop
  rw [first, DateField.ofChar?_quote mark hmark]
  dsimp only
  rw [if_pos hmarks, htake, hdrop]
  rfl

/-- So is a character after a backslash. -/
theorem first_escaped (c : Char) (rest : Text) : first '\\' (c :: rest) = (.literal [c], rest) :=
  rfl

/-- And a character that is no field and opens nothing. -/
theorem first_other (hfield : DateField.ofChar? c = none) (hquote : c ∉ patternQuotes)
    (hescape : c ≠ '\\') (rest : Text) : first c rest = (ofChar c, rest) := by
  have hmarks : ¬(c = '"' ∨ c = '\'') := by simpa [patternQuotes] using hquote
  rw [first, hfield]
  dsimp only
  rw [if_neg hmarks, if_neg hescape]

/-- What is left after the first item is an end of the pattern. -/
theorem first_isSuffix (c : Char) (rest : Text) : (first c rest).2 <:+ rest := by
  unfold first
  split
  · exact List.dropWhile_suffix _
  · split
    · exact (List.drop_suffix _ _).trans (List.dropWhile_suffix _)
    · split
      · exact List.drop_suffix _ _
      · exact List.suffix_refl _

/-- **How a pattern that ends plain starts**: with a field, a quoted text, a character after a
backslash, or another character; and what follows ends plain. -/
theorem endsPlain_cases (h : Text.EndsPlain (c :: rest)) :
    (∃ kind, DateField.ofChar? c = some kind) ∨
    (c ∈ patternQuotes ∧ ∃ text left, c ∉ text ∧ rest = text ++ c :: left) ∨
    (c = '\\' ∧ ∃ d left, rest = d :: left) ∨
    (DateField.ofChar? c = none ∧ c ∉ patternQuotes ∧ c ≠ '\\') := by
  by_cases hquote : c ∈ patternQuotes
  · by_cases hclosed : c ∈ rest
    · obtain ⟨text, left, hrest, hfresh⟩ := List.eq_append_cons_of_mem hclosed
      exact Or.inr (Or.inl ⟨hquote, text, left, hfresh, hrest⟩)
    · rw [Text.EndsPlain, List.foldl_cons, PatternState.step, if_pos hquote,
        Text.foldl_step_quoted hclosed] at h
      cases h
  · by_cases hescape : c = '\\'
    · subst hescape
      cases rest with
      | nil => cases h
      | cons d left => exact Or.inr (Or.inr (Or.inl ⟨rfl, d, left, rfl⟩))
    · cases hfield : DateField.ofChar? c with
      | some kind => exact Or.inl ⟨kind, rfl⟩
      | none => exact Or.inr (Or.inr (Or.inr ⟨rfl, hquote, hescape⟩))

/-- **The first item of a pattern that ends plain lies within the pattern**, whatever follows that
does not go on with a field, and what is left of the pattern ends plain. -/
theorem first_append (h : Text.EndsPlain (c :: rest)) {tail : Text}
    (htail : ∀ d ∈ tail.head?, DateField.ofChar? d = none) :
    first c (rest ++ tail) = ((first c rest).1, (first c rest).2 ++ tail) ∧
      (first c rest).2.EndsPlain := by
  rcases endsPlain_cases h with ⟨kind, hfield⟩ | ⟨hquote, text, left, hfresh, rfl⟩ |
    ⟨rfl, d, left, rfl⟩ | ⟨hfield, hquote, hescape⟩
  · -- the run of the letter ends in the pattern, or where the tail starts
    have hstop : ∀ d ∈ tail.head?, (d == c) = false := by
      intro d hd
      rw [beq_eq_false_iff_ne]
      rintro rfl
      rw [htail d hd] at hfield
      cases hfield
    obtain ⟨htake, hdrop⟩ := Text.leadingRun_within hstop rest
    have hsame : ∀ d ∈ c :: rest.takeWhile (· == c), d = c :=
      List.forall_mem_cons.mpr ⟨rfl, fun d hd =>
        beq_iff_eq.mp (List.mem_takeWhile_imp (p := (· == c)) hd)⟩
    have hplain := Text.endsPlain_of_forall (DateField.endsPlain_of_ofChar? hfield) hsame
    simp only [first, hfield, htake, hdrop]
    refine ⟨trivial, ?_⟩
    rw [← hplain.append_iff, List.cons_append, List.takeWhile_append_dropWhile]
    exact h
  · rw [List.append_assoc, List.cons_append, first_quoted hquote hfresh, first_quoted hquote hfresh]
    refine ⟨rfl, ?_⟩
    rw [← (Text.endsPlain_quoted hquote hfresh).append_iff]
    simpa using h
  · exact ⟨rfl, h⟩
  · rw [first_other hfield hquote hescape, first_other hfield hquote hescape]
    exact ⟨rfl, ((Text.endsPlain_singleton hquote hescape).append_iff).mp h⟩

/-- No item but that of a capital letter is a short fraction. -/
theorem isShortFraction_first (hc : c ≠ 'F') (rest : Text) :
    (first c rest).1.isShortFraction = false := by
  unfold first
  split
  · rename_i kind hfield
    rw [isShortFraction_field, beq_eq_false_iff_ne]
    rintro rfl
    exact hc (DateField.eq_of_ofChar?_shortFraction hfield)
  · split
    · rfl
    · split
      · rfl
      · unfold ofChar
        split_ifs <;> rfl

end DateItem

/-! ### The items of a pattern -/

/-- **A pattern that ends plain and what follows are read one after the other**, if what follows
does not start with a field. -/
theorem dateItems_append {front tail : Text} (h : front.EndsPlain)
    (htail : ∀ d ∈ tail.head?, DateField.ofChar? d = none) :
    dateItems (front ++ tail) = dateItems front ++ dateItems tail := by
  fun_induction dateItems front with
  | case1 => rfl
  | case2 c rest ih =>
    obtain ⟨hfirst, hleft⟩ := DateItem.first_append h htail
    rw [List.cons_append, dateItems, hfirst, ih hleft, List.cons_append]

/-- A quoted text is one item of a pattern. -/
theorem dateItems_quoted {mark : Char} (hmark : mark ∈ patternQuotes) {text : Text}
    (h : mark ∉ text) (rest : Text) :
    dateItems (mark :: (text ++ mark :: rest)) = .literal text :: dateItems rest := by
  rw [dateItems, DateItem.first_quoted hmark h]

/-- So is a character after a backslash. -/
theorem dateItems_escaped (c : Char) (rest : Text) :
    dateItems ('\\' :: c :: rest) = .literal [c] :: dateItems rest := by
  rw [dateItems, DateItem.first_escaped]

/-- A pattern without the letter has no short fraction. -/
theorem dateItems_noShortFraction {pattern : Text} (h : 'F' ∉ pattern) :
    (dateItems pattern).all (fun item => !item.isShortFraction) = true := by
  fun_induction dateItems pattern with
  | case1 => rfl
  | case2 c rest ih =>
    rw [List.mem_cons, not_or] at h
    have hleft : 'F' ∉ (DateItem.first c rest).2 :=
      fun hmem => h.2 ((DateItem.first_isSuffix c rest).mem hmem)
    rw [List.all_cons, DateItem.isShortFraction_first (Ne.symm h.1), ih hleft]
    rfl

/-! ### Reading to the end -/

/-- What is left of a pattern after its first item. -/
def afterItem : Text → Text
  | [] => []
  | c :: rest => (DateItem.first c rest).2

/-- **An item uses up one character at least.** -/
theorem exists_append_afterItem {pattern : Text} (h : pattern ≠ []) :
    ∃ source, source ≠ [] ∧ pattern = source ++ afterItem pattern := by
  obtain ⟨c, rest, rfl⟩ := List.exists_cons_of_ne_nil h
  obtain ⟨front, hfront⟩ := DateItem.first_isSuffix c rest
  exact ⟨c :: front, List.cons_ne_nil c front, by rw [afterItem, List.cons_append, hfront]⟩

/-- **The items use up the pattern**, and there are no more of them than characters. -/
theorem afterItem_iterate (pattern : Text) :
    afterItem^[(dateItems pattern).length] pattern = [] ∧
      (dateItems pattern).length ≤ pattern.length := by
  fun_induction dateItems pattern with
  | case1 => exact ⟨rfl, Nat.le_refl 0⟩
  | case2 c rest ih =>
    obtain ⟨hend, hlength⟩ := ih
    have hleft := (DateItem.first_isSuffix c rest).length_le
    rw [List.length_cons, List.length_cons, Function.iterate_succ_apply]
    exact ⟨hend, by omega⟩

/-! ### What is shown -/

/-- A text between items is shown between what they show, if none after it is a short fraction. -/
theorem formatItems_literal {locale : Locale} {i : Instant} {after : List DateItem}
    (h : after.all (fun item => !item.isShortFraction) = true) (before : List DateItem)
    (text : Text) :
    formatItems locale i (before ++ .literal text :: after) =
      formatItems locale i before ++ text ++ formatItems locale i after := by
  rw [formatItems, List.foldl_append, List.foldl_cons, appendItem_literal, foldl_appendItem h,
    formatItems_eq_flatMap h, formatItems]

/-- **Quoted text is shown as it is and cuts the pattern in two.** Between a pattern that ends
outside quotations and not with a backslash, and a pattern without the letter of short fractions,
a text in either quotation mark and a character after a backslash are shown between what the two
patterns show. Every pattern is read to its end: each item uses up one character at least. -/
theorem formatCustom_quoted (locale : Locale) (i : Instant) :
    (∀ front rest : Text, front.EndsPlain → 'F' ∉ rest →
      (∀ mark ∈ patternQuotes, ∀ text : Text, mark ∉ text →
        formatCustom locale (front ++ mark :: (text ++ mark :: rest)) i =
          formatCustom locale front i ++ text ++ formatCustom locale rest i) ∧
      ∀ c : Char, formatCustom locale (front ++ '\\' :: c :: rest) i =
        formatCustom locale front i ++ [c] ++ formatCustom locale rest i) ∧
    (∀ pattern : Text, pattern ≠ [] →
      ∃ source, source ≠ [] ∧ pattern = source ++ afterItem pattern) ∧
    ∀ pattern : Text, afterItem^[(dateItems pattern).length] pattern = [] ∧
      (dateItems pattern).length ≤ pattern.length := by
  refine ⟨fun front rest hfront hrest => ⟨fun mark hmark text htext => ?_, fun c => ?_⟩,
    fun _ => exists_append_afterItem, afterItem_iterate⟩
  · have hstart : ∀ d ∈ (mark :: (text ++ mark :: rest)).head?, DateField.ofChar? d = none := by
      rintro d ⟨⟩
      exact DateField.ofChar?_quote mark hmark
    rw [formatCustom, dateItems_append hfront hstart, dateItems_quoted hmark htext,
      formatItems_literal (dateItems_noShortFraction hrest)]
    rfl
  · have hstart : ∀ d ∈ ('\\' :: c :: rest).head?, DateField.ofChar? d = none := by
      rintro d ⟨⟩
      rfl
    rw [formatCustom, dateItems_append hfront hstart, dateItems_escaped,
      formatItems_literal (dateItems_noShortFraction hrest)]
    rfl

/-- A quoted text with an apostrophe and the letter of short fractions in it, between a short
fraction with an escaped letter behind it and a pattern with a quotation of its own. -/
theorem formatCustom_quoted_clock :
    Text.EndsPlain "ss.FFF\\d".toList ∧ 'F' ∉ "yyyy 'at' H".toList ∧ '"' ∈ patternQuotes ∧
      '"' ∉ " o'clock, F ".toList ∧
      formatCustom .americanEnglish "ss.FFF\\d\" o'clock, F \"yyyy 'at' H".toList
        (.midnight originDate) = "00d o'clock, F 1899 at 0".toList := by
  have hfront : Text.EndsPlain "ss.FFF\\d".toList := by decide
  have hrest : 'F' ∉ "yyyy 'at' H".toList := by decide
  have hmark : '"' ∈ patternQuotes := by decide
  have htext : '"' ∉ " o'clock, F ".toList := by decide
  have hshown := ((formatCustom_quoted .americanEnglish (.midnight originDate)).1 _ _ hfront
    hrest).1 '"' hmark _ htext
  refine ⟨hfront, hrest, hmark, htext, hshown.trans ?_⟩
  decide +kernel

end Spreadsheet
