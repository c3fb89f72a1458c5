/-
# Folding a part of a text

A text is folded character by character, except that a capital sigma takes the final form at
the end of a word, and where a word ends is decided by the text around. So a part of a text
folds as it does alone exactly when none of its capital sigmas changes its form. Digits and
other characters of ASCII that are no letters fold to themselves, and nothing else folds to
them.

* `Text.mem_foldCase_iff` — folding keeps where such characters occur.
* `Text.foldCaseWithin` — the folding of a part, given what stands around it.
* `Text.foldCaseWithin_eq_iff` — when a part folds as it does alone.
* `Text.keepsSigmas_of_breaks` — between two characters that end a word it does.
-/

import Spreadsheet.Text.CaseFold

namespace Spreadsheet

/-! ### Characters without case -/

/-- Whether the character is a digit or a punctuation mark of ASCII, or its space. -/
def isPlainMark (c : Char) : Bool :=
  decide (0x20 ≤ c.toNat ∧ c.toNat < 0x7F ∧
    ¬(0x41 ≤ c.toNat ∧ c.toNat ≤ 0x5A) ∧ ¬(0x61 ≤ c.toNat ∧ c.toNat ≤ 0x7A))

theorem isPlainMark_iff {c : Char} :
    isPlainMark c = true ↔ 0x20 ≤ c.toNat ∧ c.toNat < 0x7F ∧
      ¬(0x41 ≤ c.toNat ∧ c.toNat ≤ 0x5A) ∧ ¬(0x61 ≤ c.toNat ∧ c.toNat ≤ 0x7A) :=
  decide_eq_true_iff

theorem ne_of_isPlainMark {mark other : Char} (hmark : isPlainMark mark = true)
    (hother : isPlainMark other = false) : mark ≠ other := by
  rintro rfl
  rw [hmark] at hother
  cases hother

/-- The capital letters of ASCII move to its small ones, and no other character moves from or
to a character of ASCII that is no letter. -/
theorem lowercaseRuns_apart :
    lowercaseRuns.all (fun run =>
      (decide (0x7F ≤ run.first) || (run.first == 0x41 && run.last == 0x5A)) &&
        decide (0x61 ≤ run.first + run.distance) &&
        (decide (run.last + run.distance ≤ 0x7A) || decide (0x7F ≤ run.first + run.distance))) =
      true := by
  decide

/-- What a run moves is no such character, and neither is what it moves it to. -/
theorem isPlainMark_of_moves {run : LowercaseRun} (hrun : run ∈ lowercaseRuns) {c : Char}
    (hmoves : run.moves c.toNat = true) :
    isPlainMark c = false ∧
      isPlainMark (Char.ofNat (c.toNat + run.distance).toNat) = false := by
  have hapart := List.all_eq_true.mp lowercaseRuns_apart run hrun
  simp only [Bool.and_eq_true, Bool.or_eq_true, decide_eq_true_eq, beq_iff_eq] at hapart
  obtain ⟨⟨hfirst, hlow⟩, hhigh⟩ := hapart
  simp only [LowercaseRun.moves, Bool.and_eq_true, decide_eq_true_eq, beq_iff_eq] at hmoves
  obtain ⟨⟨hfrom, hto⟩, -⟩ := hmoves
  refine ⟨?_, ?_⟩
  · rw [Bool.eq_false_iff, Ne, isPlainMark_iff]
    omega
  · have hcode : ∀ code, (Char.ofNat code).toNat = code ∨ (Char.ofNat code).toNat = 0 := by
      intro code
      by_cases hvalid : code.isValidChar
      · exact Or.inl (congrArg Char.toNat (dif_pos hvalid))
      · exact Or.inr (congrArg Char.toNat (dif_neg hvalid))
    have hmoved := hcode (c.toNat + run.distance).toNat
    rw [Bool.eq_false_iff, Ne, isPlainMark_iff]
    omega

/-- Such a character is its own lower case. -/
theorem lowercase_of_isPlainMark {mark : Char} (hmark : isPlainMark mark = true) :
    lowercase mark = [mark] := by
  unfold lowercase
  split
  · rename_i hdotted
    exact absurd hdotted (ne_of_isPlainMark hmark (by decide))
  · split
    · rename_i run hfound
      have hmoves : run.moves mark.toNat = true :=
        List.find?_some (p := fun run => LowercaseRun.moves run mark.toNat) hfound
      have hother := (isPlainMark_of_moves (List.mem_of_find?_eq_some hfound) hmoves).1
      exact absurd rfl (ne_of_isPlainMark hmark hother)
    · rfl

/-- And it is in the lower case of no other character. -/
theorem mem_lowercase_iff {mark c : Char} (hmark : isPlainMark mark = true) :
    mark ∈ lowercase c ↔ mark = c := by
  unfold lowercase
  split
  · rename_i hdotted
    have hi := ne_of_isPlainMark hmark (show isPlainMark 'i' = false by decide)
    have hdot := ne_of_isPlainMark hmark (show isPlainMark (Char.ofNat 0x307) = false by decide)
    have hcapital := ne_of_isPlainMark hmark (show isPlainMark c = false by rw [hdotted]; decide)
    simp [hi, hdot, hcapital]
  · split
    · rename_i run hfound
      have hmoves : run.moves c.toNat = true :=
        List.find?_some (p := fun run => LowercaseRun.moves run c.toNat) hfound
      obtain ⟨hfrom, hto⟩ := isPlainMark_of_moves (List.mem_of_find?_eq_some hfound) hmoves
      simp [ne_of_isPlainMark hmark hfrom, ne_of_isPlainMark hmark hto]
    · rw [List.mem_singleton]

namespace Text

/-! ### Sigmas in their places -/

/-- The form of a capital sigma's lower case, given the text before it in reverse and the text
after it. -/
def sigmaForm (before after : Text) : Char :=
  if meetsCased before && !meetsCased after then 'ς' else 'σ'

/-- The lower case of a character, given the text before it in reverse and the text after
it. -/
def foldChar (before : Text) (c : Char) (after : Text) : Text :=
  if c = 'Σ' then [sigmaForm before after] else lowercase c

/-- The lower case of a part of a text, given the text before it in reverse and the text after
it. -/
def foldCaseWithin (before : Text) : (part after : Text) → Text
  | [], _ => []
  | c :: rest, after => foldChar before c (rest ++ after) ++ foldCaseWithin (c :: before) rest after

theorem foldCaseAfter_cons (before : Text) (c : Char) (rest : Text) :
    foldCaseAfter before (c :: rest) =
      foldChar before c rest ++ foldCaseAfter (c :: before) rest := by
  rw [foldCaseAfter, foldChar, sigmaForm]
  split
  · split <;> rfl
  · rfl

/-- **A text folds part by part**, each with what stands around it. -/
theorem foldCaseAfter_append (before part after : Text) :
    foldCaseAfter before (part ++ after) =
      foldCaseWithin before part after ++ foldCaseAfter (part.reverse ++ before) after := by
  induction part generalizing before with
  | nil => rfl
  | cons c rest ih =>
    rw [List.cons_append, foldCaseAfter_cons, foldCaseWithin, ih]
    simp

/-- The last part has nothing after it. -/
theorem foldCaseAfter_eq_within (before part : Text) :
    foldCaseAfter before part = foldCaseWithin before part [] := by
  have happend := foldCaseAfter_append before part []
  rwa [List.append_nil, foldCaseAfter, List.append_nil] at happend

/-- A text in parts, folded. -/
theorem foldCase_parts (before part after : Text) :
    foldCase (before ++ part ++ after) =
      foldCaseWithin [] before (part ++ after) ++ foldCaseWithin before.reverse part after ++
        foldCaseAfter (before ++ part).reverse after := by
  rw [foldCase, List.append_assoc, foldCaseAfter_append, foldCaseAfter_append]
  simp

/-- Where a character stands does not change how long its lower case is. -/
theorem length_foldChar (before₁ before₂ : Text) (c : Char) (after₁ after₂ : Text) :
    (foldChar before₁ c after₁).length = (foldChar before₂ c after₂).length := by
  unfold foldChar
  split <;> rfl

theorem length_foldCaseWithin (before₁ before₂ part after₁ after₂ : Text) :
    (foldCaseWithin before₁ part after₁).length = (foldCaseWithin before₂ part after₂).length := by
  induction part generalizing before₁ before₂ with
  | nil => rfl
  | cons c rest ih =>
    rw [foldCaseWithin, foldCaseWithin, List.length_append, List.length_append,
      length_foldChar before₁ before₂, ih]

theorem length_foldCaseWithin_eq (before part after : Text) :
    (foldCaseWithin before part after).length = (foldCase part).length := by
  rw [foldCase, foldCaseAfter_eq_within]
  exact length_foldCaseWithin before [] part after []

/-! ### Parts that fold as they do alone -/

/-- Every capital sigma of a part has the form, between the texts before and after the part,
that it has in the part alone. -/
def KeepsSigmas (before part after : Text) : Prop :=
  ∀ x y, part = x ++ 'Σ' :: y →
    sigmaForm (before ++ x).reverse (y ++ after) = sigmaForm x.reverse y

/-- A character folds alike in two places, unless it is a capital sigma and takes another form. -/
theorem foldChar_congr_iff {before₁ before₂ after₁ after₂ : Text} {c : Char} :
    foldChar before₁ c after₁ = foldChar before₂ c after₂ ↔
      (c = 'Σ' → sigmaForm before₁ after₁ = sigmaForm before₂ after₂) := by
  unfold foldChar
  split
  · rename_i hsigma
    simp [hsigma]
  · rename_i hother
    simp [hother]

/-- A part folds alike in two places exactly when its capital sigmas have the same forms. -/
theorem foldCaseWithin_congr_iff {before₁ before₂ part after₁ after₂ : Text} :
    foldCaseWithin before₁ part after₁ = foldCaseWithin before₂ part after₂ ↔
      ∀ x y, part = x ++ 'Σ' :: y →
        sigmaForm (x.reverse ++ before₁) (y ++ after₁) =
          sigmaForm (x.reverse ++ before₂) (y ++ after₂) := by
  induction part generalizing before₁ before₂ with
  | nil => simp [foldCaseWithin]
  | cons c rest ih =>
    have hlength := length_foldCaseWithin (c :: before₁) (c :: before₂) rest after₁ after₂
    have hsplit : foldCaseWithin before₁ (c :: rest) after₁ =
          foldCaseWithin before₂ (c :: rest) after₂ ↔
        foldChar before₁ c (rest ++ after₁) = foldChar before₂ c (rest ++ after₂) ∧
          foldCaseWithin (c :: before₁) rest after₁ = foldCaseWithin (c :: before₂) rest after₂ :=
      ⟨fun h => List.append_inj' h hlength,
        fun h => by rw [foldCaseWithin, foldCaseWithin, h.1, h.2]⟩
    rw [hsplit, foldChar_congr_iff, ih]
    constructor
    · rintro ⟨hfirst, hrest⟩ x y hpart
      cases x with
      | nil =>
        cases hpart
        exact hfirst rfl
      | cons d x =>
        cases hpart
        simpa using hrest x y rfl
    · intro h
      refine ⟨?_, ?_⟩
      · rintro rfl
        exact h [] rest rfl
      · rintro x y rfl
        simpa using h (c :: x) y rfl

/-- **A part folds as it does alone** exactly when its capital sigmas keep their forms. -/
theorem foldCaseWithin_eq_iff {before part after : Text} :
    foldCaseWithin before.reverse part after = foldCase part ↔ KeepsSigmas before part after := by
  rw [foldCase, foldCaseAfter_eq_within, foldCaseWithin_congr_iff, KeepsSigmas]
  simp

/-- A part without a capital sigma folds as it does alone. -/
theorem keepsSigmas_of_notMem {part : Text} (h : 'Σ' ∉ part) (before after : Text) :
    KeepsSigmas before part after := by
  rintro x y rfl
  simp at h

/-- Whether a word cannot go on over the character: it is no cased letter, and none that is
passed over. -/
def endsWord (c : Char) : Bool :=
  !CharClass.cased.contains c && !CharClass.caseIgnorable.contains c

/-- Characters that are passed over are not met, and others are when they have a case. -/
theorem meetsCased_cons (c : Char) (rest : Text) :
    meetsCased (c :: rest) =
      if CharClass.caseIgnorable.contains c then meetsCased rest
      else CharClass.cased.contains c := by
  cases hignorable : CharClass.caseIgnorable.contains c <;> simp [meetsCased, hignorable]

/-- No letter is met behind the end of a word. -/
theorem meetsCased_of_endsWord {c : Char} (h : endsWord c = true) (rest : Text) :
    meetsCased (c :: rest) = false := by
  simp only [endsWord, Bool.and_eq_true, Bool.not_eq_true'] at h
  rw [meetsCased_cons, h.2, if_neg Bool.false_ne_true, h.1]

/-- What follows the end of a word is not met. -/
theorem meetsCased_append {after : Text} (h : after.head?.all endsWord = true) (text : Text) :
    meetsCased (text ++ after) = meetsCased text := by
  induction text with
  | nil =>
    cases after with
    | nil => rfl
    | cons c after => exact meetsCased_of_endsWord (by simpa using h) after
  | cons c rest ih => rw [List.cons_append, meetsCased_cons, meetsCased_cons, ih]

/-- **A part that stands between the ends of words folds as it does alone.** -/
theorem keepsSigmas_of_breaks {before after : Text}
    (hbefore : before.getLast?.all endsWord = true) (hafter : after.head?.all endsWord = true)
    (part : Text) : KeepsSigmas before part after := by
  intro x y _
  rw [← List.head?_reverse] at hbefore
  rw [sigmaForm, sigmaForm, List.reverse_append, meetsCased_append hbefore,
    meetsCased_append hafter]

/-! ### Characters without case in a text -/

/-- A character of ASCII that is no letter is in the lower case of itself only, wherever that
stands. -/
theorem mem_foldChar_iff {mark c : Char} (hmark : isPlainMark mark = true) {before after : Text} :
    mark ∈ foldChar before c after ↔ mark = c := by
  unfold foldChar
  split
  · rename_i hsigma
    have hform : mark ≠ sigmaForm before after := by
      refine ne_of_isPlainMark hmark ?_
      unfold sigmaForm
      split <;> decide
    have hcapital := ne_of_isPlainMark hmark (show isPlainMark c = false by rw [hsigma]; decide)
    simp [hform, hcapital]
  · exact mem_lowercase_iff hmark

/-- It folds to itself. -/
theorem foldChar_of_isPlainMark {mark : Char} (hmark : isPlainMark mark = true)
    (before after : Text) : foldChar before mark after = [mark] := by
  rw [foldChar, if_neg (ne_of_isPlainMark hmark (by decide)), lowercase_of_isPlainMark hmark]

/-- **Folding keeps where a character of ASCII occurs that is no letter.** -/
theorem mem_foldCase_iff {mark : Char} (hmark : isPlainMark mark = true) {text : Text} :
    mark ∈ foldCase text ↔ mark ∈ text := by
  have hafter : ∀ before, mark ∈ foldCaseAfter before text ↔ mark ∈ text := by
    induction text with
    | nil => exact fun before => Iff.rfl
    | cons c rest ih =>
      intro before
      rw [foldCaseAfter_cons, List.mem_append, List.mem_cons, mem_foldChar_iff hmark, ih]
  exact hafter []

end Text

end Spreadsheet
