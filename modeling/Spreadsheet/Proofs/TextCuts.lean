/-
# Cutting texts

What the cuts and searches of texts give on a text that is put together from parts.

* `trim_cons` — a text that starts with a visible character is trimmed at its end only.
* `trim_append` — what stands behind a text keeps the blanks before it.
* `fields_append_separator` — a separator ends the fields before it.
* `removeAll_token_append` — of a token in front, nothing stays.
-/

import Mathlib.Data.List.Induction
import Mathlib.Data.List.TakeWhile
import Spreadsheet.Text.Blank

namespace Spreadsheet

namespace Text

/-- A text whose first character is of a kind has a first character. -/
theorem exists_cons_of_head? {kind : Char → Bool} {text : Text}
    (h : text.head?.any kind = true) : ∃ first rest, text = first :: rest ∧ kind first = true := by
  cases text with
  | nil => cases h
  | cons first rest => exact ⟨first, rest, rfl, h⟩

/-! ### Case -/

/-- A character with a given lower case is that one, or the capital letter for it. -/
theorem eq_or_eq_of_toLower {c d : Char} (h : c.toLower = d) :
    c = d ∨ c = Char.ofNat (d.toNat - 32) := by
  unfold Char.toLower at h
  split at h
  · rename_i hupper
    right
    have hhigh : c.val.toNat ≤ 90 := by simpa [UInt32.le_iff_toNat_le] using hupper.2
    have hadd : d.toNat = c.toNat + 32 := by
      rw [← h]
      change (c.val + 32).toNat = c.val.toNat + 32
      rw [UInt32.toNat_add, Nat.mod_eq_of_lt]
      · rfl
      · change c.val.toNat + 32 < 2 ^ 32
        omega
    rw [hadd, Nat.add_sub_cancel, Char.ofNat_toNat]
  · exact Or.inl h

/-- A text that is two letters but for their case has two characters. -/
theorem pair_of_equalsIgnoringAsciiCase {text : Text} {a b : Char}
    (h : text.equalsIgnoringAsciiCase [a, b] = true) :
    ∃ c d, text = [c, d] ∧ c.toLower = a.toLower ∧ d.toLower = b.toLower := by
  rw [equalsIgnoringAsciiCase, beq_iff_eq] at h
  obtain ⟨c, rest, rfl, hc, hrest⟩ := List.map_eq_cons_iff.mp h
  obtain ⟨d, rest, rfl, hd, hnil⟩ := List.map_eq_cons_iff.mp hrest
  cases List.map_eq_nil_iff.mp hnil
  exact ⟨c, d, rfl, hc, hd⟩

/-! ### Leading runs -/

/-- A leading run ends where something else starts. -/
theorem leadingRun_append {goesOn : Char → Bool} {run rest : Text}
    (hrun : ∀ c ∈ run, goesOn c = true) (hrest : ∀ c ∈ rest.head?, goesOn c = false) :
    (run ++ rest).takeWhile goesOn = run ∧ (run ++ rest).dropWhile goesOn = rest := by
  rw [List.takeWhile_append_of_pos hrun, List.dropWhile_append_of_pos hrun]
  cases rest with
  | nil => exact ⟨List.append_nil _, rfl⟩
  | cons c rest =>
    have hc := hrest c rfl
    rw [List.takeWhile_cons_of_neg (by simp [hc]), List.dropWhile_cons_of_neg (by simp [hc]),
      List.append_nil]
    exact ⟨rfl, rfl⟩

/-- A leading run does not reach into a tail where something else starts. -/
theorem leadingRun_within {goesOn : Char → Bool} {tail : Text}
    (htail : ∀ c ∈ tail.head?, goesOn c = false) (text : Text) :
    (text ++ tail).takeWhile goesOn = text.takeWhile goesOn ∧
      (text ++ tail).dropWhile goesOn = text.dropWhile goesOn ++ tail := by
  induction text with
  | nil => exact leadingRun_append (List.forall_mem_nil _) htail
  | cons c text ih =>
    by_cases hc : goesOn c = true
    · rw [List.cons_append, List.takeWhile_cons_of_pos hc, List.takeWhile_cons_of_pos hc,
        List.dropWhile_cons_of_pos hc, List.dropWhile_cons_of_pos hc, ih.1]
      exact ⟨rfl, ih.2⟩
    · rw [List.cons_append, List.takeWhile_cons_of_neg hc, List.takeWhile_cons_of_neg hc,
        List.dropWhile_cons_of_neg hc, List.dropWhile_cons_of_neg hc]
      exact ⟨rfl, rfl⟩

/-- What is left after a run of a character does not start with it. -/
theorem head?_dropWhile_ne (c : Char) (text : Text) :
    (text.dropWhile (· == c)).head? ≠ some c := by
  intro hhead
  have hnot := List.head?_dropWhile_not (· == c) text
  rw [hhead] at hnot
  simp at hnot

/-! ### Trimming -/

/-- What is left of a text without a final run is the text's beginning. -/
theorem dropTrailing_isPrefix (drops : Char → Bool) (text : Text) :
    dropTrailing drops text <+: text := by
  have hsuffix := List.dropWhile_suffix drops (l := text.reverse)
  rw [← List.reverse_prefix, List.reverse_reverse] at hsuffix
  exact hsuffix

/-- A final run does not reach beyond a character that does not belong to it. -/
theorem dropTrailing_append_cons {drops : Char → Bool} {c : Char} (hc : drops c = false)
    (before after : Text) :
    dropTrailing drops (before ++ c :: after) = before ++ c :: dropTrailing drops after := by
  unfold dropTrailing
  rw [List.reverse_append, List.reverse_cons, List.append_assoc, List.dropWhile_append]
  split
  · rename_i hempty
    rw [List.isEmpty_iff] at hempty
    simp [hempty, hc]
  · simp

/-- A text whose last character does not belong to the run loses nothing. -/
theorem dropTrailing_concat {drops : Char → Bool} {c : Char} (hc : drops c = false)
    (before : Text) : dropTrailing drops (before ++ [c]) = before ++ [c] :=
  dropTrailing_append_cons hc before []

/-- A text none of whose characters belongs to the run loses nothing. -/
theorem dropTrailing_eq_self {drops : Char → Bool} {text : Text}
    (h : ∀ c ∈ text, drops c = false) : dropTrailing drops text = text := by
  cases text using List.reverseRecOn with
  | nil => rfl
  | append_singleton before last => exact dropTrailing_concat (h last (by simp)) before

/-- A text that ends with one that loses nothing loses nothing. -/
theorem dropTrailing_append {drops : Char → Bool} {after : Text} (hne : after ≠ [])
    (h : dropTrailing drops after = after) (before : Text) :
    dropTrailing drops (before ++ after) = before ++ after := by
  have hreverse : after.reverse.dropWhile drops = after.reverse := by
    rw [← List.reverse_inj, List.reverse_reverse]
    exact h
  rw [dropTrailing, List.reverse_append, List.dropWhile_append, hreverse, if_neg (by simp [hne]),
    List.reverse_append, List.reverse_reverse, List.reverse_reverse]

/-- What is dropped at the end belongs to the run. -/
theorem exists_dropTrailing_append (drops : Char → Bool) (text : Text) :
    ∃ tail, text = dropTrailing drops text ++ tail ∧ ∀ c ∈ tail, drops c = true := by
  refine ⟨(text.reverse.takeWhile drops).reverse, ?_, ?_⟩
  · rw [dropTrailing, ← List.reverse_append, List.takeWhile_append_dropWhile, List.reverse_reverse]
  · intro c hc
    exact List.mem_takeWhile_imp (List.mem_reverse.mp hc)

/-- A run at the end is dropped. -/
theorem dropTrailing_append_of_forall {drops : Char → Bool} {tail : Text}
    (h : ∀ c ∈ tail, drops c = true) (text : Text) :
    dropTrailing drops (text ++ tail) = dropTrailing drops text := by
  have hreverse : ∀ c ∈ tail.reverse, drops c = true := fun c hc => h c (List.mem_reverse.mp hc)
  rw [dropTrailing, List.reverse_append, List.dropWhile_append_of_pos hreverse, dropTrailing]

/-- Blanks are lost behind a visible character only. -/
theorem trimEnd_append_cons {c : Char} (hc : isBlank c = false) (before after : Text) :
    trimEnd (before ++ c :: after) = before ++ c :: trimEnd after :=
  dropTrailing_append_cons hc before after

theorem trimEnd_cons {c : Char} (hc : isBlank c = false) (rest : Text) :
    trimEnd (c :: rest) = c :: trimEnd rest :=
  trimEnd_append_cons hc [] rest

/-- A text that starts with a visible character is trimmed at its end only. -/
theorem trim_cons {c : Char} (hc : isBlank c = false) (rest : Text) :
    trim (c :: rest) = c :: trimEnd rest := by
  have hstart : trimStart (c :: rest) = c :: rest := List.dropWhile_cons_of_neg (by simp [hc])
  rw [trim, hstart, trimEnd_cons hc]

/-- A text that starts and ends with a visible character is its own trimming. -/
theorem trim_of_head {text : Text} (hhead : text.head?.all (fun c => !isBlank c) = true)
    (hend : trimEnd text = text) : trim text = text := by
  cases text with
  | nil => rfl
  | cons c rest =>
    have hc : isBlank c = false := by simpa using hhead
    have hstart : trimStart (c :: rest) = c :: rest :=
      List.dropWhile_cons_of_neg (by simp [hc])
    rw [trim, hstart, hend]

/-- A text without blanks is its own trimming. -/
theorem trim_of_visible {text : Text} (h : ∀ c ∈ text, isBlank c = false) : trim text = text := by
  cases text with
  | nil => rfl
  | cons c rest =>
    rw [List.forall_mem_cons] at h
    rw [trim_cons h.1, trimEnd, dropTrailing_eq_self h.2]

/-- What stands behind a text that is not all blank keeps the blanks before it. -/
theorem trim_append {text tail : Text} (hstart : trimStart text ≠ []) (hne : tail ≠ [])
    (hend : trimEnd tail = tail) : trim (text ++ tail) = trimStart text ++ tail := by
  have hkept : trimStart (text ++ tail) = trimStart text ++ tail := by
    rw [trimStart, List.dropWhile_append, if_neg (by simpa [trimStart] using hstart), trimStart]
  rw [trim, hkept]
  exact dropTrailing_append hne hend (trimStart text)

/-- Trimming adds no character. -/
theorem mem_of_mem_trimStart {text : Text} {c : Char} (h : c ∈ trimStart text) : c ∈ text :=
  (List.dropWhile_sublist isBlank).mem h

theorem mem_of_mem_trim {text : Text} {c : Char} (h : c ∈ trim text) : c ∈ text :=
  mem_of_mem_trimStart ((dropTrailing_isPrefix isBlank (trimStart text)).mem h)

/-- What trimming takes away are blanks. -/
theorem isBlank_or_mem_trim {text : Text} {c : Char} (h : c ∈ text) :
    isBlank c = true ∨ c ∈ trim text := by
  rw [or_iff_not_imp_left]
  intro hc
  rw [Bool.not_eq_true] at hc
  have hstart : c ∈ trimStart text := by
    have hsplit := List.takeWhile_append_dropWhile (p := isBlank) (l := text)
    rw [← hsplit, List.mem_append] at h
    rcases h with hlead | hrest
    · rw [List.mem_takeWhile_imp hlead] at hc
      cases hc
    · exact hrest
  obtain ⟨before, after, hcut⟩ := List.append_of_mem hstart
  rw [trim, hcut, trimEnd_append_cons hc]
  simp

/-! ### Splitting -/

section Splitting

variable {separates : Char → Bool}

/-- A text without separators is one part. -/
theorem split_of_forall {part : Text} (h : ∀ c ∈ part, separates c = false) :
    split separates part = [part] := by
  induction part with
  | nil => rfl
  | cons c rest ih =>
    rw [List.forall_mem_cons] at h
    rw [split, if_neg (by simp [h.1]), ih h.2]

/-- **A separator ends the parts before it.** -/
theorem split_append_separator (before : Text) {c : Char} (hc : separates c = true)
    (after : Text) :
    split separates (before ++ c :: after) = split separates before ++ split separates after := by
  induction before with
  | nil =>
    change split separates (c :: after) = [] :: split separates after
    rw [split, if_pos hc]
  | cons d rest ih =>
    rw [List.cons_append, split, split, ih]
    split
    · rfl
    · obtain ⟨part, parts, hsplit⟩ := List.exists_cons_of_ne_nil (split_ne_nil separates rest)
      rw [hsplit]
      rfl

/-- A text without separators is one field, unless it is empty. -/
theorem fields_of_forall {part : Text} (hne : part ≠ [])
    (h : ∀ c ∈ part, separates c = false) : fields separates part = [part] := by
  simp [fields, split_of_forall h, hne]

/-- A separator ends the fields before it. -/
theorem fields_append_separator (before : Text) {c : Char} (hc : separates c = true)
    (after : Text) :
    fields separates (before ++ c :: after) =
      fields separates before ++ fields separates after := by
  rw [fields, split_append_separator before hc, List.filter_append, fields, fields]

/-- A separator in front belongs to no field. -/
theorem fields_cons_separator {c : Char} (hc : separates c = true) (after : Text) :
    fields separates (c :: after) = fields separates after :=
  fields_append_separator [] hc after

/-- Separators at the end belong to no field. -/
theorem fields_append_of_forall {tail : Text} (h : ∀ c ∈ tail, separates c = true) (text : Text) :
    fields separates (text ++ tail) = fields separates text := by
  induction tail generalizing text with
  | nil => rw [List.append_nil]
  | cons c tail ih =>
    rw [List.forall_mem_cons] at h
    have htail : fields separates tail = [] := ih h.2 []
    rw [fields_append_separator text h.1, htail, List.append_nil]

/-- Nothing is lost from the fields with separators at the end. -/
theorem fields_dropTrailing {drops : Char → Bool} (h : ∀ c, drops c = true → separates c = true)
    (text : Text) : fields separates (dropTrailing drops text) = fields separates text := by
  obtain ⟨tail, hcut, htail⟩ := exists_dropTrailing_append drops text
  conv_rhs => rw [hcut]
  exact (fields_append_of_forall (fun c hc => h c (htail c hc)) _).symm

/-- The fields of a text are made of its characters. -/
theorem mem_of_mem_fields {text part : Text} (hpart : part ∈ fields separates text) {c : Char}
    (hc : c ∈ part) : c ∈ text := by
  have hsplit : part ∈ split separates text := (List.mem_filter.mp hpart).1
  clear hpart
  fun_induction split separates text generalizing part with
  | case1 =>
    rw [List.mem_singleton.mp hsplit] at hc
    exact hc
  | case2 d rest hd ih =>
    rcases List.mem_cons.mp hsplit with rfl | hrest
    · cases hc
    · exact List.mem_cons_of_mem _ (ih hc hrest)
  | case3 d rest hd hnil ih => exact absurd hnil (split_ne_nil separates rest)
  | case4 d rest hd first parts hfirst ih =>
    rw [hfirst] at ih
    rcases List.mem_cons.mp hsplit with rfl | hrest
    · rcases List.mem_cons.mp hc with rfl | hc
      · exact List.mem_cons_self
      · exact List.mem_cons_of_mem _ (ih hc List.mem_cons_self)
    · exact List.mem_cons_of_mem _ (ih hc (List.mem_cons_of_mem _ hrest))

/-- A word at the end of a text ends its last field. -/
theorem fields_append_word (body : Text) {word : Text} (hne : word ≠ [])
    (hword : ∀ c ∈ word, separates c = false) :
    ∃ before lead, fields separates (body ++ word) = before ++ [lead ++ word] ∧
      ∀ part ∈ before, ∀ c ∈ part, c ∈ body := by
  induction body using List.reverseRecOn generalizing word with
  | nil => exact ⟨[], [], fields_of_forall hne hword, by simp⟩
  | append_singleton body d ih =>
    rw [List.append_assoc, List.singleton_append]
    cases hd : separates d with
    | true =>
      refine ⟨fields separates body, [], ?_, ?_⟩
      · rw [fields_append_separator body hd, fields_of_forall hne hword, List.nil_append]
      · intro part hpart c hc
        exact List.mem_append_left _ (mem_of_mem_fields hpart hc)
    | false =>
      obtain ⟨before, lead, hfields, hbefore⟩ := ih (List.cons_ne_nil d word)
        (List.forall_mem_cons.mpr ⟨hd, hword⟩)
      refine ⟨before, lead ++ [d], ?_, ?_⟩
      · rw [hfields, List.append_assoc, List.singleton_append]
      · intro part hpart c hc
        exact List.mem_append_left _ (hbefore part hpart c hc)

end Splitting

/-! ### Searching -/

/-- The text before the first character that stops, when what precedes it does not. -/
theorem breakAt_append_cons {stops : Char → Bool} {before : Text} {c : Char} {after : Text}
    (hbefore : ∀ d ∈ before, stops d = false) (hc : stops c = true) :
    breakAt stops (before ++ c :: after) = (before, c :: after) := by
  have hall : ∀ d ∈ before, (!stops d) = true := fun d hd => by simp [hbefore d hd]
  have hstop : ∀ d ∈ (c :: after).head?, (!stops d) = false := by simp [hc]
  obtain ⟨htake, hdrop⟩ := leadingRun_append hall hstop
  rw [breakAt, htake, hdrop]

/-- The text after the last character that stops, when what follows it does not. -/
theorem breakAtLast?_append_cons {stops : Char → Bool} {before : Text} {c : Char} {after : Text}
    (hc : stops c = true) (hafter : ∀ d ∈ after, stops d = false) :
    breakAtLast? stops (before ++ c :: after) = some (before, after) := by
  have hreverse : (before ++ c :: after).reverse = after.reverse ++ c :: before.reverse := by simp
  have hreversed : ∀ d ∈ after.reverse, stops d = false :=
    fun d hd => hafter d (List.mem_reverse.mp hd)
  rw [breakAtLast?, hreverse, breakAt_append_cons hreversed hc]
  simp

/-- A text in which the token's first character does not occur keeps everything. -/
theorem removeFrom_eq_self {mark : Char} {token text : Text} (h : mark ∉ text) :
    removeFrom (mark :: token) 0 text = text := by
  induction text with
  | nil => rfl
  | cons c rest ih =>
    rw [List.mem_cons, not_or] at h
    have hstarts : startsWith (c :: rest) (mark :: token) = false := by
      simp [startsWith, afterLeading?, h.1]
    rw [removeFrom, hstarts, ih h.2]
    rfl

/-- The characters of an occurrence are passed over. -/
theorem removeFrom_length_append (token skipped text : Text) :
    removeFrom token skipped.length (skipped ++ text) = removeFrom token 0 text := by
  induction skipped with
  | nil => rfl
  | cons c rest ih => exact ih

/-- **A token in front is removed, and nothing else is**, when its first character does
not occur in what follows. -/
theorem removeAll_token_append {mark : Char} {token text : Text} (h : mark ∉ text) :
    removeAll ((mark :: token) ++ text) (mark :: token) = text := by
  have hstarts : startsWith ((mark :: token) ++ text) (mark :: token) = true := by
    rw [startsWith, afterLeading?_eq_some_iff.mpr rfl]
    rfl
  rw [removeAll, List.cons_append, removeFrom]
  rw [List.cons_append] at hstarts
  rw [hstarts, if_pos rfl, List.length_cons, Nat.add_sub_cancel, removeFrom_length_append,
    removeFrom_eq_self h]

/-- A token of one character is removed wherever that character stands. -/
theorem removeAll_mark (text : Text) (mark : Char) :
    removeAll text [mark] = text.filter (fun c => c != mark) := by
  unfold removeAll
  induction text with
  | nil => rfl
  | cons c rest ih =>
    by_cases hmark : mark = c
    · subst hmark
      simpa [removeFrom, startsWith, afterLeading?] using ih
    · simpa [removeFrom, startsWith, afterLeading?, hmark, Ne.symm hmark] using ih

/-- Texts that end with different characters do not end alike. -/
theorem endsWith_concat_of_ne {c last : Char} (h : c ≠ last) (before ending : Text) :
    endsWith (before ++ [c]) (ending ++ [last]) = false := by
  simp [endsWith, startsWith, afterLeading?, h.symm]

/-- The end of a text of two parts that is no longer than the second one. -/
theorem endsWith_append {before tail ending : Text} (h : ending.length ≤ tail.length) :
    endsWith (before ++ tail) ending = endsWith tail ending := by
  have hreverse : ending.reverse.length ≤ tail.reverse.length := by simpa using h
  rw [endsWith, endsWith, List.reverse_append]
  generalize tail.reverse = front at hreverse
  generalize ending.reverse = lead at hreverse
  induction lead generalizing front with
  | nil => rfl
  | cons l lead ih =>
    cases front with
    | nil => simp at hreverse
    | cons c front =>
      have hrest : lead.length ≤ front.length := by simpa using hreverse
      by_cases hlc : l = c
      · simpa [startsWith, afterLeading?, hlc] using ih front hrest
      · simp [startsWith, afterLeading?, hlc]

end Text

end Spreadsheet
