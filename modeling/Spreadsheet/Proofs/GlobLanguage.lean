/-
# The language of a wildcard pattern

A pattern denotes texts by one rule for each of its characters, with no search
and nothing forgotten. The search of a match keeps only the latest star, and yet
it answers for exactly these texts.

* `fits_scan_iff`, `fits_collapse_iff` — reading a pattern into tokens and joining
  its stars keeps the texts that it denotes.
* `fits_of_earlier_star` — what an earlier star could still reach, the latest star
  reaches too.
* `run_iff_promising` — the search answers yes exactly when something that it has
  not yet ruled out fits.
* `matchesText_iff_denotes` — the search ends, and its answer is whether the
  pattern denotes the text.
-/

import Spreadsheet.Criteria.Glob

namespace Spreadsheet.Glob

/-! ### What patterns denote -/

/-- `Denotes pattern text`: the pattern, read from the left, stands for the whole
text. -/
inductive Denotes : (pattern text : Text) → Prop where
  | nothing : Denotes [] []
  | finalTilde : Denotes ['~'] ['~']
  | escaped (c : Char) {pattern text : Text} :
      Denotes pattern text → Denotes ('~' :: c :: pattern) (c :: text)
  | anyRun (taken : Text) {pattern text : Text} :
      Denotes pattern text → Denotes ('*' :: pattern) (taken ++ text)
  | anyOne (c : Char) {pattern text : Text} :
      Denotes pattern text → Denotes ('?' :: pattern) (c :: text)
  | itself {c : Char} {pattern text : Text} : c ≠ '~' → c ≠ '*' → c ≠ '?' →
      Denotes pattern text → Denotes (c :: pattern) (c :: text)

/-- `Fits tokens text`: the tokens stand for the whole text. -/
inductive Fits : List Token → Text → Prop where
  | nil : Fits [] []
  | anyRun (taken : Text) {tokens : List Token} {text : Text} :
      Fits tokens text → Fits (.anyRun :: tokens) (taken ++ text)
  | anyOne (c : Char) {tokens : List Token} {text : Text} :
      Fits tokens text → Fits (.anyOne :: tokens) (c :: text)
  | literal (c : Char) {tokens : List Token} {text : Text} :
      Fits tokens text → Fits (.literal c :: tokens) (c :: text)

theorem fits_nil_iff {text : Text} : Fits [] text ↔ text = [] := by
  constructor
  · intro h
    cases h
    rfl
  · rintro rfl
    exact .nil

theorem fits_anyRun_iff {tokens : List Token} {text : Text} :
    Fits (.anyRun :: tokens) text ↔ ∃ taken rest, text = taken ++ rest ∧ Fits tokens rest := by
  constructor
  · intro h
    cases h with
    | anyRun taken hrest => exact ⟨taken, _, rfl, hrest⟩
  · rintro ⟨taken, rest, rfl, hrest⟩
    exact .anyRun taken hrest

theorem fits_anyOne_iff {tokens : List Token} {text : Text} :
    Fits (.anyOne :: tokens) text ↔ ∃ c rest, text = c :: rest ∧ Fits tokens rest := by
  constructor
  · intro h
    cases h with
    | anyOne c hrest => exact ⟨c, _, rfl, hrest⟩
  · rintro ⟨c, rest, rfl, hrest⟩
    exact .anyOne c hrest

theorem fits_literal_iff {c : Char} {tokens : List Token} {text : Text} :
    Fits (.literal c :: tokens) text ↔ ∃ rest, text = c :: rest ∧ Fits tokens rest := by
  constructor
  · intro h
    cases h with
    | literal c hrest => exact ⟨_, rfl, hrest⟩
  · rintro ⟨rest, rfl, hrest⟩
    exact .literal c hrest

/-- A star that starts later may start earlier as well. -/
theorem fits_anyRun_of_suffix {tokens : List Token} {text rest : Text}
    (h : Fits (.anyRun :: tokens) rest) (hsuffix : rest <:+ text) :
    Fits (.anyRun :: tokens) text := by
  obtain ⟨before, rfl⟩ := hsuffix
  obtain ⟨taken, left, rfl, hleft⟩ := fits_anyRun_iff.mp h
  rw [← List.append_assoc]
  exact .anyRun _ hleft

/-- Tokens without a star take one character each. -/
theorem exists_of_fits_append {passed tokens : List Token} {text : Text}
    (hstar : .anyRun ∉ passed) (h : Fits (passed ++ tokens) text) :
    ∃ taken rest, text = taken ++ rest ∧ taken.length = passed.length ∧ Fits tokens rest := by
  induction passed generalizing text with
  | nil => exact ⟨[], text, rfl, rfl, h⟩
  | cons token passed ih =>
    rw [List.mem_cons, not_or] at hstar
    have hone : ∃ c rest, text = c :: rest ∧ Fits (passed ++ tokens) rest := by
      cases token with
      | anyRun => exact absurd rfl hstar.1
      | anyOne => exact fits_anyOne_iff.mp h
      | literal c =>
        obtain ⟨rest, htext, hrest⟩ := fits_literal_iff.mp h
        exact ⟨c, rest, htext, hrest⟩
    obtain ⟨c, left, rfl, hleft⟩ := hone
    obtain ⟨taken, rest, rfl, hlength, hrest⟩ := ih hstar.2 hleft
    exact ⟨c :: taken, rest, rfl, by simp [hlength], hrest⟩

/-! ### Reading patterns -/

/-- The tokens of a pattern fit what the pattern denotes. -/
theorem fits_scan_iff {pattern text : Text} : Fits (scan pattern) text ↔ Denotes pattern text := by
  constructor
  · intro h
    induction pattern using pattern_induction generalizing text with
    | nil =>
      rw [fits_nil_iff.mp h]
      exact .nothing
    | final =>
      obtain ⟨rest, rfl, hrest⟩ := fits_literal_iff.mp h
      rw [fits_nil_iff.mp hrest]
      exact .finalTilde
    | escaped c pattern ih =>
      obtain ⟨rest, rfl, hrest⟩ := fits_literal_iff.mp h
      exact .escaped c (ih hrest)
    | other c pattern htilde ih =>
      rw [scan_other htilde] at h
      split at h
      · rename_i hstar
        obtain ⟨taken, rest, rfl, hrest⟩ := fits_anyRun_iff.mp h
        rw [hstar]
        exact .anyRun taken (ih hrest)
      · rename_i hstar
        split at h
        · rename_i hone
          obtain ⟨d, rest, rfl, hrest⟩ := fits_anyOne_iff.mp h
          rw [hone]
          exact .anyOne d (ih hrest)
        · rename_i hone
          obtain ⟨rest, rfl, hrest⟩ := fits_literal_iff.mp h
          exact .itself htilde hstar hone (ih hrest)
  · intro h
    induction h with
    | nothing => exact .nil
    | finalTilde => exact .literal '~' .nil
    | escaped c _ ih => exact .literal c ih
    | anyRun taken _ ih => exact .anyRun taken ih
    | anyOne c _ ih => exact .anyOne c ih
    | itself htilde hstar hone _ ih =>
      rw [scan_other htilde, if_neg hstar, if_neg hone]
      exact .literal _ ih

/-- Joining stars keeps what fits: two stars in a row take what one can take. -/
theorem fits_collapse_iff {tokens : List Token} {text : Text} :
    Fits (collapse tokens) text ↔ Fits tokens text := by
  fun_induction collapse tokens generalizing text with
  | case1 tokens ih =>
    rw [ih]
    constructor
    · exact fun h => .anyRun [] h
    · intro h
      obtain ⟨taken, rest, rfl, hrest⟩ := fits_anyRun_iff.mp h
      exact fits_anyRun_of_suffix hrest (List.suffix_append taken rest)
  | case2 token tokens _ ih =>
    cases token with
    | anyRun => simp only [fits_anyRun_iff, ih]
    | anyOne => simp only [fits_anyOne_iff, ih]
    | literal c => simp only [fits_literal_iff, ih]
  | case3 => exact Iff.rfl

/-! ### The search -/

namespace Search

/-- Since the latest star, every token that was passed has taken one character. -/
def Anchored (search : Search) : Prop :=
  ∀ latest ∈ search.star, ∃ passed taken,
    latest.tokens = passed ++ search.tokens ∧ latest.text = taken ++ search.text ∧
      passed.length = taken.length ∧ .anyRun ∉ passed

/-- What the search has not ruled out: that the tokens fit the text that is left, or
that they do after the latest star has taken more. -/
def Promising (search : Search) : Prop :=
  Fits search.tokens search.text ∨
    ∃ latest ∈ search.star, ∃ c rest,
      latest.text = c :: rest ∧ Fits (.anyRun :: latest.tokens) rest

/-- Whatever an earlier star could reach by taking more, the latest one reaches from
where it stands: the tokens between the two cannot end further left than they did. -/
theorem fits_of_earlier_star {passed tokens : List Token} {taken text rest : Text} {c : Char}
    (hstar : .anyRun ∉ passed) (hlength : passed.length = taken.length)
    (htext : taken ++ text = c :: rest)
    (h : Fits (.anyRun :: (passed ++ .anyRun :: tokens)) rest) :
    Fits (.anyRun :: tokens) text := by
  obtain ⟨skipped, left, rfl, hleft⟩ := fits_anyRun_iff.mp h
  obtain ⟨taken', rest', rfl, hlength', hrest⟩ := exists_of_fits_append hstar hleft
  refine fits_anyRun_of_suffix hrest ?_
  have hsuffix : rest' <:+ taken ++ text := by
    rw [htext, ← List.append_assoc, ← List.cons_append]
    exact List.suffix_append _ _
  refine List.suffix_of_suffix_length_le hsuffix (List.suffix_append taken text) ?_
  have := congrArg List.length htext
  simp only [List.length_append, List.length_cons] at this
  omega

/-- A search at a star has ruled out nothing that the star may take. -/
theorem promising_atStar_iff {tokens : List Token} {text : Text} :
    (atStar tokens text).Promising ↔ Fits (.anyRun :: tokens) text := by
  rw [fits_anyRun_iff]
  constructor
  · rintro (h | ⟨latest, hmem, c, rest, htext, hrest⟩)
    · exact ⟨[], text, rfl, h⟩
    · cases hmem
      obtain ⟨taken, left, rfl, hleft⟩ := fits_anyRun_iff.mp hrest
      exact ⟨c :: taken, left, htext, hleft⟩
  · rintro ⟨taken, rest, htext, hrest⟩
    cases taken with
    | nil => exact Or.inl (htext ▸ hrest)
    | cons c taken =>
      exact Or.inr ⟨⟨tokens, text⟩, rfl, c, taken ++ rest, htext, .anyRun taken hrest⟩

theorem anchored_atStar (tokens : List Token) (text : Text) : (atStar tokens text).Anchored := by
  intro latest hmem
  cases hmem
  exact ⟨[], [], rfl, rfl, rfl, List.not_mem_nil⟩

/-- At a mismatch only the latest star is left, and the search goes on from there. -/
theorem promising_of_retry {search later : Search} (hfits : ¬ Fits search.tokens search.text)
    (h : retry search.star = .next later) :
    later.Anchored ∧ (later.Promising ↔ search.Promising) := by
  unfold retry at h
  split at h
  · rename_i tokens c rest hstar
    cases h
    refine ⟨anchored_atStar tokens rest, ?_⟩
    rw [promising_atStar_iff, Promising, or_iff_right hfits]
    constructor
    · intro hrest
      exact ⟨⟨tokens, c :: rest⟩, hstar, c, rest, rfl, hrest⟩
    · rintro ⟨latest, hmem, d, rest', htext, hrest⟩
      rw [hstar] at hmem
      cases hmem
      cases htext
      exact hrest
  · cases h

/-- With no star that can take more, a mismatch rules out everything. -/
theorem not_promising_of_retry {search : Search} {answer : Bool}
    (hfits : ¬ Fits search.tokens search.text) (h : retry search.star = .decided answer) :
    answer = false ∧ ¬ search.Promising := by
  unfold retry at h
  split at h
  · cases h
  · rename_i hstar
    cases h
    refine ⟨rfl, ?_⟩
    rintro (hnow | ⟨⟨tokens, text⟩, hmem, c, rest, htext, _⟩)
    · exact hfits hnow
    · cases htext
      exact hstar tokens c rest hmem

/-! ### Steps and runs -/

theorem not_fits_of_mismatch {tokens : List Token} {text : Text}
    (h : move tokens text = .mismatch) : ¬ Fits tokens text := by
  intro hfits
  cases hfits with
  | nil => cases h
  | anyRun taken hrest => cases h
  | anyOne c hrest => cases h
  | literal c hrest =>
    rw [move, if_pos rfl] at h
    cases h

/-- A token that takes a character is no star, and it fits when what is left fits
what is left. -/
theorem exists_of_move_take {tokens left : List Token} {text rest : Text}
    (h : move tokens text = .take left rest) :
    ∃ token c, tokens = token :: left ∧ text = c :: rest ∧ token ≠ .anyRun ∧
      (Fits left rest ↔ Fits tokens text) := by
  unfold move at h
  split at h
  · cases h
  · cases h
  · rename_i tokens c text
    cases h
    refine ⟨.anyOne, c, rfl, rfl, Token.noConfusion, fun hfits => .anyOne c hfits, ?_⟩
    intro hfits
    obtain ⟨d, rest, htext, hrest⟩ := fits_anyOne_iff.mp hfits
    cases htext
    exact hrest
  · rename_i d tokens c text
    split at h
    · rename_i heq
      cases h
      cases heq
      refine ⟨.literal d, d, rfl, rfl, Token.noConfusion, fun hfits => .literal d hfits, ?_⟩
      intro hfits
      obtain ⟨rest, htext, hrest⟩ := fits_literal_iff.mp hfits
      cases htext
      exact hrest
    · cases h
  · cases h

/-- A step that decides answers whether anything that fits was left. -/
theorem promising_of_step_decided {search : Search} {answer : Bool}
    (h : search.step = .decided answer) : answer = true ↔ search.Promising := by
  unfold step at h
  split at h
  · rename_i hmove
    cases h
    refine ⟨fun _ => Or.inl ?_, fun _ => rfl⟩
    unfold move at hmove
    split at hmove
    · rename_i htokens htext
      rw [htokens, htext]
      exact .nil
    · cases hmove
    · cases hmove
    · split at hmove <;> cases hmove
    · cases hmove
  · cases h
  · cases h
  · rename_i hmove
    obtain ⟨rfl, hnot⟩ := not_promising_of_retry (not_fits_of_mismatch hmove) h
    simp [hnot]

/-- A step to another state rules out only what does not fit. -/
theorem promising_of_step_next {search later : Search} (hanchored : search.Anchored)
    (h : search.step = .next later) :
    later.Anchored ∧ (later.Promising ↔ search.Promising) := by
  unfold step at h
  split at h
  · cases h
  · rename_i tokens text hmove
    cases h
    obtain ⟨htokens, htext⟩ := eq_of_move_star hmove
    refine ⟨anchored_atStar tokens text, ?_⟩
    rw [promising_atStar_iff]
    constructor
    · intro hfits
      left
      rw [htokens, htext]
      exact hfits
    · rintro (hfits | ⟨latest, hmem, c, rest, htext', hrest⟩)
      · rw [htokens, htext] at hfits
        exact hfits
      · -- The star that is given up: what it reached, the new one reaches.
        obtain ⟨passed, taken, hpassed, htaken, hlength, hstar⟩ := hanchored latest hmem
        rw [hpassed, htokens] at hrest
        rw [htaken, htext] at htext'
        exact fits_of_earlier_star hstar hlength htext' hrest
  · rename_i tokens text hmove
    cases h
    obtain ⟨token, c, htokens, htext, htoken, hfits⟩ := exists_of_move_take hmove
    refine ⟨?_, or_congr_left hfits⟩
    intro latest hmem
    obtain ⟨passed, taken, hpassed, htaken, hlength, hstar⟩ := hanchored latest hmem
    rw [htokens] at hpassed
    rw [htext] at htaken
    refine ⟨passed ++ [token], taken ++ [c], ?_, ?_, ?_, ?_⟩
    · rw [hpassed, List.append_assoc, List.singleton_append]
    · rw [htaken, List.append_assoc, List.singleton_append]
    · simp [hlength]
    · simp [hstar, Ne.symm htoken]
  · rename_i hmove
    exact promising_of_retry (not_fits_of_mismatch hmove) h

/-- The search answers yes exactly when something that it has not ruled out fits. -/
theorem run_iff_promising {search : Search} (hanchored : search.Anchored) :
    search.run = true ↔ search.Promising := by
  fun_induction run search with
  | case1 search answer hstep => exact promising_of_step_decided hstep
  | case2 search later hstep ih =>
    obtain ⟨hlater, hiff⟩ := promising_of_step_next hanchored hstep
    rw [ih hlater, hiff]

/-- `Decides search answer`: finitely many steps lead from the state to the answer. -/
inductive Decides : Search → Bool → Prop where
  | here {search : Search} {answer : Bool} :
      search.step = .decided answer → Decides search answer
  | later {search later : Search} {answer : Bool} :
      search.step = .next later → Decides later answer → Decides search answer

theorem decides_run (search : Search) : search.Decides search.run := by
  fun_induction run search with
  | case1 search answer hstep => exact .here hstep
  | case2 search later hstep ih => exact .later hstep ih

end Search

/-- A text matches when the tokens of the pattern, stars not joined, fit it. -/
theorem matchesText_iff_fits {pattern text : Text} :
    matchesText pattern text = true ↔ Fits (scan pattern) text := by
  have hanchored : (Search.start (tokens pattern) text).Anchored := by
    intro latest hmem
    cases hmem
  rw [matchesText, Search.run_iff_promising hanchored, ← fits_collapse_iff]
  constructor
  · rintro (hfits | ⟨latest, hmem, _⟩)
    · exact hfits
    · cases hmem
  · exact Or.inl

/-- **Matching decides the language of the pattern.** The search ends after finitely
many steps, and its answer is whether the pattern denotes the whole text. Joining
the stars of the pattern and forgetting all but the latest one lose no match. -/
theorem matchesText_iff_denotes (pattern text : Text) :
    (Search.start (tokens pattern) text).Decides (matchesText pattern text) ∧
      (matchesText pattern text = true ↔ Denotes pattern text) :=
  ⟨Search.decides_run _, matchesText_iff_fits.trans fits_scan_iff⟩

end Spreadsheet.Glob
