/-
# Patterns with wildcards

A pattern stands for texts: `*` for any run of characters, `?` for exactly one
character, `~` and a character for that character, and every other character for
itself. A `~` at the end stands for itself.

The matcher is a search that goes on step by step, over the tokens and the text. At
a star it forgets every earlier star: whatever text the earlier ones took, the
latest star can take up the rest.

* `pattern_induction` — what patterns start with.
* `step_decreases` — each step shortens the text that the latest star may still
  take, or else the tokens that are left; this is why the search ends.
-/

import Spreadsheet.Text.Basic

namespace Spreadsheet

namespace Glob

/-- A part of a pattern. -/
inductive Token where
  | anyRun
  | anyOne
  | literal (c : Char)
deriving DecidableEq

/-! ### Reading patterns -/

/-- The tokens of a pattern, character by character. -/
def scan : Text → List Token
  | [] => []
  | ['~'] => [.literal '~']
  | '~' :: c :: rest => .literal c :: scan rest
  | c :: rest =>
    (if c = '*' then .anyRun else if c = '?' then .anyOne else .literal c) :: scan rest

/-- The tokens with every run of stars made one star. -/
def collapse : List Token → List Token
  | .anyRun :: .anyRun :: rest => collapse (.anyRun :: rest)
  | token :: rest => token :: collapse rest
  | [] => []

/-- The tokens that a pattern is matched by. -/
def tokens (pattern : Text) : List Token :=
  collapse (scan pattern)

/-- Whether the pattern has a wildcard that is not escaped. -/
def hasWildcards : Text → Bool
  | [] => false
  | ['~'] => false
  | '~' :: _ :: rest => hasWildcards rest
  | c :: rest => if c = '*' ∨ c = '?' then true else hasWildcards rest

/-- The pattern without the escape marks. -/
def unescape : Text → Text
  | [] => []
  | ['~'] => ['~']
  | '~' :: c :: rest => c :: unescape rest
  | c :: rest => c :: unescape rest

/-- A pattern is empty, or an escape mark alone, or starts with an escaped character or with one
that is no escape mark. -/
theorem pattern_induction {motive : Text → Prop} (nil : motive []) (final : motive ['~'])
    (escaped : ∀ c rest, motive rest → motive ('~' :: c :: rest))
    (other : ∀ c rest, c ≠ '~' → motive rest → motive (c :: rest)) (pattern : Text) :
    motive pattern := by
  fun_induction unescape pattern with
  | case1 => exact nil
  | case2 => exact final
  | case3 c rest ih => exact escaped c rest ih
  | case4 c rest hfinal hescaped ih =>
    refine other c rest ?_ ih
    rintro rfl
    cases rest with
    | nil => exact hfinal rfl rfl
    | cons d rest => exact hescaped d rest rfl rfl

section Other

variable {c : Char} (htilde : c ≠ '~') (rest : Text)
include htilde

theorem scan_other : scan (c :: rest) =
    (if c = '*' then .anyRun else if c = '?' then .anyOne else .literal c) :: scan rest := by
  rw [scan]
  · exact fun h => absurd h htilde
  · exact fun _ _ h => absurd h htilde

theorem hasWildcards_other : hasWildcards (c :: rest) =
    if c = '*' ∨ c = '?' then true else hasWildcards rest := by
  rw [hasWildcards]
  · exact fun h => absurd h htilde
  · exact fun _ _ h => absurd h htilde

theorem unescape_other : unescape (c :: rest) = c :: unescape rest := by
  rw [unescape]
  · exact fun h => absurd h htilde
  · exact fun _ _ h => absurd h htilde

end Other

/-! ### Matching -/

/-- What the first token that is left does with the text that is left. -/
inductive Move where
  | finish
  | star (tokens : List Token) (text : Text)
  | take (tokens : List Token) (text : Text)
  | mismatch

/-- The move of the first token: a star takes nothing yet, and any other token takes
a character that it stands for. -/
def move : List Token → Text → Move
  | [], [] => .finish
  | .anyRun :: tokens, text => .star tokens text
  | .anyOne :: tokens, _ :: text => .take tokens text
  | .literal c :: tokens, d :: text => if c = d then .take tokens text else .mismatch
  | _, _ => .mismatch

/-- A token that takes a character leaves one token and one character less. -/
theorem length_of_move_take {tokens left : List Token} {text rest : Text}
    (h : move tokens text = .take left rest) :
    tokens.length = left.length + 1 ∧ text.length = rest.length + 1 := by
  unfold move at h
  split at h
  · cases h
  · cases h
  · cases h
    exact ⟨rfl, rfl⟩
  · split at h
    · cases h
      exact ⟨rfl, rfl⟩
    · cases h
  · cases h

/-- A star leaves the tokens after it and all of the text. -/
theorem eq_of_move_star {tokens left : List Token} {text rest : Text}
    (h : move tokens text = .star left rest) : tokens = .anyRun :: left ∧ text = rest := by
  unfold move at h
  split at h
  · cases h
  · cases h
    exact ⟨rfl, rfl⟩
  · cases h
  · split at h <;> cases h
  · cases h

/-- The latest star of a search: the tokens after it, and the text that they are
tried on. -/
structure Star where
  tokens : List Token
  text : Text

/-- A state of the search: the tokens and the text that are left, and the latest
star, if there was one. -/
structure Search where
  tokens : List Token
  text : Text
  star : Option Star
  /-- No more text is left than the tokens after the star are tried on. -/
  text_le : ∀ latest ∈ star, text.length ≤ latest.text.length

/-- What a step of the search leads to. -/
inductive Outcome where
  | decided (answer : Bool)
  | next (search : Search)

namespace Search

/-- The search for a match of the tokens with the whole text. -/
def start (tokens : List Token) (text : Text) : Search :=
  ⟨tokens, text, none, by simp⟩

/-- The search after a star: the tokens that follow it are tried on the text. -/
def atStar (tokens : List Token) (text : Text) : Search :=
  ⟨tokens, text, some ⟨tokens, text⟩, by simp⟩

/-- The search after a mismatch: the latest star takes one more character, if there
is one. -/
def retry : Option Star → Outcome
  | some ⟨tokens, _ :: text⟩ => .next (atStar tokens text)
  | _ => .decided false

/-- One step of the search. -/
def step (search : Search) : Outcome :=
  match h : move search.tokens search.text with
  | .finish => .decided true
  | .star tokens text => .next (atStar tokens text)
  | .take tokens text => .next ⟨tokens, text, search.star, fun latest hlatest => by
      have := search.text_le latest hlatest
      have := length_of_move_take h
      omega⟩
  | .mismatch => retry search.star

/-- The text that the latest star may still take; before the first star, one
character more than all that is left. -/
def room (search : Search) : Nat :=
  match search.star with
  | some latest => latest.text.length
  | none => search.text.length + 1

theorem text_length_le_room (search : Search) : search.text.length ≤ search.room := by
  have hle := search.text_le
  unfold room
  split
  · rename_i latest hstar
    exact hle latest hstar
  · omega

/-- Each step leaves less text to the latest star, or no more of it and fewer
tokens. -/
theorem step_decreases {search later : Search} (h : search.step = .next later) :
    later.room < search.room ∨
      later.room ≤ search.room ∧ later.tokens.length < search.tokens.length := by
  unfold step at h
  split at h
  · cases h
  · rename_i tokens text hmove
    cases h
    obtain ⟨htokens, htext⟩ := eq_of_move_star hmove
    have hroom := search.text_length_le_room
    rw [htext] at hroom
    rw [htokens]
    exact Or.inr ⟨hroom, Nat.lt_succ_self _⟩
  · rename_i tokens text hmove
    cases h
    have hlengths := length_of_move_take hmove
    right
    unfold room
    dsimp only
    split <;> omega
  · unfold retry at h
    split at h
    · rename_i tokens c text hstar
      cases h
      left
      simp [room, hstar, atStar]
    · cases h

/-- The answer of the search. -/
def run (search : Search) : Bool :=
  match _h : search.step with
  | .decided answer => answer
  | .next later => later.run
termination_by (search.room, search.tokens.length)
decreasing_by
  rcases step_decreases _h with hroom | ⟨hroom, htokens⟩
  · exact Prod.Lex.left _ _ hroom
  · exact Prod.Lex.right' _ hroom htokens

end Search

/-- Whether the pattern matches the whole text. -/
def matchesText (pattern text : Text) : Bool :=
  (Search.start (tokens pattern) text).run

end Glob

end Spreadsheet
