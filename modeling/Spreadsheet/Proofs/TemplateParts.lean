/-
# Templates and their parts

A text template is written from parts: text with its braces doubled, and placeholders. What it
shows is its parts in their order, with the value in the place of each placeholder. The marks of
neighbouring parts may stand next to each other, and still each brace is read as it was written.
And whatever the template, its parts are found without regard to the value, each in one step that
takes a character at least.

* `WritesTemplate` — how a template is written.
* `ReadsTemplate` — how a template is read, step by step.
* `substitute_cons` — what one step shows.
* `substitute_template` — what a template shows.
-/

import Spreadsheet.Format.Substitution
import Spreadsheet.Proofs.TextCuts

namespace Spreadsheet

/-! ### Parts -/

/-- A part of a template: text that is shown as it is, or a place for the value. -/
inductive TemplatePart where
  | literal (text : Text)
  | placeholder
deriving DecidableEq

namespace TemplatePart

/-- What the part shows. -/
def shown (value : Text) : TemplatePart → Text
  | literal text => text
  | placeholder => value

end TemplatePart

/-- What the parts show one after the other. -/
def shownParts (value : Text) (parts : List TemplatePart) : Text :=
  parts.flatMap (TemplatePart.shown value)

/-- Whether the character is a brace. -/
def isBrace (c : Char) : Bool :=
  c == '\x7b' || c == '\x7d'

theorem isBrace_iff {c : Char} : isBrace c = true ↔ c = '\x7b' ∨ c = '\x7d' := by
  simp [isBrace]

/-! ### Writing -/

/-- The text with its braces doubled. -/
def doubleBraces (text : Text) : Text :=
  text.flatMap fun c => if isBrace c then [c, c] else [c]

/-- How a placeholder is written: the number 0 in braces, and after it nothing, or a comma or a
colon and a text without braces. -/
inductive WritesPlaceholder : (mark : Text) → Prop
  | plain : WritesPlaceholder ['\x7b', '0', '\x7d']
  | detailed {sign : Char} {detail : Text} (hsign : sign = ',' ∨ sign = ':')
    (hdetail : ∀ c ∈ detail, isBrace c = false) :
    WritesPlaceholder ('\x7b' :: '0' :: sign :: (detail ++ ['\x7d']))

/-- `WritesTemplate parts template`: the template is written from the parts, one after the
other. -/
inductive WritesTemplate : (parts : List TemplatePart) → (template : Text) → Prop
  | nil : WritesTemplate [] []
  | literal (text : Text) {parts : List TemplatePart} {template : Text} :
    WritesTemplate parts template →
      WritesTemplate (.literal text :: parts) (doubleBraces text ++ template)
  | placeholder {mark : Text} {parts : List TemplatePart} {template : Text} :
    WritesPlaceholder mark → WritesTemplate parts template →
      WritesTemplate (.placeholder :: parts) (mark ++ template)

/-! ### Reading -/

/-- The first part of a template that begins with `c`, and the template after it: a doubled brace,
a placeholder, or the character alone. -/
def TemplatePart.first (c : Char) (rest : Text) : TemplatePart × Text :=
  if isBrace c && rest.head? == some c then (.literal [c], rest.tail)
  else
    match if c = '\x7b' then afterPlaceholder? rest else none with
    | some after => (.placeholder, after)
    | none => (.literal [c], rest)

/-- `ReadsTemplate template parts`: read from the left, one part in each step, the template has
these parts. -/
inductive ReadsTemplate : (template : Text) → (parts : List TemplatePart) → Prop
  | nil : ReadsTemplate [] []
  | step {c : Char} {rest : Text} {parts : List TemplatePart} :
    ReadsTemplate (TemplatePart.first c rest).2 parts →
      ReadsTemplate (c :: rest) ((TemplatePart.first c rest).1 :: parts)

/-- A step takes a character at least. -/
theorem TemplatePart.length_first_le (c : Char) (rest : Text) :
    (first c rest).2.length ≤ rest.length := by
  unfold first
  split
  · simp
  · split
    · rename_i after hafter
      split at hafter
      · exact Nat.le_of_lt (length_afterPlaceholder? hafter)
      · cases hafter
    · exact Nat.le_refl _

/-- **A step shows its part**, and then the template after it is read. -/
theorem substitute_cons (value : Text) (c : Char) (rest : Text) :
    substitute value (c :: rest) =
      (TemplatePart.first c rest).1.shown value ++
        substitute value (TemplatePart.first c rest).2 := by
  cases rest with
  | nil =>
    have hafter : afterPlaceholder? [] = none := rfl
    simp [TemplatePart.first, hafter, TemplatePart.shown, substitute]
  | cons d rest =>
    rw [substitute]
    by_cases hdoubled : c = d ∧ (c = '\x7b' ∨ c = '\x7d')
    · have hfirst : TemplatePart.first c (d :: rest) = (.literal [c], rest) := by
        rw [TemplatePart.first, if_pos]
        · rfl
        · rw [Bool.and_eq_true, isBrace_iff]
          exact ⟨hdoubled.2, by simp [hdoubled.1]⟩
      rw [if_pos hdoubled, hfirst]
      rfl
    · have halone : ¬(isBrace c && (d :: rest).head? == some c) = true := by
        rw [Bool.and_eq_true, isBrace_iff]
        rintro ⟨hbrace, hsame⟩
        simp only [List.head?_cons, beq_iff_eq, Option.some.injEq] at hsame
        exact hdoubled ⟨hsame.symm, hbrace⟩
      rw [if_neg hdoubled, TemplatePart.first, if_neg halone]
      by_cases hopen : c = '\x7b'
      · rw [if_pos hopen, if_pos hopen]
        split
        · rename_i after hafter
          rw [hafter]
          rfl
        · rename_i hafter
          rw [hafter]
          rfl
      · rw [if_neg hopen, if_neg hopen]
        rfl

/-- Every template is read in finitely many steps, of which there are no more than it has
characters. -/
theorem exists_readsTemplate (template : Text) :
    ∃ parts, ReadsTemplate template parts ∧ parts.length ≤ template.length := by
  induction hlength : template.length using Nat.strong_induction_on generalizing template with
  | _ length ih =>
    cases template with
    | nil => exact ⟨[], .nil, Nat.zero_le _⟩
    | cons c rest =>
      have hshorter := TemplatePart.length_first_le c rest
      rw [List.length_cons] at hlength
      obtain ⟨parts, hparts, hcount⟩ := ih _ (by omega) (TemplatePart.first c rest).2 rfl
      refine ⟨_, .step hparts, ?_⟩
      rw [List.length_cons]
      omega

/-- **The parts that are read are what a template shows**, whatever the value. -/
theorem substitute_of_readsTemplate {template : Text} {parts : List TemplatePart}
    (h : ReadsTemplate template parts) (value : Text) :
    substitute value template = shownParts value parts := by
  induction h with
  | nil => rw [substitute]; rfl
  | step _ ih =>
    rw [substitute_cons, ih]
    rfl

/-! ### Reading what is written -/

/-- Doubled braces are read as the braces that they were written for. -/
theorem substitute_doubleBraces (value text template : Text) :
    substitute value (doubleBraces text ++ template) = text ++ substitute value template := by
  induction text with
  | nil => rfl
  | cons c text ih =>
    have hcut : doubleBraces (c :: text) = (if isBrace c then [c, c] else [c]) ++
        doubleBraces text := List.flatMap_cons
    rw [hcut, List.append_assoc]
    cases hbrace : isBrace c with
    | true =>
      have hfirst : TemplatePart.first c (c :: (doubleBraces text ++ template)) =
          (.literal [c], doubleBraces text ++ template) := by
        rw [TemplatePart.first, if_pos (by simp [hbrace])]
        rfl
      change substitute value (c :: c :: (doubleBraces text ++ template)) = _
      rw [substitute_cons, hfirst, ih]
      rfl
    | false =>
      have hopen : c ≠ '\x7b' := by
        rintro rfl
        cases hbrace
      have hfirst : TemplatePart.first c (doubleBraces text ++ template) =
          (.literal [c], doubleBraces text ++ template) := by
        rw [TemplatePart.first, if_neg (by simp [hbrace]), if_neg hopen]
      change substitute value (c :: (doubleBraces text ++ template)) = _
      rw [substitute_cons, hfirst, ih]
      rfl

/-- A placeholder ends at its brace, whatever comes after it. -/
theorem afterPlaceholder?_append {body : Text} (hbody : ∀ c ∈ body, c ≠ '\x7d')
    (hnumber : Text.trim (body.takeWhile fun c => !(c == ',' || c == ':')) = ['0'])
    (template : Text) :
    afterPlaceholder? (body ++ '\x7d' :: template) = some template := by
  have hbreak : Text.breakAt (· == '\x7d') (body ++ '\x7d' :: template) =
      (body, '\x7d' :: template) :=
    Text.breakAt_append_cons (fun c hc => beq_false_of_ne (hbody c hc)) rfl
  rw [afterPlaceholder?, hbreak]
  dsimp only
  rw [if_pos hnumber]

/-- What stands between the braces of a placeholder: it starts with the number and holds no closing
brace. -/
theorem WritesPlaceholder.exists_body {mark : Text} (h : WritesPlaceholder mark) :
    ∃ body, mark = '\x7b' :: '0' :: body ++ ['\x7d'] ∧ (∀ c ∈ '0' :: body, c ≠ '\x7d') ∧
      Text.trim (('0' :: body).takeWhile fun c => !(c == ',' || c == ':')) = ['0'] := by
  cases h with
  | plain => exact ⟨[], rfl, by simp, by decide⟩
  | @detailed sign detail hsign hdetail =>
    refine ⟨sign :: detail, rfl, ?_, ?_⟩
    · have hsignBrace : sign ≠ '\x7d' := by
        rcases hsign with rfl | rfl <;> decide
      simp only [List.forall_mem_cons]
      refine ⟨by decide, hsignBrace, ?_⟩
      rintro c hc rfl
      cases hdetail _ hc
    · have hnumber : ('0' :: sign :: detail).takeWhile (fun c => !(c == ',' || c == ':')) =
          ['0'] := by
        rcases hsign with rfl | rfl <;> rfl
      rw [hnumber]
      decide

/-- A placeholder shows the value, whatever comes after it. -/
theorem substitute_placeholder (value : Text) {mark : Text} (h : WritesPlaceholder mark)
    (template : Text) :
    substitute value (mark ++ template) = value ++ substitute value template := by
  obtain ⟨body, rfl, hclosed, hnumber⟩ := h.exists_body
  have hafter := afterPlaceholder?_append hclosed hnumber template
  have hfirst : TemplatePart.first '\x7b' ('0' :: body ++ '\x7d' :: template) =
      (.placeholder, template) := by
    rw [TemplatePart.first, if_neg (by simp), if_pos rfl, hafter]
  have hcut : '\x7b' :: '0' :: body ++ ['\x7d'] ++ template =
      '\x7b' :: ('0' :: body ++ '\x7d' :: template) := by simp
  rw [hcut, substitute_cons, hfirst]
  rfl

/-- **The parts that a template is written from are what it shows.** -/
theorem substitute_of_writesTemplate {parts : List TemplatePart} {template : Text}
    (h : WritesTemplate parts template) (value : Text) :
    substitute value template = shownParts value parts := by
  induction h with
  | nil => rw [substitute]; rfl
  | literal text _ ih =>
    rw [substitute_doubleBraces, ih]
    rfl
  | placeholder hmark _ ih =>
    rw [substitute_placeholder value hmark, ih]
    rfl

/-- **What a template shows.** A template that is written from parts, its braces doubled in the
text and `{0}` in the place of each placeholder, with or without a comma or a colon and a text
behind the number, shows these parts with the value in the place of each placeholder. And every
template, whether its braces are balanced or not, is read to its end in no more steps than it has
characters: the parts that are read do not depend on the value, and are what the template shows, so
no brace of a value is taken for one of the template. -/
theorem substitute_template (template : Text) :
    (∀ parts, WritesTemplate parts template →
        ∀ value, substitute value template = shownParts value parts) ∧
      ∃ parts, ReadsTemplate template parts ∧ parts.length ≤ template.length ∧
        ∀ value, substitute value template = shownParts value parts := by
  obtain ⟨parts, hparts, hcount⟩ := exists_readsTemplate template
  exact ⟨fun _ hwritten => substitute_of_writesTemplate hwritten,
    parts, hparts, hcount, substitute_of_readsTemplate hparts⟩

/-- A placeholder between two braces, and a value that looks like a placeholder. -/
theorem substitute_template_braces :
    WritesTemplate [.literal ['\x7b'], .placeholder, .literal ['\x7d']]
        "\x7b\x7b\x7b0,5\x7d\x7d\x7d".toList ∧
      substitute "\x7b0\x7d".toList "\x7b\x7b\x7b0,5\x7d\x7d\x7d".toList =
        "\x7b\x7b0\x7d\x7d".toList := by
  have hmark : WritesPlaceholder "\x7b0,5\x7d".toList :=
    @WritesPlaceholder.detailed ',' ['5'] (Or.inl rfl) (by simp [isBrace])
  have hwritten : WritesTemplate [.literal ['\x7b'], .placeholder, .literal ['\x7d']]
      "\x7b\x7b\x7b0,5\x7d\x7d\x7d".toList :=
    .literal ['\x7b'] (.placeholder hmark (.literal ['\x7d'] .nil))
  refine ⟨hwritten, ?_⟩
  rw [(substitute_template _).1 _ hwritten]
  decide

end Spreadsheet
