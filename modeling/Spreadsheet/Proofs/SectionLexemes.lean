/-
# Sections and lexemes

Two readers of a number pattern share its quoting. One looks for the semicolons between
sections and remembers nothing but an open quote or a backslash; the other cuts the pattern into
lexemes and looks ahead for exponents. They agree: a pattern is cut at the semicolons that are
lexemes of their own, and what a section means does not depend on the others.

* `Lexeme.Before` — which texts a lexeme can stand before.
* `lexemes_source_append`, `sections_source_append` — both readers at a lexeme.
* `sections_agree` — the sections are the lexemes of the pattern between its semicolons.
-/

import Mathlib.Data.Bool.AllAny
import Spreadsheet.Format.NumberPattern
import Spreadsheet.Format.Section
import Spreadsheet.Proofs.TextCuts

namespace Spreadsheet

namespace Lexeme

/-! ### What a lexeme can stand before -/

/-- `lexeme.Before rest`: the lexeme ends where `rest` starts. A backslash with no character
and an open quote end with the pattern. An `E` is bare when no zero follows it, be it after a
sign, and otherwise takes all zeros. -/
inductive Before : Lexeme → Text → Prop where
  | bare {c : Char} {rest : Text} : c ≠ '\\' → ¬(c = '"' ∨ c = '\'') →
      (c = 'E' ∨ c = 'e' → (splitSign rest).2.head? ≠ some '0') → Before (.bare c) rest
  | escaped (c : Char) (rest : Text) : Before (.escaped (some c)) rest
  | escapedEnd : Before (.escaped none) []
  | quoted {quote : Char} {body : Text} (rest : Text) : quote = '"' ∨ quote = '\'' →
      quote ∉ body → Before (.quoted quote body true) rest
  | quotedEnd {quote : Char} {body : Text} : quote = '"' ∨ quote = '\'' → quote ∉ body →
      Before (.quoted quote body false) []
  | exponent {marker : Char} {sign : Option Char} {zeros : Nat} {rest : Text} :
      marker = 'E' ∨ marker = 'e' → (∀ c ∈ sign, c = '+' ∨ c = '-') → 0 < zeros →
      rest.head? ≠ some '0' → Before (.exponent marker sign zeros) rest

/-- Whether the lexeme has an end of its own, and not that of the pattern. -/
def isClosed : Lexeme → Bool
  | .escaped none => false
  | .quoted _ _ closed => closed
  | _ => true

/-- Only at the end of the pattern is a lexeme left open. -/
theorem Before.eq_nil {lexeme : Lexeme} {rest : Text} (h : lexeme.Before rest)
    (hopen : lexeme.isClosed = false) : rest = [] := by
  cases h with
  | escapedEnd => rfl
  | quotedEnd => rfl
  | bare => cases hopen
  | escaped => cases hopen
  | quoted => cases hopen
  | exponent => cases hopen

theorem head?_ne_of_isPrefix {front text : Text} {c : Char} (hpre : front <+: text)
    (h : text.head? ≠ some c) : front.head? ≠ some c := by
  obtain ⟨back, rfl⟩ := hpre
  cases front with
  | nil => simp
  | cons d front => exact h

/-- A text that is cut keeps its sign, unless the sign is cut off. -/
theorem splitSign_isPrefix {front text : Text} (hpre : front <+: text) :
    (splitSign front).2 <+: (splitSign text).2 := by
  obtain ⟨back, rfl⟩ := hpre
  cases front with
  | nil => exact List.nil_prefix
  | cons c front =>
    rw [List.cons_append, splitSign, splitSign]
    split
    · exact List.prefix_append front back
    · exact List.prefix_append (c :: front) back

/-- What a lexeme stands before can be cut short. -/
theorem Before.of_isPrefix {lexeme : Lexeme} {front rest : Text} (h : lexeme.Before rest)
    (hpre : front <+: rest) : lexeme.Before front := by
  cases h with
  | bare hescape hquote hzero =>
    exact .bare hescape hquote fun hmarker =>
      head?_ne_of_isPrefix (splitSign_isPrefix hpre) (hzero hmarker)
  | escaped c => exact .escaped c front
  | escapedEnd =>
    rw [List.prefix_nil.mp hpre]
    exact .escapedEnd
  | quoted _ hquote hbody => exact .quoted front hquote hbody
  | quotedEnd hquote hbody =>
    rw [List.prefix_nil.mp hpre]
    exact .quotedEnd hquote hbody
  | exponent hmarker hsign hzeros hrest =>
    exact .exponent hmarker hsign hzeros (head?_ne_of_isPrefix hpre hrest)

/-! ### The reader of lexemes -/

theorem splitSign_sign (text : Text) : ∀ c ∈ (splitSign text).1, c = '+' ∨ c = '-' := by
  intro c hc
  cases text with
  | nil => cases hc
  | cons d rest =>
    rw [splitSign] at hc
    split at hc
    · rename_i hd
      cases hc
      exact hd
    · cases hc

/-- The first lexeme stands before what is left. -/
theorem before_first (c : Char) (rest : Text) : (first c rest).1.Before (first c rest).2 := by
  unfold first
  split
  · cases rest with
    | nil => exact .escapedEnd
    | cons d left => exact .escaped d left
  · rename_i hescape
    split
    · rename_i hquote
      split
      · rename_i hdrop
        refine .quotedEnd hquote fun hmem => ?_
        simpa using List.dropWhile_eq_nil_iff.mp hdrop c hmem
      · rename_i d left hdrop
        refine .quoted left hquote fun hmem => ?_
        simpa using List.mem_takeWhile_imp hmem
    · rename_i hquote
      split
      · rename_i hmarker
        dsimp only
        split
        · rename_i hempty
          refine .bare hescape hquote fun _ hhead => ?_
          obtain ⟨left, hleft⟩ := List.head?_eq_some_iff.mp hhead
          rw [hleft] at hempty
          cases hempty
        · rename_i hzeros
          refine .exponent hmarker (splitSign_sign rest) ?_ (Text.head?_dropWhile_ne '0' _)
          exact List.length_pos_iff.mpr fun hnil => hzeros (List.isEmpty_iff.mpr hnil)
      · rename_i hmarker
        exact .bare hescape hquote fun h => absurd h hmarker

theorem first_quoted {quote : Char} {body : Text} (hquote : quote = '"' ∨ quote = '\'')
    (hbody : quote ∉ body) (rest : Text) :
    first quote (body ++ quote :: rest) = (.quoted quote body true, rest) := by
  have hescape : quote ≠ '\\' := by rcases hquote with rfl | rfl <;> decide
  have hgoes : ∀ c ∈ body, (c != quote) = true := fun c hc =>
    bne_iff_ne.mpr fun heq => hbody (heq ▸ hc)
  have hstops : ∀ c ∈ (quote :: rest).head?, (c != quote) = false := by simp
  obtain ⟨htake, hdrop⟩ := Text.leadingRun_append hgoes hstops
  unfold first
  rw [if_neg hescape, if_pos hquote, hdrop, htake]

theorem first_quotedEnd {quote : Char} {body : Text} (hquote : quote = '"' ∨ quote = '\'')
    (hbody : quote ∉ body) : first quote body = (.quoted quote body false, []) := by
  have hescape : quote ≠ '\\' := by rcases hquote with rfl | rfl <;> decide
  have hrest : body.dropWhile (· != quote) = [] := by
    rw [List.dropWhile_eq_nil_iff]
    exact fun c hc => bne_iff_ne.mpr fun heq => hbody (heq ▸ hc)
  unfold first
  rw [if_neg hescape, if_pos hquote, hrest]

/-- Zeros end where something else starts. -/
theorem splitZeros {zeros : Nat} {rest : Text} (hrest : rest.head? ≠ some '0') :
    (List.replicate zeros '0' ++ rest).takeWhile (· == '0') = List.replicate zeros '0' ∧
      (List.replicate zeros '0' ++ rest).dropWhile (· == '0') = rest := by
  have hgoes : ∀ c ∈ List.replicate zeros '0', (c == '0') = true := fun c hc =>
    beq_iff_eq.mpr (List.eq_of_mem_replicate hc)
  refine Text.leadingRun_append hgoes fun c hc => ?_
  rw [Option.mem_def] at hc
  rw [hc, ne_eq, Option.some.injEq] at hrest
  exact beq_eq_false_iff_ne.mpr hrest

theorem splitSign_zeros {sign : Option Char} (hsign : ∀ c ∈ sign, c = '+' ∨ c = '-') {zeros : Nat}
    (hzeros : 0 < zeros) (rest : Text) :
    splitSign (sign.toList ++ (List.replicate zeros '0' ++ rest)) =
      (sign, List.replicate zeros '0' ++ rest) := by
  cases sign with
  | none =>
    obtain ⟨width, rfl⟩ := Nat.exists_eq_succ_of_ne_zero (Nat.ne_of_gt hzeros)
    rfl
  | some c => exact if_pos (hsign c rfl)

theorem first_exponent {marker : Char} {sign : Option Char} {zeros : Nat} {rest : Text}
    (hmarker : marker = 'E' ∨ marker = 'e') (hsign : ∀ c ∈ sign, c = '+' ∨ c = '-')
    (hzeros : 0 < zeros) (hrest : rest.head? ≠ some '0') :
    first marker (sign.toList ++ (List.replicate zeros '0' ++ rest)) =
      (.exponent marker sign zeros, rest) := by
  have hescape : marker ≠ '\\' := by rcases hmarker with rfl | rfl <;> decide
  have hquote : ¬(marker = '"' ∨ marker = '\'') := by rcases hmarker with rfl | rfl <;> decide
  have hsome : (List.replicate zeros '0').isEmpty = false := by
    rw [List.isEmpty_eq_false_iff, Ne, List.replicate_eq_nil_iff]
    exact Nat.ne_of_gt hzeros
  obtain ⟨hrun, hleft⟩ := @splitZeros zeros _ hrest
  unfold first
  rw [if_neg hescape, if_neg hquote, if_pos hmarker, splitSign_zeros hsign hzeros]
  dsimp only
  rw [hrun, hleft, hsome, if_neg Bool.false_ne_true, List.length_replicate]

theorem first_bare {c : Char} {rest : Text} (h : (Lexeme.bare c).Before rest) :
    first c rest = (.bare c, rest) := by
  cases h with
  | bare hescape hquote hzero =>
    unfold first
    rw [if_neg hescape, if_neg hquote]
    split
    · rename_i hmarker
      have hnone : (splitSign rest).2.takeWhile (· == '0') = [] :=
        (@splitZeros 0 _ (hzero hmarker)).1
      dsimp only
      rw [hnone, List.isEmpty_nil, if_pos rfl]
    · rfl

/-- A lexeme in front of what it can stand before is read as it is. -/
theorem lexemes_source_append {lexeme : Lexeme} {rest : Text} (h : lexeme.Before rest) :
    lexemes (lexeme.source ++ rest) = lexeme :: lexemes rest := by
  obtain ⟨c, text, htext, hfirst⟩ : ∃ c text, lexeme.source ++ rest = c :: text ∧
      first c text = (lexeme, rest) := by
    cases h with
    | bare hescape hquote hzero =>
      exact ⟨_, rest, rfl, first_bare (.bare hescape hquote hzero)⟩
    | escaped c => exact ⟨'\\', c :: rest, rfl, rfl⟩
    | escapedEnd => exact ⟨'\\', [], rfl, rfl⟩
    | quoted _ hquote hbody =>
      exact ⟨_, _, by simp [source], first_quoted hquote hbody rest⟩
    | quotedEnd hquote hbody =>
      exact ⟨_, _, by simp [source], first_quotedEnd hquote hbody⟩
    | exponent hmarker hsign hzeros hrest =>
      exact ⟨_, _, by simp [source], first_exponent hmarker hsign hzeros hrest⟩
  rw [htext, lexemes, hfirst]

end Lexeme

/-! ### The reader of sections -/

theorem consFirst_eq_modifyHead (c : Char) {parts : List Text} (h : parts ≠ []) :
    consFirst c parts = parts.modifyHead (c :: ·) := by
  obtain ⟨part, rest, rfl⟩ := List.exists_cons_of_ne_nil h
  rfl

/-- A character that separates nothing goes to the first section. -/
theorem sectionsFrom_cons {state : ScanState} {c : Char} (h : ¬(state = .plain ∧ c = ';'))
    (rest : Text) :
    sectionsFrom state (c :: rest) = (sectionsFrom (state.next c) rest).modifyHead (c :: ·) := by
  rw [sectionsFrom, if_neg h, consFirst_eq_modifyHead c (sectionsFrom_ne_nil _ _)]

/-- So does a text that leaves the reader where it stands. -/
theorem sectionsFrom_append {state : ScanState} {front : Text}
    (h : ∀ c ∈ front, ¬(state = .plain ∧ c = ';') ∧ state.next c = state) (back : Text) :
    sectionsFrom state (front ++ back) = (sectionsFrom state back).modifyHead (front ++ ·) := by
  induction front with
  | nil =>
    rw [List.nil_append]
    exact (congrFun List.modifyHead_id _).symm
  | cons c front ih =>
    rw [List.forall_mem_cons] at h
    rw [List.cons_append, sectionsFrom_cons h.1.1, h.1.2, ih h.2, List.modifyHead_modifyHead]
    rfl

/-- A text of plain characters is one section. -/
theorem sections_of_plain {text : Text}
    (h : ∀ c ∈ text, ¬(ScanState.plain = .plain ∧ c = ';') ∧ ScanState.plain.next c = .plain) :
    sections text = [text] := by
  have happend := sectionsFrom_append h []
  rwa [List.append_nil, sectionsFrom, List.modifyHead_cons, List.append_nil] at happend

/-- Text in quotes goes to the first section, its semicolons included. -/
theorem sectionsFrom_quoted {quote : Char} {body : Text} (hbody : quote ∉ body) (back : Text) :
    sectionsFrom (.quoted quote) (body ++ back) =
      (sectionsFrom (.quoted quote) back).modifyHead (body ++ ·) := by
  refine sectionsFrom_append (fun c hc => ⟨fun heq => ScanState.noConfusion heq.1, ?_⟩) back
  have hne : c ≠ quote := fun heq => hbody (heq ▸ hc)
  rw [ScanState.next, if_neg hne]

theorem next_plain {c : Char} (hescape : c ≠ '\\') (hquote : ¬(c = '"' ∨ c = '\'')) :
    ScanState.plain.next c = .plain := by
  rw [ScanState.next, if_neg hescape, if_neg hquote]

theorem next_quote {quote : Char} (hquote : quote = '"' ∨ quote = '\'') :
    ScanState.plain.next quote = .quoted quote := by
  have hescape : quote ≠ '\\' := by rcases hquote with rfl | rfl <;> decide
  rw [ScanState.next, if_neg hescape, if_pos hquote]

/-- A lexeme that is not a semicolon goes to the first section as a whole. -/
theorem sections_source_append {lexeme : Lexeme} {rest : Text} (h : lexeme.Before rest)
    (hseparator : lexeme ≠ .bare ';') :
    sections (lexeme.source ++ rest) = (sections rest).modifyHead (lexeme.source ++ ·) := by
  cases h with
  | bare hescape hquote hzero =>
    refine sectionsFrom_append (fun c hc => ?_) rest
    cases List.mem_singleton.mp hc
    exact ⟨fun heq => hseparator (congrArg Lexeme.bare heq.2), next_plain hescape hquote⟩
  | escaped c =>
    have hescape : ScanState.plain.next '\\' = .escaped := rfl
    show sectionsFrom .plain ('\\' :: c :: rest) = _
    rw [sectionsFrom_cons (by decide), hescape, sectionsFrom_cons (by simp),
      List.modifyHead_modifyHead]
    rfl
  | escapedEnd => rfl
  | quoted _ hquote hbody =>
    rename_i quote body
    have hplain : ¬(ScanState.plain = .plain ∧ quote = ';') := by
      rcases hquote with rfl | rfl <;> decide
    have hclose : (ScanState.quoted quote).next quote = .plain := if_pos rfl
    have hsource : (Lexeme.quoted quote body true).source ++ rest =
        quote :: (body ++ quote :: rest) := by simp [Lexeme.source]
    rw [hsource, sections, sectionsFrom_cons hplain, next_quote hquote, sectionsFrom_quoted hbody,
      sectionsFrom_cons (by simp), hclose, List.modifyHead_modifyHead, List.modifyHead_modifyHead]
    simp [Lexeme.source, Function.comp_def, sections]
  | quotedEnd hquote hbody =>
    rename_i quote body
    have hplain : ¬(ScanState.plain = .plain ∧ quote = ';') := by
      rcases hquote with rfl | rfl <;> decide
    have hsource : (Lexeme.quoted quote body false).source ++ [] = quote :: (body ++ []) := by
      simp [Lexeme.source]
    rw [hsource, sections, sectionsFrom_cons hplain, next_quote hquote, sectionsFrom_quoted hbody]
    simp [Lexeme.source, sections, sectionsFrom]
  | exponent hmarker hsign hzeros hrest =>
    have hplain : ∀ c ∈ ['E', 'e', '+', '-', '0'], c ≠ ';' ∧ ScanState.plain.next c = .plain :=
      List.all_iff_forall_prop.mp (by decide)
    refine sectionsFrom_append (fun c hc => ?_) rest
    have hmem : c ∈ ['E', 'e', '+', '-', '0'] := by
      rcases List.mem_append.mp hc with hc | hc
      · rcases List.mem_cons.mp hc with rfl | hc
        · rcases hmarker with rfl | rfl <;> decide
        · rcases hsign c (Option.mem_toList.mp hc) with rfl | rfl <;> decide
      · rw [List.eq_of_mem_replicate hc]
        decide
    exact ⟨fun heq => (hplain c hmem).1 heq.2, (hplain c hmem).2⟩

theorem sections_separator (rest : Text) : sections (';' :: rest) = [] :: sections rest := by
  rw [sections, sectionsFrom, if_pos ⟨rfl, rfl⟩]
  rfl

/-! ### Both readers on a whole pattern -/

/-- A pattern is empty, or starts with a lexeme that stands before the rest. -/
@[elab_as_elim]
theorem lexeme_induction {motive : Text → Prop} (nil : motive [])
    (lexeme : ∀ (lexeme : Lexeme) (rest : Text), lexeme.Before rest → motive rest →
      motive (lexeme.source ++ rest)) (pattern : Text) : motive pattern := by
  fun_induction lexemes pattern with
  | case1 => exact nil
  | case2 c rest ih =>
    rw [← Lexeme.source_first c rest]
    exact lexeme _ _ (Lexeme.before_first c rest) ih

/-- The first section is a beginning of the pattern. -/
theorem exists_sections_cons (pattern : Text) :
    ∃ part parts, sections pattern = part :: parts ∧ part <+: pattern := by
  obtain ⟨part, parts, hsections⟩ := List.exists_cons_of_ne_nil (sections_ne_nil pattern)
  refine ⟨part, parts, hsections, ?_⟩
  have hjoin := join_sections pattern
  rw [hsections] at hjoin
  rw [← hjoin]
  cases parts with
  | nil => simp [List.intercalate]
  | cons next parts => simp [List.intercalate, List.intersperse]

/-- Each section is read as the lexemes that it has in the pattern. -/
theorem map_lexemes_sections (pattern : Text) :
    (sections pattern).map lexemes = (lexemes pattern).splitOn (.bare ';') := by
  induction pattern using lexeme_induction with
  | nil => simp [sections, sectionsFrom, lexemes]
  | lexeme lexeme rest hbefore ih =>
    rw [Lexeme.lexemes_source_append hbefore, List.splitOn_cons_eq_if_modifyHead, ← ih]
    by_cases hseparator : lexeme = .bare ';'
    · subst hseparator
      rw [if_pos (beq_self_eq_true _), Lexeme.source, List.singleton_append, sections_separator,
        List.map_cons, lexemes]
    · rw [if_neg (by simpa using hseparator), sections_source_append hbefore hseparator]
      -- the lexeme goes to the first section, which goes on with a beginning of the rest
      obtain ⟨part, parts, hsections, hpre⟩ := exists_sections_cons rest
      rw [hsections, List.modifyHead_cons, List.map_cons, List.map_cons, List.modifyHead_cons,
        Lexeme.lexemes_source_append (hbefore.of_isPrefix hpre)]

/-- The sections are the lexemes of the pattern between its semicolons. -/
theorem sections_eq_splitOn (pattern : Text) :
    sections pattern =
      ((lexemes pattern).splitOn (.bare ';')).map (·.flatMap Lexeme.source) := by
  rw [← map_lexemes_sections, List.map_map]
  simp [Function.comp_def, source_lexemes]

theorem notMem_of_mem_splitOn {α : Type} [BEq α] [LawfulBEq α] {separator : α} {list part : List α}
    (h : part ∈ list.splitOn separator) : separator ∉ part := by
  induction list generalizing part with
  | nil =>
    rw [List.splitOn_nil, List.mem_singleton] at h
    rw [h]
    exact List.not_mem_nil
  | cons a list ih =>
    obtain ⟨first, parts, hparts⟩ := List.exists_cons_of_ne_nil (List.splitOn_ne_nil separator list)
    rw [List.splitOn_cons_eq_if_modifyHead] at h
    rw [hparts] at h ih
    split at h
    · rcases List.mem_cons.mp h with rfl | hmem
      · exact List.not_mem_nil
      · exact ih hmem
    · rename_i hne
      rcases List.mem_cons.mp h with rfl | hmem
      · rw [List.mem_cons, not_or]
        exact ⟨fun heq => hne (beq_iff_eq.mpr heq.symm), ih List.mem_cons_self⟩
      · exact ih (List.mem_cons_of_mem _ hmem)

/-- A section has no semicolon to be cut at again. -/
theorem sections_of_mem {pattern part : Text} (h : part ∈ sections pattern) :
    sections part = [part] := by
  have hlexemes : lexemes part ∈ (lexemes pattern).splitOn (.bare ';') := by
    rw [← map_lexemes_sections]
    exact List.mem_map_of_mem h
  rw [sections_eq_splitOn, List.splitOn_eq_singleton (notMem_of_mem_splitOn hlexemes),
    List.map_singleton, source_lexemes]

/-- A lexeme that another section follows has an end of its own. -/
theorem isClosed_of_mem_dropLast (pattern : Text) :
    ∀ part ∈ ((lexemes pattern).splitOn (.bare ';')).dropLast, ∀ lexeme ∈ part,
      lexeme.isClosed = true := by
  induction pattern using lexeme_induction with
  | nil => simp [lexemes]
  | lexeme lexeme rest hbefore ih =>
    obtain ⟨part, parts, hparts⟩ :=
      List.exists_cons_of_ne_nil (List.splitOn_ne_nil (Lexeme.bare ';') (lexemes rest))
    rw [Lexeme.lexemes_source_append hbefore, List.splitOn_cons_eq_if_modifyHead]
    rw [hparts] at ih ⊢
    split
    · rw [List.dropLast_cons_cons, List.forall_mem_cons]
      exact ⟨fun _ hmem => absurd hmem List.not_mem_nil, ih⟩
    · cases parts with
      | nil => exact fun _ hmem => absurd hmem List.not_mem_nil
      | cons next parts =>
        -- something follows the lexeme, so it is closed
        have hclosed : lexeme.isClosed = true := by
          by_contra hopen
          have hrest := hbefore.eq_nil (Bool.eq_false_iff.mpr hopen)
          rw [hrest, lexemes, List.splitOn_nil] at hparts
          cases hparts
        rw [List.dropLast_cons_cons, List.forall_mem_cons] at ih
        rw [List.modifyHead_cons, List.dropLast_cons_cons, List.forall_mem_cons,
          List.forall_mem_cons]
        exact ⟨⟨hclosed, ih.1⟩, ih.2⟩

/-- **Both readers agree on the sections of a pattern.** A pattern has at least one section, the
sections with semicolons between them are the pattern, and no section is cut again. The
semicolons at which it is cut are those that are lexemes of their own, outside quotes and not
after a backslash; a section by itself is read as the lexemes that it has in the pattern. So
each section starts with a lexeme, and only the last can end in an open quote or a backslash. -/
theorem sections_agree (pattern : Text) :
    sections pattern ≠ [] ∧
    [';'].intercalate (sections pattern) = pattern ∧
    (∀ part ∈ sections pattern, sections part = [part]) ∧
    sections pattern =
      ((lexemes pattern).splitOn (.bare ';')).map (·.flatMap Lexeme.source) ∧
    (sections pattern).map lexemes = (lexemes pattern).splitOn (.bare ';') ∧
    ∀ part ∈ (sections pattern).dropLast, ∀ lexeme ∈ lexemes part, lexeme.isClosed = true := by
  refine ⟨sections_ne_nil pattern, join_sections pattern, fun _ hpart => sections_of_mem hpart,
    sections_eq_splitOn pattern, map_lexemes_sections pattern, fun part hpart => ?_⟩
  refine isClosed_of_mem_dropLast pattern (lexemes part) ?_
  rw [← map_lexemes_sections, ← List.map_dropLast]
  exact List.mem_map_of_mem hpart

end Spreadsheet
