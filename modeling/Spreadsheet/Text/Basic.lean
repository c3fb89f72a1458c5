/-
# Text

A text is the list of its characters. This module holds the cuts and searches
that the readers and printers share; each is one short recursion on the list.

* `split_ne_nil` — a split text has at least one part.
* `split_join` — the parts of a text split at one character, put back together
  with that character between them, are the text.
-/

namespace Spreadsheet

/-- A text is the list of its Unicode characters. -/
abbrev Text := List Char

namespace Text

/-! ### Cutting at the ends -/

/-- The text without its longest final run of characters satisfying `drops`. -/
def dropTrailing (drops : Char → Bool) (text : Text) : Text :=
  (text.reverse.dropWhile drops).reverse

/-- What follows `lead`, when the text begins with it. -/
def afterLeading? : (lead text : Text) → Option Text
  | [], text => some text
  | _ :: _, [] => none
  | l :: lead, c :: text => if l = c then afterLeading? lead text else none

/-- Reading a leading part succeeds exactly when the text is that part and a rest. -/
theorem afterLeading?_eq_some_iff {lead text rest : Text} :
    afterLeading? lead text = some rest ↔ text = lead ++ rest := by
  fun_induction afterLeading? lead text with
  | case1 => simp [eq_comm]
  | case2 => simp
  | case3 lead c text ih => simpa using ih
  | case4 l lead c text hne => simp [Ne.symm hne]

/-- Whether the text begins with `lead`. -/
def startsWith (text lead : Text) : Bool :=
  (afterLeading? lead text).isSome

/-- Whether the text ends with `tail`. -/
def endsWith (text tail : Text) : Bool :=
  startsWith text.reverse tail.reverse

/-! ### Parts -/

/-- The parts between the characters satisfying `separates`, empty ones included. -/
def split (separates : Char → Bool) : Text → List Text
  | [] => [[]]
  | c :: rest =>
    if separates c then [] :: split separates rest
    else
      match split separates rest with
      | [] => [[c]]
      | part :: parts => (c :: part) :: parts

theorem split_ne_nil (separates : Char → Bool) (text : Text) : split separates text ≠ [] := by
  fun_induction split separates text <;> simp

/-- Splitting at one character loses nothing but that character. -/
theorem split_join (separator : Char) (text : Text) :
    [separator].intercalate (split (· == separator) text) = text := by
  fun_induction split (· == separator) text with
  | case1 => rfl
  | case2 c rest hc ih =>
    obtain ⟨part, parts, hsplit⟩ :=
      List.exists_cons_of_ne_nil (split_ne_nil (· == separator) rest)
    rw [hsplit] at ih ⊢
    simp_all [List.intercalate, List.intersperse]
  | case3 c rest hc hnil ih => exact absurd hnil (split_ne_nil _ _)
  | case4 c rest hc part parts hsplit ih =>
    rw [hsplit] at ih
    cases parts <;> simp_all [List.intercalate, List.intersperse]

/-- The non-empty parts between the characters satisfying `separates`. -/
def fields (separates : Char → Bool) (text : Text) : List Text :=
  (split separates text).filter (fun part => !part.isEmpty)

/-! ### Searching and replacing -/

/-- A text of which every character goes on is its own leading run. -/
theorem leadingRun_eq_self {goesOn : Char → Bool} {text : Text}
    (h : ∀ c ∈ text, goesOn c = true) :
    text.takeWhile goesOn = text ∧ text.dropWhile goesOn = [] := by
  induction text with
  | nil => exact ⟨rfl, rfl⟩
  | cons c rest ih =>
    have hc := h c List.mem_cons_self
    obtain ⟨htake, hdrop⟩ := ih (fun d hd => h d (List.mem_cons_of_mem _ hd))
    exact ⟨by rw [List.takeWhile_cons_of_pos hc, htake],
      by rw [List.dropWhile_cons_of_pos hc, hdrop]⟩

/-- The text before the first character satisfying `stops`, and the text from it on. -/
def breakAt (stops : Char → Bool) (text : Text) : Text × Text :=
  (text.takeWhile (fun c => !stops c), text.dropWhile (fun c => !stops c))

/-- The text before the last character satisfying `stops` and the text after
it, or `none` when there is no such character. -/
def breakAtLast? (stops : Char → Bool) (text : Text) : Option (Text × Text) :=
  match breakAt stops text.reverse with
  | (_, []) => none
  | (after, _ :: before) => some (before.reverse, after.reverse)

/-- Removes `token` from left to right; the first `skipped` characters belong
to an occurrence already found. -/
def removeFrom (token : Text) : (skipped : Nat) → Text → Text
  | _, [] => []
  | skipped + 1, _ :: rest => removeFrom token skipped rest
  | 0, c :: rest =>
    if startsWith (c :: rest) token then removeFrom token (token.length - 1) rest
    else c :: removeFrom token 0 rest

/-- The text without the occurrences of `token`, found from left to right and
not overlapping. -/
def removeAll (text token : Text) : Text :=
  removeFrom token 0 text

/-! ### Comparing -/

/-- Equality up to the case of the letters `A` to `Z`. -/
def equalsIgnoringAsciiCase (a b : Text) : Bool :=
  a.map Char.toLower == b.map Char.toLower

/-- The order of texts by the code points of their characters, from the left. -/
def order : Text → Text → Ordering
  | [], [] => .eq
  | [], _ :: _ => .lt
  | _ :: _, [] => .gt
  | a :: as, b :: bs => (compare a.toNat b.toNat).then (order as bs)

/-- Two texts are the same in the order exactly when they are equal. -/
theorem order_eq_iff {a b : Text} : order a b = .eq ↔ a = b := by
  fun_induction order a b with
  | case1 => simp
  | case2 => simp
  | case3 => simp
  | case4 a as b bs ih =>
    rw [Ordering.then_eq_eq, ih, Nat.compare_eq_eq, Char.toNat_inj, List.cons.injEq]

/-! ### Padding -/

/-- The text brought to at least `width` characters by `fill` on the left. -/
def padLeft (fill : Char) (width : Nat) (text : Text) : Text :=
  List.replicate (width - text.length) fill ++ text

/-- The text brought to at least `width` characters by `fill` on the right. -/
def padRight (fill : Char) (width : Nat) (text : Text) : Text :=
  text ++ List.replicate (width - text.length) fill

/-- A number in decimal digits, with leading zeros up to `width` characters. -/
def number (width n : Nat) : Text :=
  padLeft '0' width (Nat.toDigits 10 n)

end Text

end Spreadsheet
