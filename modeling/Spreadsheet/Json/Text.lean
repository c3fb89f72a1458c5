/-
# Text in JSON

A text between double quotes. The quote, the backslash and the controls are
escaped, five of the controls by a letter; nothing else is. The reader takes
every escape of the format, and a character beyond the first plane also as a
pair of surrogates.

* `decode?_encode` — a text is read back from its written form, whatever follows.
-/

import Spreadsheet.Text.Basic

namespace Spreadsheet

namespace Json

/-! ### Writing -/

/-- A character as it stands in a JSON text. -/
def encodeChar (c : Char) : Text :=
  if c = '"' then ['\\', '"']
  else if c = '\\' then ['\\', '\\']
  else if c = '\n' then ['\\', 'n']
  else if c = '\t' then ['\\', 't']
  else if c = '\r' then ['\\', 'r']
  else if c.toNat = 8 then ['\\', 'b']
  else if c.toNat = 12 then ['\\', 'f']
  else if c.toNat < 32 then
    ['\\', 'u', '0', '0', Nat.digitChar (c.toNat / 16), Nat.digitChar (c.toNat % 16)]
  else [c]

/-- A text in JSON, with its quotes. -/
def encode (text : Text) : Text :=
  '"' :: text.flatMap encodeChar ++ ['"']

/-! ### Reading -/

/-- A piece of a JSON text: a character, or a unit of sixteen bits that is written
in hexadecimal. -/
inductive Piece where
  | char (c : Char)
  | unit (code : Nat)

/-- The value of a hexadecimal digit. -/
def hexDigit? (c : Char) : Option Nat :=
  if c.isDigit then some (c.toNat - '0'.toNat)
  else if 'a' ≤ c ∧ c ≤ 'f' then some (c.toNat - 'a'.toNat + 10)
  else if 'A' ≤ c ∧ c ≤ 'F' then some (c.toNat - 'A'.toNat + 10)
  else none

/-- The unit of four hexadecimal digits. -/
def unit? (a b c d : Char) : Option Nat := do
  let high := (← hexDigit? a) * 16 + (← hexDigit? b)
  let low := (← hexDigit? c) * 16 + (← hexDigit? d)
  return high * 256 + low

/-- The character that a letter after a backslash stands for. -/
def escaped? (c : Char) : Option Char :=
  if c = '"' ∨ c = '\\' ∨ c = '/' then some c
  else if c = 'b' then some (Char.ofNat 8)
  else if c = 'f' then some (Char.ofNat 12)
  else if c = 'n' then some '\n'
  else if c = 'r' then some '\r'
  else if c = 't' then some '\t'
  else none

/-- The pieces up to the closing quote, and the text after it. -/
def pieces? : Text → Option (List Piece × Text)
  | [] => none
  | '"' :: rest => some ([], rest)
  | '\\' :: 'u' :: a :: b :: c :: d :: rest => do
    let code ← unit? a b c d
    let (pieces, left) ← pieces? rest
    return (.unit code :: pieces, left)
  | '\\' :: c :: rest => do
    let char ← escaped? c
    let (pieces, left) ← pieces? rest
    return (.char char :: pieces, left)
  | c :: rest =>
    if c.toNat < 32 then none
    else do
      let (pieces, left) ← pieces? rest
      return (.char c :: pieces, left)

/-- Whether the unit is the first of a surrogate pair. -/
def isLeading (code : Nat) : Bool :=
  decide (0xD800 ≤ code) && decide (code < 0xDC00)

/-- Whether the unit is the second of a surrogate pair. -/
def isTrailing (code : Nat) : Bool :=
  decide (0xDC00 ≤ code) && decide (code < 0xE000)

/-- The text of the pieces; a surrogate that stands alone has none. -/
def join? : List Piece → Option Text
  | [] => some []
  | .char c :: rest => (join? rest).map (c :: ·)
  | .unit lead :: .unit trail :: rest =>
    if isLeading lead then
      if isTrailing trail then
        (join? rest).map (Char.ofNat (0x10000 + (lead - 0xD800) * 0x400 + (trail - 0xDC00)) :: ·)
      else none
    else if isTrailing lead then none
    else (join? (.unit trail :: rest)).map (Char.ofNat lead :: ·)
  | .unit code :: rest =>
    if isLeading code || isTrailing code then none
    else (join? rest).map (Char.ofNat code :: ·)

/-- The text that starts after an opening quote, and what follows its closing
quote. -/
def decode? (text : Text) : Option (Text × Text) := do
  let (pieces, left) ← pieces? text
  return (← join? pieces, left)

/-! ### Reading back -/

/-- A unit below the surrogates is a character by itself. -/
theorem join?_unit {code : Nat} (h : code < 0xD800) (pieces : List Piece) :
    join? (.unit code :: pieces) = (join? pieces).map (Char.ofNat code :: ·) := by
  have hlead : isLeading code = false := by simp [isLeading]; omega
  have htrail : isTrailing code = false := by simp [isTrailing]; omega
  match pieces with
  | [] => simp [join?, hlead, htrail]
  | .char _ :: _ => simp [join?, hlead, htrail]
  | .unit _ :: _ => simp [join?, hlead, htrail]

/-- A control is written by the hexadecimal digits of its code. -/
theorem unit?_control {code : Nat} (h : code < 32) :
    unit? '0' '0' (Nat.digitChar (code / 16)) (Nat.digitChar (code % 16)) = some code := by
  have hall : ∀ n : Fin 32,
      unit? '0' '0' (Nat.digitChar (n / 16)) (Nat.digitChar (n % 16)) = some n.val := by
    decide
  exact hall ⟨code, h⟩

/-- A unit is read as one piece. -/
theorem pieces?_unit {a b c d : Char} {code : Nat} (h : unit? a b c d = some code) (text : Text) :
    pieces? ('\\' :: 'u' :: a :: b :: c :: d :: text) =
      (pieces? text).map fun (pieces, left) => (.unit code :: pieces, left) := by
  rw [pieces?, h]
  cases pieces? text <;> rfl

/-- An escape of two characters is read as one piece. -/
theorem pieces?_escaped {c char : Char} (hc : c ≠ 'u') (h : escaped? c = some char) (text : Text) :
    pieces? ('\\' :: c :: text) =
      (pieces? text).map fun (pieces, left) => (.char char :: pieces, left) := by
  rw [pieces?, h]
  · cases pieces? text <;> rfl
  · intro a b c d rest heq
    simp_all

/-- A character that needs no escape is read as one piece. -/
theorem pieces?_plain {c : Char} (hquote : c ≠ '"') (hback : c ≠ '\\') (hcode : 32 ≤ c.toNat)
    (text : Text) :
    pieces? (c :: text) = (pieces? text).map fun (pieces, left) => (.char c :: pieces, left) := by
  rw [pieces?, if_neg (by omega)]
  · cases pieces? text <;> rfl
  all_goals simp_all

/-- A character that needs no escape stands for itself. -/
theorem encodeChar_plain {c : Char} (hquote : c ≠ '"') (hback : c ≠ '\\')
    (hcode : 32 ≤ c.toNat) : encodeChar c = [c] := by
  have hne : ∀ d : Char, d.toNat < 32 → c ≠ d := fun d hd heq => by
    rw [heq] at hcode
    omega
  have hb : ¬ c.toNat = 8 := by omega
  have hf : ¬ c.toNat = 12 := by omega
  have hlt : ¬ c.toNat < 32 := by omega
  simp only [encodeChar, hquote, hback, hne '\n' (by decide), hne '\t' (by decide),
    hne '\r' (by decide), hb, hf, hlt, if_false]

/-- A written character is one piece, which joins to the character. -/
theorem pieces?_encodeChar (c : Char) :
    ∃ piece, (∀ text, pieces? (encodeChar c ++ text) =
        (pieces? text).map fun (pieces, left) => (piece :: pieces, left)) ∧
      ∀ pieces, join? (piece :: pieces) = (join? pieces).map (c :: ·) := by
  have hchar : ∀ (d e : Char), d ≠ 'u' → escaped? d = some e → encodeChar e = ['\\', d] →
      ∃ piece, (∀ text, pieces? (encodeChar e ++ text) =
          (pieces? text).map fun (pieces, left) => (piece :: pieces, left)) ∧
        ∀ pieces, join? (piece :: pieces) = (join? pieces).map (e :: ·) := by
    intro d e hd hescaped hencode
    refine ⟨.char e, fun text => ?_, fun _ => rfl⟩
    rw [hencode]
    exact pieces?_escaped hd hescaped text
  by_cases hquote : c = '"'
  · subst hquote
    exact hchar '"' '"' (by decide) rfl rfl
  by_cases hback : c = '\\'
  · subst hback
    exact hchar '\\' '\\' (by decide) rfl rfl
  by_cases hcode : 32 ≤ c.toNat
  · refine ⟨.char c, fun text => ?_, fun _ => rfl⟩
    rw [encodeChar_plain hquote hback hcode]
    exact pieces?_plain hquote hback hcode text
  by_cases hn : c = '\n'
  · subst hn
    exact hchar 'n' '\n' (by decide) rfl rfl
  by_cases ht : c = '\t'
  · subst ht
    exact hchar 't' '\t' (by decide) rfl rfl
  by_cases hr : c = '\r'
  · subst hr
    exact hchar 'r' '\r' (by decide) rfl rfl
  by_cases hb : c.toNat = 8
  · obtain rfl : c = Char.ofNat 8 := by rw [← hb, Char.ofNat_toNat]
    exact hchar 'b' _ (by decide) rfl rfl
  by_cases hf : c.toNat = 12
  · obtain rfl : c = Char.ofNat 12 := by rw [← hf, Char.ofNat_toNat]
    exact hchar 'f' _ (by decide) rfl rfl
  have hlt : c.toNat < 32 := by omega
  refine ⟨.unit c.toNat, fun text => ?_, fun pieces => ?_⟩
  · have hencode : encodeChar c =
        ['\\', 'u', '0', '0', Nat.digitChar (c.toNat / 16), Nat.digitChar (c.toNat % 16)] := by
      simp only [encodeChar, hquote, hback, hn, ht, hr, hb, hf, hlt, if_false, if_true]
    rw [hencode]
    exact pieces?_unit (unit?_control hlt) text
  · rw [join?_unit (by omega), Char.ofNat_toNat]

/-- A written text is read back, up to its closing quote. -/
theorem decode?_encode (text rest : Text) :
    decode? (text.flatMap encodeChar ++ '"' :: rest) = some (text, rest) := by
  obtain ⟨pieces, hpieces, hjoin⟩ : ∃ pieces,
      pieces? (text.flatMap encodeChar ++ '"' :: rest) = some (pieces, rest) ∧
        join? pieces = some text := by
    induction text with
    | nil => exact ⟨[], rfl, rfl⟩
    | cons c text ih =>
      obtain ⟨pieces, hpieces, hjoin⟩ := ih
      obtain ⟨piece, hpiece, hjoinPiece⟩ := pieces?_encodeChar c
      refine ⟨piece :: pieces, ?_, ?_⟩
      · rw [List.flatMap_cons, List.append_assoc, hpiece, hpieces]
        rfl
      · rw [hjoinPiece, hjoin]
        rfl
  simp [decode?, hpieces, hjoin]

end Json

end Spreadsheet
