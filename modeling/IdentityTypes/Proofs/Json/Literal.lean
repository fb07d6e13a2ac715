/-
# Reading a literal back

A literal is read by the rules of JSON strings, and this gives the text back that was
written, whatever text it is and whatever follows the literal. Every character is read
on its own: as itself, or as the bits of an escape, and no bits are half of a pair.

Key definitions: `pieceOf`, `readLiteral`.
Key theorems: `scanString_escape`, `joinUnits_map_pieceOf`, `readLiteral_quote`.
-/
import IdentityTypes.Json.Literal
import IdentityTypes.Json.Token
import Mathlib.Tactic.SplitIfs

namespace IdentityTypes.Json

/-! ### Characters -/

/-- The characters below the blank that have an escape of one letter. -/
def shortEscaped : List Char := ['\x08', '\t', '\n', '\x0c', '\r']

/-- The piece that a character of a literal is read as: bits, where its number is
written. -/
def pieceOf (c : Char) : Piece :=
  if c.toNat < 32 ∧ c ∉ shortEscaped then .bits c.toNat else .char c

section

variable {c e : Char} {rest : List Char}

/-- A backslash and a letter are read as what they stand for. -/
theorem scanString_shortEscape (hu : c ≠ 'u') (h : shortEscape c = some e) :
    scanString ('\\' :: c :: rest) = (scanString rest).map fun p => (.char e :: p.1, p.2) := by
  rw [scanString.eq_4 c rest fun _ _ _ _ _ hc _ => hu hc, h]
  cases scanString rest <;> rfl

theorem hexWord_hexDigit : ∀ n < 32,
    hexWord '0' '0' (hexDigit (n / 16)) (hexDigit (n % 16)) = some n := by
  decide

/-- A number below that of the blank is read from its escape. -/
theorem scanString_hexEscape {n : Nat} (h : n < 32) :
    scanString ('\\' :: 'u' :: '0' :: '0' :: hexDigit (n / 16) :: hexDigit (n % 16) :: rest) =
      (scanString rest).map fun p => (.bits n :: p.1, p.2) := by
  rw [scanString, hexWord_hexDigit n h]
  cases scanString rest <;> rfl

/-- A character that needs no escape is read as it is. -/
theorem scanString_char (hquote : c ≠ '"') (hslash : c ≠ '\\') (hlow : ¬ c.toNat < 32) :
    scanString (c :: rest) = (scanString rest).map fun p => (.char c :: p.1, p.2) := by
  rw [scanString.eq_5 c rest hquote (fun _ _ _ _ _ hc _ => hslash hc) (fun _ _ hc _ => hslash hc),
    if_neg (by simp [hslash, hlow])]
  cases scanString rest <;> rfl

end

/-- What is written for a character is read as one piece. -/
theorem scanString_escape (c : Char) (rest : List Char) :
    scanString (escape c ++ rest) = (scanString rest).map fun p => (pieceOf c :: p.1, p.2) := by
  unfold escape
  split_ifs with hq hs hb ht hn hf hr hlow
  · subst hq; exact scanString_shortEscape (by decide) rfl
  · subst hs; exact scanString_shortEscape (by decide) rfl
  · subst hb; exact scanString_shortEscape (by decide) rfl
  · subst ht; exact scanString_shortEscape (by decide) rfl
  · subst hn; exact scanString_shortEscape (by decide) rfl
  · subst hf; exact scanString_shortEscape (by decide) rfl
  · subst hr; exact scanString_shortEscape (by decide) rfl
  · have hshort : c ∉ shortEscaped := by simp [shortEscaped, hb, ht, hn, hf, hr]
    rw [pieceOf, if_pos ⟨hlow, hshort⟩]
    exact scanString_hexEscape hlow
  · rw [pieceOf, if_neg fun h => hlow h.1]
    exact scanString_char hq hs hlow

/-! ### Literals -/

theorem toList_quote (s : String) : (quote s).toList = '"' :: s.toList.flatMap escape ++ ['"'] :=
  String.toList_ofList

theorem escape_ne_nil (c : Char) : escape c ≠ [] := by
  unfold escape
  split_ifs <;> exact List.cons_ne_nil _ _

theorem length_le_flatMap_escape (cs : List Char) : cs.length ≤ (cs.flatMap escape).length := by
  induction cs with
  | nil => exact Nat.zero_le _
  | cons c cs ih =>
    have hpos : 0 < (escape c).length := List.length_pos_iff.mpr (escape_ne_nil c)
    rw [List.flatMap_cons, List.length_append, List.length_cons]
    omega

/-- A literal is longer than the text that it is made of. -/
theorem quote_ne_self (s : String) : quote s ≠ s := by
  intro h
  have hle := length_le_flatMap_escape s.toList
  have hlength := congrArg (·.toList.length) h
  simp only [toList_quote, List.length_append, List.length_cons] at hlength
  omega

theorem scanString_flatMap_escape (cs rest : List Char) :
    scanString (cs.flatMap escape ++ '"' :: rest) = some (cs.map pieceOf, rest) := by
  induction cs with
  | nil => rfl
  | cons c cs ih =>
    rw [List.flatMap_cons, List.append_assoc, scanString_escape, ih]
    rfl

/-- Bits that are no half of a surrogate pair are a character whatever follows. -/
theorem joinUnits_bits {n : Nat} (h : n < 0xD800 ∨ 0xDFFF < n) (r : List Piece) :
    joinUnits (.bits n :: r) = (joinUnits r).map (Char.ofNat n :: ·) := by
  have hhigh : isHighHalf n = false := by simp [isHighHalf]; omega
  have hlow : isLowHalf n = false := by simp [isLowHalf]; omega
  rw [joinUnits.eq_def]
  split <;> simp_all

theorem joinUnits_map_pieceOf (cs : List Char) : joinUnits (cs.map pieceOf) = some cs := by
  induction cs with
  | nil => rfl
  | cons c cs ih =>
    rw [List.map_cons, pieceOf]
    split_ifs with hlow
    · rw [joinUnits_bits (by omega), ih, Char.ofNat_toNat]
      rfl
    · rw [joinUnits, ih]
      rfl

/-- The text of a literal, and what follows it. -/
def readLiteral : List Char → Option (String × List Char)
  | '"' :: cs => do
    let (pieces, rest) ← scanString cs
    let text ← joinUnits pieces
    some (String.ofList text, rest)
  | _ => none

/-- A literal is read as the text that it was made of. -/
theorem readLiteral_quote (s : String) (rest : List Char) :
    readLiteral ((quote s).toList ++ rest) = some (s, rest) := by
  have htext : (quote s).toList ++ rest = '"' :: (s.toList.flatMap escape ++ '"' :: rest) := by
    rw [toList_quote, List.append_assoc, List.singleton_append, List.cons_append]
  rw [htext, readLiteral, scanString_flatMap_escape]
  simp [joinUnits_map_pieceOf]

end IdentityTypes.Json
