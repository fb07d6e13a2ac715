/-
# Every value has a text

The texts of a value leave a choice at every token. Made in the plainest way, strings as
literals and integers in decimal with nothing between the tokens, it gives each value a
text, as long as its numbers are integers of 64 bits.

For a string this is its literal. Like all texts of its characters the literal has nothing
below the blank, and no other value is written like this.

Key definitions: `Token.text`, `Token.isPlain`.
Key theorems: `charText_escape`, `tokenText_text`, `Spaced.prepend`, `Value.spells_text`,
`le_toNat_of_mem_quote`, `Value.spells_quote_iff`, `readText_quote`.
-/
import IdentityTypes.Proofs.Json.Reading

namespace IdentityTypes.Json

/-- The plainest text of a token. -/
def Token.text : Token → List Char
  | .openBrace => ['\x7b']
  | .closeBrace => ['\x7d']
  | .openBracket => ['[']
  | .closeBracket => [']']
  | .colon => [':']
  | .comma => [',']
  | .null => "null".toList
  | .bool b => (if b then "true" else "false").toList
  | .number (some (.integer n)) => (toString n).toList
  | .string (some s) => (quote s).toList
  | .number _ | .string none | .invalid => []

/-- The token has a plainest text. -/
def Token.isPlain : Token → Bool
  | .number (some (.integer n)) => decide (FitsWord n)
  | .number _ | .string none | .invalid => false
  | _ => true

theorem hexText_hexDigit {n : Nat} (hn : n < 32) :
    HexText n ['0', '0', hexDigit (n / 16), hexDigit (n % 16)] := by
  have hdigit : ∀ d < 16, (hexDigit d, d) ∈ hexDigits := by decide
  have h := HexText.mk (hdigit 0 (by decide)) (hdigit 0 (by decide)) (hdigit (n / 16) (by omega))
    (hdigit (n % 16) (by omega))
  have hvalue : ((0 * 16 + 0) * 16 + n / 16) * 16 + n % 16 = n := by omega
  rwa [hvalue] at h

/-- What is written for a character in a literal is one of its texts. -/
theorem charText_escape (c : Char) : CharText c (escape c) := by
  have hshort : ∀ {e : Char × Char}, e ∈ shortEscapes → c = e.2 → CharText c ['\\', e.1] := by
    rintro e he rfl
    exact .short he
  unfold escape
  split_ifs with hq hs hb ht hn hf hr hlow
  · exact hshort (e := ('"', '"')) (by decide) hq
  · exact hshort (e := ('\\', '\\')) (by decide) hs
  · exact hshort (e := ('b', '\x08')) (by decide) hb
  · exact hshort (e := ('t', '\t')) (by decide) ht
  · exact hshort (e := ('n', '\n')) (by decide) hn
  · exact hshort (e := ('f', '\x0c')) (by decide) hf
  · exact hshort (e := ('r', '\r')) (by decide) hr
  · exact .number (hexText_hexDigit hlow)
  · exact .plain hq hs (by omega)

theorem charsText_flatMap_escape (cs : List Char) : CharsText cs (cs.flatMap escape) := by
  induction cs with
  | nil => exact .nil
  | cons c cs ih =>
    rw [List.flatMap_cons]
    exact .cons (charText_escape c) ih

/-- The plainest text of a token is one of its texts. -/
theorem tokenText_text {t : Token} (h : t.isPlain = true) : TokenText t t.text := by
  cases t with
  | openBrace => exact .openBrace
  | closeBrace => exact .closeBrace
  | openBracket => exact .openBracket
  | closeBracket => exact .closeBracket
  | colon => exact .colon
  | comma => exact .comma
  | null => exact .null
  | bool b => exact .bool b
  | invalid => cases h
  | number x =>
    match x, h with
    | some (.integer n), h => exact .number (.integer (of_decide_eq_true h))
    | some (.float x), h => cases h
    | none, h => cases h
  | string s =>
    match s, h with
    | some s, _ =>
      rw [Token.text, toList_quote]
      exact .string (charsText_flatMap_escape s.toList)
    | none, h => cases h

/-- Tokens in their plainest texts may stand before others. -/
theorem Spaced.prepend (ts : List Token) {us : List Token} {rest : List Char}
    (h : ∀ t ∈ ts, t.isPlain = true) (hus : Spaced us rest) :
    Spaced (ts ++ us) (ts.flatMap Token.text ++ rest) := by
  induction ts with
  | nil => exact hus
  | cons t ts ih =>
    obtain ⟨ht, hts⟩ := List.forall_mem_cons.mp h
    have hspaced : Spaced (t :: (ts ++ us)) ([] ++ t.text ++ (ts.flatMap Token.text ++ rest)) :=
      .cons (List.forall_mem_nil _) (tokenText_text ht) (ih hts)
    rwa [List.nil_append, ← List.append_assoc, ← List.flatMap_cons] at hspaced

/-- Tokens have the text of their plainest texts one after the other. -/
theorem spaced_text (ts : List Token) (h : ∀ t ∈ ts, t.isPlain = true) :
    Spaced ts (ts.flatMap Token.text) := by
  have hspaced := Spaced.prepend ts h (.nil (List.forall_mem_nil _))
  rwa [List.append_nil, List.append_nil] at hspaced

theorem isPlain_intercalate : ∀ {parts : List (List Token)},
    (∀ ts ∈ parts, ∀ t ∈ ts, t.isPlain = true) →
      ∀ t ∈ [Token.comma].intercalate parts, t.isPlain = true
  | [], _ => List.forall_mem_nil _
  | [ts], h => by
    rw [List.intercalate_singleton]
    exact h ts List.mem_cons_self
  | ts :: us :: parts, h => by
    obtain ⟨hts, hparts⟩ := List.forall_mem_cons.mp h
    rw [List.intercalate_cons_cons, List.append_assoc]
    exact List.forall_mem_append.mpr ⟨hts, List.forall_mem_append.mpr
      ⟨List.forall_mem_singleton.mpr rfl, isPlain_intercalate hparts⟩⟩

theorem isPlain_memberTokens : ∀ {ms : List (String × Value)},
    (∀ m ∈ ms, ∀ t ∈ m.2.tokens, t.isPlain = true) →
      ∀ ts ∈ Value.memberTokens ms, ∀ t ∈ ts, t.isPlain = true
  | [], _ => List.forall_mem_nil _
  | (key, v) :: ms, h => by
    obtain ⟨hv, hms⟩ := List.forall_mem_cons.mp h
    exact List.forall_mem_cons.mpr ⟨List.forall_mem_cons.mpr ⟨rfl,
      List.forall_mem_cons.mpr ⟨rfl, hv⟩⟩, isPlain_memberTokens hms⟩

theorem isPlain_itemTokens : ∀ {vs : List Value}, (∀ v ∈ vs, ∀ t ∈ v.tokens, t.isPlain = true) →
    ∀ ts ∈ Value.itemTokens vs, ∀ t ∈ ts, t.isPlain = true
  | [], _ => List.forall_mem_nil _
  | v :: vs, h => by
    obtain ⟨hv, hvs⟩ := List.forall_mem_cons.mp h
    exact List.forall_mem_cons.mpr ⟨hv, isPlain_itemTokens hvs⟩

/-- The tokens of an array are plain where those of its items are. -/
theorem isPlain_array {vs : List Value} (h : ∀ v ∈ vs, ∀ t ∈ v.tokens, t.isPlain = true) :
    ∀ t ∈ (Value.array vs).tokens, t.isPlain = true := by
  rw [Value.tokens]
  exact List.forall_mem_append.mpr ⟨List.forall_mem_cons.mpr ⟨rfl,
    isPlain_intercalate (isPlain_itemTokens h)⟩, List.forall_mem_singleton.mpr rfl⟩

/-- The tokens of an object are plain where those of its members are. -/
theorem isPlain_object {ms : List (String × Value)}
    (h : ∀ m ∈ ms, ∀ t ∈ m.2.tokens, t.isPlain = true) :
    ∀ t ∈ (Value.object ms).tokens, t.isPlain = true := by
  rw [Value.tokens]
  exact List.forall_mem_append.mpr ⟨List.forall_mem_cons.mpr ⟨rfl,
    isPlain_intercalate (isPlain_memberTokens h)⟩, List.forall_mem_singleton.mpr rfl⟩

/-- A value of plain tokens has a text. -/
theorem Value.spells_text {v : Value} (h : ∀ t ∈ v.tokens, t.isPlain = true) :
    v.Spells (String.ofList (v.tokens.flatMap Token.text)) := by
  rw [Spells, String.toList_ofList]
  exact spaced_text _ h

/-! ### Literals -/

theorem HexText.le_toNat {n : Nat} {digits : List Char} (h : HexText n digits) :
    ∀ d ∈ digits, 32 ≤ d.toNat := by
  have hdigit : ∀ a ∈ hexDigits, 32 ≤ a.1.toNat := by decide
  obtain ⟨ha, hb, hc, hd⟩ := h
  simp only [List.forall_mem_cons, List.not_mem_nil, false_imp_iff, implies_true, and_true]
  exact ⟨hdigit _ ha, hdigit _ hb, hdigit _ hc, hdigit _ hd⟩

/-- No text of a character has anything below the blank, whatever character it is. -/
theorem CharText.le_toNat {c : Char} {text : List Char} (h : CharText c text) :
    ∀ d ∈ text, 32 ≤ d.toNat := by
  have hshort : ∀ e ∈ shortEscapes, 32 ≤ e.1.toNat := by decide
  have hnumber : ∀ {n : Nat} {digits : List Char}, HexText n digits →
      ∀ d ∈ '\\' :: 'u' :: digits, 32 ≤ d.toNat := by
    intro n digits h
    exact List.forall_mem_cons.mpr ⟨by decide, List.forall_mem_cons.mpr ⟨by decide, h.le_toNat⟩⟩
  cases h with
  | plain _ _ hlow => exact List.forall_mem_singleton.mpr hlow
  | short he =>
    exact List.forall_mem_cons.mpr ⟨by decide, List.forall_mem_singleton.mpr (hshort _ he)⟩
  | number h => exact hnumber h
  | pair _ _ _ h h' => exact List.forall_mem_append.mpr ⟨hnumber h, hnumber h'⟩

theorem CharsText.le_toNat {cs text : List Char} (h : CharsText cs text) :
    ∀ d ∈ text, 32 ≤ d.toNat := by
  induction h with
  | nil => exact List.forall_mem_nil _
  | cons h _ ih => exact List.forall_mem_append.mpr ⟨h.le_toNat, ih⟩

theorem le_toNat_of_mem_quote {s : String} : ∀ c ∈ (quote s).toList, 32 ≤ c.toNat := by
  have htext := (charsText_flatMap_escape s.toList).le_toNat
  rw [toList_quote]
  exact List.forall_mem_append.mpr ⟨List.forall_mem_cons.mpr ⟨by decide, htext⟩,
    List.forall_mem_singleton.mpr (by decide)⟩

theorem Value.spells_quote (s : String) : (Value.string s).Spells (quote s) := by
  have hspells := spells_text (v := .string s) (List.forall_mem_singleton.mpr rfl)
  rwa [tokens, List.flatMap_singleton, Token.text, String.ofList_toList] at hspells

/-- The literal of a text stands for the string with the text, and for no other value. -/
theorem Value.spells_quote_iff {v : Value} {s : String} : v.Spells (quote s) ↔ v = .string s := by
  constructor
  · exact fun h => h.unique (spells_quote s)
  · rintro rfl
    exact spells_quote s

/-- Every text of a string has quotes. -/
theorem Value.Spells.quote_mem {s text : String} (h : (Value.string s).Spells text) :
    '"' ∈ text.toList := by
  rw [Spells, tokens] at h
  generalize text.toList = cs at h
  obtain _ | ⟨-, htext, -⟩ := h
  cases htext
  simp

theorem readText_quote (s : String) : readText (fun _ => Node.readString) (quote s) = .ok s :=
  readText_eq_ok (n := .string (some s)) rfl (Value.spells_quote s).toNode

end IdentityTypes.Json
