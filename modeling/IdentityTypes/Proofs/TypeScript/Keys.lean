/-
# Literals and keys undone

A name is written as a literal where it is a text, and as a key where a member is called by
it. The literal is a JSON string, of which nothing but the name can be read. The key is the
name itself if that is a plain identifier, which is told by its characters, and the literal
if it is not. Every text of a string has quotes and no plain identifier has one, so that the
two are told apart without knowing the name. Names are got back from their keys wherever a
key may end, in the lines of the module as well, and no two names have the same key.

Key definitions: `IsPlainName`, `HasKey`, `Undone`.
Key theorems: `isIdentifier_iff_isPlainName`, `not_isPlainName_of_spells`,
`propertyKey_eq_self_iff`, `HasKey.iff`, `keys_undone`.
-/
import IdentityTypes.Proofs.TypeScript.Reader

namespace IdentityTypes.TypeScript

/-! ### Plain identifiers -/

/-- The characters that a plain identifier may begin with: the letters of ASCII, the underscore
and the dollar sign. -/
def IsNameLetter (c : Char) : Prop :=
  ('A' ≤ c ∧ c ≤ 'Z') ∨ ('a' ≤ c ∧ c ≤ 'z') ∨ c = '_' ∨ c = '$'

/-- The characters that a plain identifier may go on with: these and the digits. -/
def IsNameCharacter (c : Char) : Prop := IsNameLetter c ∨ ('0' ≤ c ∧ c ≤ '9')

/-- A plain identifier has a first character and then any others of these. -/
def IsPlainName (name : String) : Prop :=
  ∃ c cs, name.toList = c :: cs ∧ IsNameLetter c ∧ ∀ d ∈ cs, IsNameCharacter d

theorem isIdentifierStart_iff {c : Char} : isIdentifierStart c = true ↔ IsNameLetter c := by
  have hletter : c.isAlpha = true ↔ ('A' ≤ c ∧ c ≤ 'Z') ∨ ('a' ≤ c ∧ c ≤ 'z') := by
    delta Char.isAlpha Char.isUpper Char.isLower
    simp only [Char.le_def, Bool.or_eq_true, Bool.and_eq_true, decide_eq_true_eq]
  simp only [isIdentifierStart, IsNameLetter, Bool.or_eq_true, decide_eq_true_eq, hletter,
    or_assoc]

theorem isIdentifierPart_iff {c : Char} : isIdentifierPart c = true ↔ IsNameCharacter c := by
  have hdigit : c.isDigit = true ↔ '0' ≤ c ∧ c ≤ '9' := by
    delta Char.isDigit
    simp only [Char.le_def, Bool.and_eq_true, decide_eq_true_eq]
  rw [IsNameCharacter, ← isIdentifierStart_iff, ← hdigit]
  simp only [isIdentifierPart, isIdentifierStart, Char.isAlphanum, Bool.or_eq_true]
  tauto

section

variable {name : String}

/-- The names that pass the test are the plain identifiers. -/
theorem isIdentifier_iff_isPlainName : isIdentifier name = true ↔ IsPlainName name := by
  simp only [isIdentifier_iff, isIdentifierStart_iff, isIdentifierPart_iff, IsPlainName]

/-- No plain identifier is a text of a string, in whatever way the string is written. -/
theorem not_isPlainName_of_spells {text : String} (h : (Json.Value.string name).Spells text) :
    ¬ IsPlainName text := by
  intro hplain
  have hparts := all_isIdentifierPart (isIdentifier_iff_isPlainName.mpr hplain)
  exact absurd (hparts '"' h.quote_mem) (by decide)

/-! ### The two forms of a key -/

theorem propertyKey_of_isPlainName (h : IsPlainName name) : propertyKey name = name :=
  if_pos (isIdentifier_iff_isPlainName.mpr h)

theorem propertyKey_of_not_isPlainName (h : ¬ IsPlainName name) :
    propertyKey name = Json.quote name :=
  if_neg fun hname => h (isIdentifier_iff_isPlainName.mp hname)

/-- Only plain identifiers are their own keys. -/
theorem propertyKey_eq_self_iff : propertyKey name = name ↔ IsPlainName name := by
  refine ⟨fun hkey => ?_, propertyKey_of_isPlainName⟩
  by_contra h
  rw [propertyKey_of_not_isPlainName h] at hkey
  exact Json.quote_ne_self name hkey

/-- Only names that are no plain identifiers have their literals as keys. -/
theorem propertyKey_eq_quote_iff : propertyKey name = Json.quote name ↔ ¬ IsPlainName name := by
  refine ⟨fun hkey h => ?_, propertyKey_of_not_isPlainName⟩
  rw [propertyKey_of_isPlainName h] at hkey
  exact Json.quote_ne_self name hkey.symm

theorem quote_injective : Function.Injective Json.quote := by
  intro name name' h
  have hspells := Json.Value.spells_quote name
  rw [h, Json.Value.spells_quote_iff] at hspells
  exact Json.Value.string.inj hspells

/-! ### Keys in lines -/

/-- Behind its indentation the line begins with the key of a name. -/
def HasKey (indentation name line : String) : Prop :=
  ∃ rest, Stops rest ∧ line.toList = indentation.toList ++ ((propertyKey name).toList ++ rest)

/-- A line has one key only. -/
theorem HasKey.iff {indentation name' line : String} (h : HasKey indentation name line) :
    HasKey indentation name' line ↔ name = name' := by
  constructor
  · rintro ⟨rest', hstops', hline'⟩
    obtain ⟨rest, hstops, hline⟩ := h
    have hsame := List.append_cancel_left (hline.symm.trans hline')
    exact (propertyKey_append_inj hstops hstops' hsame).1
  · rintro rfl
    exact h

theorem hasKey_propertyLine (p : Property) : HasKey "  " p.name (propertyLine p) := by
  have hmark : ∀ cs, Stops ((if p.required then "" else "?").toList ++ (": ".toList ++ cs)) := by
    intro cs
    cases p.required with
    | true => exact stops_append ": " (by decide) (by decide)
    | false => exact stops_append "?" (by decide) (by decide)
  refine ⟨_, hmark (p.type.text.toList ++ ";".toList), ?_⟩
  delta propertyLine
  simp only [String.toList_append, List.append_assoc]

theorem hasKey_entryLine (e : Entry) : HasKey "    " e.key e.line :=
  ⟨_, stops_append ": idmObject<" (by decide) (by decide), e.toList_line⟩

end

/-! ### All that is written of a name -/

/-- What is asked of the literal and of the key of a name, so that both can be undone. -/
structure Undone (name : String) : Prop where
  /-- Nothing below the blank is in the literal, whatever the name has. -/
  le_toNat : ∀ c ∈ (Json.quote name).toList, 0x20 ≤ c.toNat
  /-- By the grammar of JSON the literal is the string with the name and no other value. -/
  spells_iff : ∀ v : Json.Value, v.Spells (Json.quote name) ↔ v = .string name
  /-- The reader of documents gets the name from the literal. -/
  readText_quote : Json.readText (fun _ => Json.Node.readString) (Json.quote name) = .ok name
  key_eq_self_iff : propertyKey name = name ↔ IsPlainName name
  key_eq_quote_iff : propertyKey name = Json.quote name ↔ ¬ IsPlainName name
  /-- Nothing that the name can be written as in JSON is a plain identifier. -/
  not_isPlainName : ∀ text, (Json.Value.string name).Spells text → ¬ IsPlainName text
  /-- The name is read from its key, wherever that ends. -/
  readKey_key : ∀ rest, Stops rest →
    readKey ((propertyKey name).toList ++ rest) = some (name, rest)
  /-- The key stands in the lines of properties of that name and in no others. -/
  propertyLine_iff : ∀ p : Property, HasKey "  " name (propertyLine p) ↔ p.name = name
  /-- So it is for the lines of accessors. -/
  entryLine_iff : ∀ e : Entry, HasKey "    " name e.line ↔ e.key = name

/-- **Literals and keys can be undone.** The literal of any name has nothing below the blank, and
read as JSON it is the name. The key of the name is the name itself exactly if that is a plain
identifier and its literal exactly if not, and no literal is a plain identifier. The name is
got back from the key, so that no two names have the same literal or the same key, and no line
of the module has the key of another name than that of its property or resource. -/
theorem keys_undone : (∀ name, Undone name) ∧
    Function.Injective Json.quote ∧ Function.Injective propertyKey := by
  refine ⟨fun name => ?_, quote_injective, propertyKey_injective⟩
  exact {
    le_toNat := Json.le_toNat_of_mem_quote
    spells_iff := fun _ => Json.Value.spells_quote_iff
    readText_quote := Json.readText_quote name
    key_eq_self_iff := propertyKey_eq_self_iff
    key_eq_quote_iff := propertyKey_eq_quote_iff
    not_isPlainName := fun _ => not_isPlainName_of_spells
    readKey_key := fun _ => readKey_propertyKey name
    propertyLine_iff := fun p => (hasKey_propertyLine p).iff
    entryLine_iff := fun e => (hasKey_entryLine e).iff }

/-- A name that looks like the key of another one is no key of it. -/
example : propertyKey "\"given name\"" = "\"\\\"given name\\\"\"" ∧
    propertyKey "given name" = "\"given name\"" := by decide

end IdentityTypes.TypeScript
