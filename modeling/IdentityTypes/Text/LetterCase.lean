/-
# Upper and lower case

Case as the Unicode standard defines it: the properties Uppercase and
Lowercase, and the full mappings, which may turn one character into several.
A text is put into lower case character by character, but for the capital
sigma, whose small form depends on whether it ends a word.

For ASCII all of this is the familiar arithmetic, and is computed without the
tables.

Key definitions: `isUpper`, `isLower`, `upperChar`, `lowerChar`, `lower`,
`capitalize`.
-/
import IdentityTypes.Text.LetterCase.Table

namespace IdentityTypes.Text

/-- The letters from A to Z. -/
def isAsciiUpper (c : Char) : Bool := 65 ≤ c.toNat && c.toNat ≤ 90

/-- The letters from a to z. -/
def isAsciiLower (c : Char) : Bool := 97 ≤ c.toNat && c.toNat ≤ 122

/-- The ASCII digits. -/
def isAsciiDigit (c : Char) : Bool := 48 ≤ c.toNat && c.toNat ≤ 57

/-- The characters of ASCII. -/
def isAscii (c : Char) : Bool := c.toNat < 128

/-- A character that is a capital followed by small letters. -/
def isTitlecase (c : Char) : Bool := spannedBy titlecase c.toNat

/-- The property Uppercase. -/
def isUpper (c : Char) : Bool :=
  if isAscii c then isAsciiUpper c
  else !isTitlecase c &&
    ((shiftIn lowering c.toNat).isSome || c == 'İ' || spannedBy unpairedUpper c.toNat)

/-- The property Lowercase. -/
def isLower (c : Char) : Bool :=
  if isAscii c then isAsciiLower c
  else !isTitlecase c &&
    ((shiftIn raising c.toNat).isSome || (expanding.lookup c.toNat).isSome ||
      spannedBy unpairedLower c.toNat)

/-- A letter that has a case. -/
def isCased (c : Char) : Bool := isUpper c || isLower c || isTitlecase c

/-- A character that is passed over in the search for a cased letter. -/
def isCaseIgnorable (c : Char) : Bool := spannedBy caseIgnorable c.toNat

/-- The upper case of a character. -/
def upperChar (c : Char) : List Char :=
  if isAscii c then [if isAsciiLower c then Char.ofNat (c.toNat - 32) else c]
  else match expanding.lookup c.toNat with
    | some images => images.map Char.ofNat
    | none => [(shiftIn raising c.toNat).elim c Char.ofNat]

/-- The lower case of a character that stands alone. -/
def lowerChar (c : Char) : List Char :=
  if isAscii c then [if isAsciiUpper c then Char.ofNat (c.toNat + 32) else c]
  else if c = 'İ' then ['i', '\u0307']
  else [(shiftIn lowering c.toNat).elim c Char.ofNat]

/-- Whether a cased letter comes next, apart from characters to pass over. -/
def meetsCased (cs : List Char) : Bool :=
  match cs.dropWhile isCaseIgnorable with
  | [] => false
  | c :: _ => isCased c

/-- The lower case of a text, where `before` is what precedes it, backwards. A
capital sigma after a letter and before none is the sigma that ends words. -/
def lowerFrom (before : List Char) : List Char → List Char
  | [] => []
  | c :: r =>
    (if c = 'Σ' then [if meetsCased before && !meetsCased r then 'ς' else 'σ'] else lowerChar c) ++
      lowerFrom (c :: before) r

/-- The lower case of a text. -/
def lower (cs : List Char) : List Char := lowerFrom [] cs

/-- The first character in upper case, the others in lower case. -/
def capitalize : List Char → List Char
  | [] => []
  | c :: r => upperChar c ++ lower r

example : lower "ΟΔΟΣ ΑΣ.".toList = "οδος ας.".toList := by decide +kernel
example : capitalize "ﬁnaLE".toList = "FInale".toList := by decide +kernel
example : isUpper 'Ⅷ' = true ∧ isLower 'ª' = true ∧ isUpper 'ǅ' = false := by decide +kernel

end IdentityTypes.Text
