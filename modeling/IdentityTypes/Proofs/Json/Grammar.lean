/-
# The texts of a value

A value can be written in many ways: with white space between the tokens, with escapes
for any of the characters of a string, and where a number is not an integer with any
digits and power of ten that come to it. `Value.Spells` says which texts these are. It
follows the grammar of JSON and not the reader: first the tokens of a value, then the
texts of a token, then what may stand between them.

What nobody asks for in a document may have two faults that no value has: numbers that are
too large, and strings with half of a surrogate pair. `Node.Spells` has the texts with these.

Key definitions: `CharText`, `NumeralText`, `FitsWord`, `NumberText`, `TokenText`, `Spaced`,
`Value.tokens`, `Value.depth`, `Value.Spells`, `LooseText`, `Node.tokens`, `Node.Spells`.
-/
import IdentityTypes.Json.Node

namespace IdentityTypes.Json

/-! ### Strings -/

/-- The hexadecimal digits with their values, in small letters and in capital ones. -/
def hexDigits : List (Char × Nat) :=
  "0123456789abcdef".toList.zipIdx ++ "ABCDEF".toList.zipIdx 10

/-- The letters that may follow a backslash, with the characters they stand for. -/
def shortEscapes : List (Char × Char) :=
  [('"', '"'), ('\\', '\\'), ('/', '/'), ('b', '\x08'), ('f', '\x0c'), ('n', '\n'),
    ('r', '\r'), ('t', '\t')]

/-- Four hexadecimal digits that write a number. -/
inductive HexText : Nat → List Char → Prop
  | mk {a b c d : Char × Nat} (ha : a ∈ hexDigits) (hb : b ∈ hexDigits) (hc : c ∈ hexDigits)
      (hd : d ∈ hexDigits) :
      HexText (((a.2 * 16 + b.2) * 16 + c.2) * 16 + d.2) [a.1, b.1, c.1, d.1]

/-- The ways to write a character of a string: as it is, with a backslash and a letter, by
its number, or by the two halves of it where that has more than four digits. -/
inductive CharText : Char → List Char → Prop
  | plain {c : Char} (hquote : c ≠ '"') (hslash : c ≠ '\\') (hlow : 32 ≤ c.toNat) :
      CharText c [c]
  | short {e : Char × Char} (h : e ∈ shortEscapes) : CharText e.2 ['\\', e.1]
  | number {c : Char} {digits : List Char} (h : HexText c.toNat digits) :
      CharText c ('\\' :: 'u' :: digits)
  | pair {c : Char} {high low : Nat} {digits digits' : List Char}
      (hhigh : 0xD800 ≤ high ∧ high < 0xDC00) (hlow : 0xDC00 ≤ low ∧ low < 0xE000)
      (hc : c.toNat = 0x10000 + (high - 0xD800) * 0x400 + (low - 0xDC00))
      (h : HexText high digits) (h' : HexText low digits') :
      CharText c ('\\' :: 'u' :: digits ++ '\\' :: 'u' :: digits')

/-- The characters of a string, one after the other. -/
inductive CharsText : List Char → List Char → Prop
  | nil : CharsText [] []
  | cons {c : Char} {cs text rest : List Char} (h : CharText c text) (hcs : CharsText cs rest) :
      CharsText (c :: cs) (text ++ rest)

/-! ### Numbers -/

/-- One or more digits. -/
def IsDigits (ds : List Char) : Prop := ds ≠ [] ∧ ∀ c ∈ ds, c.isDigit

/-- The digits after the point, if there is one. -/
inductive FractionText : Option (List Nat) → List Char → Prop
  | none : FractionText none []
  | some {ds : List Char} (h : IsDigits ds) : FractionText (some (ds.map digitValue)) ('.' :: ds)

/-- The power of ten, if there is one. -/
inductive ExponentText : Option Int → List Char → Prop
  | none : ExponentText none []
  | plain {e : Char} {ds : List Char} (he : e = 'e' ∨ e = 'E') (h : IsDigits ds) :
      ExponentText (some (numberOf (ds.map digitValue))) (e :: ds)
  | plus {e : Char} {ds : List Char} (he : e = 'e' ∨ e = 'E') (h : IsDigits ds) :
      ExponentText (some (numberOf (ds.map digitValue))) (e :: '+' :: ds)
  | minus {e : Char} {ds : List Char} (he : e = 'e' ∨ e = 'E') (h : IsDigits ds) :
      ExponentText (some (-numberOf (ds.map digitValue))) (e :: '-' :: ds)

/-- The ways to write a numeral. No zero stands in front of other digits. -/
inductive NumeralText : Numeral → List Char → Prop
  | mk {negative : Bool} {ds fractionText exponentText : List Char} {fraction : Option (List Nat)}
      {exponent : Option Int} (h : IsDigits ds) (hzero : ds.head? = some '0' → ds = ['0'])
      (hfraction : FractionText fraction fractionText)
      (hexponent : ExponentText exponent exponentText) :
      NumeralText ⟨negative, ds.map digitValue, fraction, exponent⟩
        ((if negative then ['-'] else []) ++ ds ++ fractionText ++ exponentText)

/-- The integer has 64 bits, signed or unsigned. -/
def FitsWord (n : Int) : Prop := -0x8000000000000000 ≤ n ∧ n < 0x10000000000000000

instance (n : Int) : Decidable (FitsWord n) := inferInstanceAs (Decidable (_ ∧ _))

/-- The ways to write a number: an integer of 64 bits in decimal, and any number by a
numeral that stands for it. -/
inductive NumberText : Number → List Char → Prop
  | integer {n : Int} (h : FitsWord n) : NumberText (.integer n) (toString n).toList
  | numeral {x : Number} {l : Numeral} {text : List Char} (h : NumeralText l text)
      (hvalue : l.value = some x) : NumberText x text

/-! ### Tokens -/

/-- The ways to write a token. -/
inductive TokenText : Token → List Char → Prop
  | openBrace : TokenText .openBrace ['\x7b']
  | closeBrace : TokenText .closeBrace ['\x7d']
  | openBracket : TokenText .openBracket ['[']
  | closeBracket : TokenText .closeBracket [']']
  | colon : TokenText .colon [':']
  | comma : TokenText .comma [',']
  | null : TokenText .null "null".toList
  | bool (b : Bool) : TokenText (.bool b) (if b then "true" else "false").toList
  | number {x : Number} {text : List Char} (h : NumberText x text) :
      TokenText (.number (some x)) text
  | string {s : String} {text : List Char} (h : CharsText s.toList text) :
      TokenText (.string (some s)) ('"' :: text ++ ['"'])

/-- What may stand between tokens. -/
def IsBlank (w : List Char) : Prop := ∀ c ∈ w, c ∈ [' ', '\t', '\n', '\r']

/-- The texts of some tokens, with blanks around them. -/
inductive Spaced : List Token → List Char → Prop
  | nil {w : List Char} (hw : IsBlank w) : Spaced [] w
  | cons {t : Token} {ts : List Token} {w text rest : List Char} (hw : IsBlank w)
      (h : TokenText t text) (hts : Spaced ts rest) : Spaced (t :: ts) (w ++ text ++ rest)

/-! ### Values -/

namespace Value

mutual

/-- The tokens of a value. -/
def tokens : Value → List Token
  | .null => [.null]
  | .bool b => [.bool b]
  | .number n => [.number (some n)]
  | .string s => [.string (some s)]
  | .array items => .openBracket :: [Token.comma].intercalate (itemTokens items) ++ [.closeBracket]
  | .object members =>
    .openBrace :: [Token.comma].intercalate (memberTokens members) ++ [.closeBrace]

/-- The tokens of every item of an array. -/
def itemTokens : List Value → List (List Token)
  | [] => []
  | v :: vs => v.tokens :: itemTokens vs

/-- The tokens of every member of an object. -/
def memberTokens : List (String × Value) → List (List Token)
  | [] => []
  | (key, v) :: ms => (.string (some key) :: .colon :: v.tokens) :: memberTokens ms

end

mutual

/-- How deep arrays and objects are nested in a value. -/
def depth : Value → Nat
  | .null | .bool _ | .number _ | .string _ => 0
  | .array items => itemsDepth items + 1
  | .object members => membersDepth members + 1

/-- The depth of the deepest item. -/
def itemsDepth : List Value → Nat
  | [] => 0
  | v :: vs => max v.depth (itemsDepth vs)

/-- The depth of the deepest member. -/
def membersDepth : List (String × Value) → Nat
  | [] => 0
  | (_, v) :: ms => max v.depth (membersDepth ms)

end

/-- A text is one of those that a value can be written as. -/
def Spells (v : Value) (text : String) : Prop := Spaced v.tokens text.toList

end Value

/-! ### Documents with what nobody asks for -/

/-- The ways to write a piece of a string: a character as it is or with a backslash and a
letter, and sixteen bits by their number. -/
inductive PieceText : Piece → List Char → Prop
  | plain {c : Char} (hquote : c ≠ '"') (hslash : c ≠ '\\') (hlow : 32 ≤ c.toNat) :
      PieceText (.char c) [c]
  | short {e : Char × Char} (h : e ∈ shortEscapes) : PieceText (.char e.2) ['\\', e.1]
  | number {n : Nat} {digits : List Char} (h : HexText n digits) :
      PieceText (.bits n) ('\\' :: 'u' :: digits)

/-- The pieces of a string, one after the other. -/
inductive PiecesText : List Piece → List Char → Prop
  | nil : PiecesText [] []
  | cons {p : Piece} {ps : List Piece} {text rest : List Char} (h : PieceText p text)
      (hps : PiecesText ps rest) : PiecesText (p :: ps) (text ++ rest)

/-- The ways to write a token, and what else is read as one: a numeral that is too large for
a number, and pieces of a string that are no way to write characters, as half of a
surrogate pair stands alone. -/
inductive LooseText : Token → List Char → Prop
  | token {t : Token} {text : List Char} (h : TokenText t text) : LooseText t text
  | large {l : Numeral} {text : List Char} (h : NumeralText l text) (hvalue : l.value = none) :
      LooseText (.number none) text
  | half {ps : List Piece} {text : List Char} (h : PiecesText ps text)
      (hhalf : ∀ cs, ¬ CharsText cs text) : LooseText (.string none) ('"' :: text ++ ['"'])

/-- The texts of some tokens, with blanks around them. -/
inductive LooselySpaced : List Token → List Char → Prop
  | nil {w : List Char} (hw : IsBlank w) : LooselySpaced [] w
  | cons {t : Token} {ts : List Token} {w text rest : List Char} (hw : IsBlank w)
      (h : LooseText t text) (hts : LooselySpaced ts rest) :
      LooselySpaced (t :: ts) (w ++ text ++ rest)

namespace Node

mutual

/-- The tokens of a node that is whole. -/
def tokens : Node → List Token
  | .null => [.null]
  | .bool b => [.bool b]
  | .number n => [.number n]
  | .string s => [.string s]
  | .array items _ =>
    .openBracket :: [Token.comma].intercalate (itemTokens items) ++ [.closeBracket]
  | .object members _ =>
    .openBrace :: [Token.comma].intercalate (memberTokens members) ++ [.closeBrace]
  | .broken => [.invalid]

/-- The tokens of every item of an array. -/
def itemTokens : List Node → List (List Token)
  | [] => []
  | n :: ns => n.tokens :: itemTokens ns

/-- The tokens of every member of an object. -/
def memberTokens : List (Option String × Node) → List (List Token)
  | [] => []
  | (key, n) :: ms => (.string key :: .colon :: n.tokens) :: memberTokens ms

end

/-- The node is whole, and a text is one of those that it can be written as. -/
def Spells (n : Node) (text : String) : Prop :=
  n.tolerable = true ∧ LooselySpaced n.tokens text.toList

end Node

end IdentityTypes.Json
