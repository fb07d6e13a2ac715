/-
# Tokens of a JSON text

A text is cut into tokens up to the first place where no token can begin or one
breaks off, which becomes the token `invalid` and ends the list.

Two faults are left to the reader of the tokens, since a value that nobody asks
for may have them: a number that is too large, and a string with half of a
surrogate pair. Such tokens carry `none`.

Key definitions: `Token`, `scanString`, `joinUnits`, `scanNumeral`, `tokens`.
-/
import IdentityTypes.Json.Number

namespace IdentityTypes.Json

/-- A token. -/
inductive Token where
  | openBrace
  | closeBrace
  | openBracket
  | closeBracket
  | colon
  | comma
  | null
  | bool (b : Bool)
  | number (n : Option Number)
  | string (s : Option String)
  | invalid
  deriving DecidableEq, Repr

/-- A piece of a string: a character, or the sixteen bits of an escape. -/
inductive Piece where
  | char (c : Char)
  | bits (n : Nat)
  deriving DecidableEq, Repr

/-- The value of a hexadecimal digit. -/
def hexValue (c : Char) : Option Nat :=
  let n := c.toNat
  if 48 ≤ n && n ≤ 57 then some (n - 48)
  else if 97 ≤ n && n ≤ 102 then some (n - 87)
  else if 65 ≤ n && n ≤ 70 then some (n - 55)
  else none

/-- The value of four hexadecimal digits. -/
def hexWord (a b c d : Char) : Option Nat := do
  pure (((← hexValue a) * 16 + (← hexValue b)) * 256 + (← hexValue c) * 16 + (← hexValue d))

/-- The character that a backslash and one letter stand for. -/
def shortEscape (c : Char) : Option Char :=
  match c with
  | '"' => some '"'
  | '\\' => some '\\'
  | '/' => some '/'
  | 'b' => some '\x08'
  | 'f' => some '\x0c'
  | 'n' => some '\n'
  | 'r' => some '\r'
  | 't' => some '\t'
  | _ => none

/-- The pieces of a string whose opening quote is read, and what follows its
closing quote. -/
def scanString : List Char → Option (List Piece × List Char)
  | [] => none
  | '"' :: r => some ([], r)
  | '\\' :: 'u' :: a :: b :: c :: d :: r => do
    let n ← hexWord a b c d
    let (pieces, rest) ← scanString r
    pure (.bits n :: pieces, rest)
  | '\\' :: c :: r => do
    let e ← shortEscape c
    let (pieces, rest) ← scanString r
    pure (.char e :: pieces, rest)
  | c :: r =>
    if c = '\\' || c.toNat < 32 then none
    else do
      let (pieces, rest) ← scanString r
      pure (.char c :: pieces, rest)

/-- Whether sixteen bits are the first half of a surrogate pair. -/
def isHighHalf (n : Nat) : Bool := 0xD800 ≤ n && n < 0xDC00

/-- Whether sixteen bits are the second half of a surrogate pair. -/
def isLowHalf (n : Nat) : Bool := 0xDC00 ≤ n && n < 0xE000

/-- The characters of a string, unless a half of a surrogate pair stands alone. -/
def joinUnits : List Piece → Option (List Char)
  | [] => some []
  | .char c :: r => (joinUnits r).map (c :: ·)
  | .bits m :: .bits n :: r =>
    if isHighHalf m then
      if isLowHalf n then
        (joinUnits r).map (Char.ofNat (0x10000 + (m - 0xD800) * 0x400 + (n - 0xDC00)) :: ·)
      else none
    else if isLowHalf m then none
    else (joinUnits (.bits n :: r)).map (Char.ofNat m :: ·)
  | .bits m :: r =>
    if isHighHalf m || isLowHalf m then none else (joinUnits r).map (Char.ofNat m :: ·)

/-- The value of an ASCII digit. -/
def digitValue (c : Char) : Nat := c.toNat - 48

/-- The digits at the beginning of a text, and what follows them. -/
def spanDigits (cs : List Char) : List Nat × List Char :=
  ((cs.takeWhile Char.isDigit).map digitValue, cs.dropWhile Char.isDigit)

/-- The natural number with the digits given. -/
def numberOf (digits : List Nat) : Nat := digits.foldl (fun n d => n * 10 + d) 0

/-- The digits before the point: a zero alone, or any others without a zero in
front. -/
def scanWhole (cs : List Char) : Option (List Nat × List Char) :=
  match spanDigits cs with
  | ([], _) => none
  | (0 :: _ :: _, _) => none
  | (ds, r) => some (ds, r)

/-- The digits after the point, if there is a point. -/
def scanFraction : List Char → Option (Option (List Nat) × List Char)
  | '.' :: cs =>
    match spanDigits cs with
    | ([], _) => none
    | (ds, r) => some (some ds, r)
  | cs => some (none, cs)

/-- The digits of a power of ten, whose sign is read. -/
def scanPower (negative : Bool) (cs : List Char) : Option (Option Int × List Char) :=
  match spanDigits cs with
  | ([], _) => none
  | (ds, r) => some (some (if negative then -numberOf ds else numberOf ds), r)

/-- The power of ten, if there is one. -/
def scanExponent : List Char → Option (Option Int × List Char)
  | c :: cs =>
    if c = 'e' || c = 'E' then
      match cs with
      | '+' :: r => scanPower false r
      | '-' :: r => scanPower true r
      | r => scanPower false r
    else some (none, c :: cs)
  | [] => some (none, [])

/-- A number after its sign. -/
def scanUnsigned (negative : Bool) (cs : List Char) : Option (Numeral × List Char) := do
  let (whole, cs) ← scanWhole cs
  let (fraction, cs) ← scanFraction cs
  let (exponent, cs) ← scanExponent cs
  pure (⟨negative, whole, fraction, exponent⟩, cs)

/-- A number. -/
def scanNumeral : List Char → Option (Numeral × List Char)
  | '-' :: cs => scanUnsigned true cs
  | cs => scanUnsigned false cs

/-- The blanks that JSON allows between tokens. -/
def isSpace (c : Char) : Bool := c = ' ' || c = '\t' || c = '\n' || c = '\r'

/-- The token that a character alone is. -/
def punctuation (c : Char) : Option Token :=
  match c with
  | '\x7b' => some .openBrace
  | '\x7d' => some .closeBrace
  | '[' => some .openBracket
  | ']' => some .closeBracket
  | ':' => some .colon
  | ',' => some .comma
  | _ => none

/-- The first token of a text that does not begin with a blank, and what follows
it. -/
def scanToken : List Char → Option (Token × List Char)
  | [] => none
  | 'n' :: 'u' :: 'l' :: 'l' :: r => some (.null, r)
  | 't' :: 'r' :: 'u' :: 'e' :: r => some (.bool true, r)
  | 'f' :: 'a' :: 'l' :: 's' :: 'e' :: r => some (.bool false, r)
  | '"' :: r => do
    let (pieces, rest) ← scanString r
    pure (.string ((joinUnits pieces).map String.ofList), rest)
  | c :: r =>
    match punctuation c with
    | some t => some (t, r)
    | none => do
      let (numeral, rest) ← scanNumeral (c :: r)
      pure (.number numeral.value, rest)

/-- The tokens of a text, for at most `fuel` of them. -/
def tokensWithin : Nat → List Char → List Token
  | 0, _ => []
  | fuel + 1, cs =>
    match cs.dropWhile isSpace with
    | [] => []
    | c :: r =>
      match scanToken (c :: r) with
      | none => [.invalid]
      | some (t, rest) => t :: tokensWithin fuel rest

/-- The tokens of a text. Every token takes at least one character. -/
def tokens (cs : List Char) : List Token := tokensWithin (cs.length + 1) cs

end IdentityTypes.Json
