/-
# String literals

A text as a JSON string, which is a TypeScript string as well. Only what has to
be is escaped: the quote, the backslash and the characters below the blank.

Key definitions: `escape`, `quote`.
-/

namespace IdentityTypes.Json

/-- A hexadecimal digit, with small letters. -/
def hexDigit (n : Nat) : Char :=
  if n < 10 then Char.ofNat (48 + n) else Char.ofNat (87 + n)

/-- A character inside a literal. -/
def escape (c : Char) : List Char :=
  if c = '"' then ['\\', '"']
  else if c = '\\' then ['\\', '\\']
  else if c = '\x08' then ['\\', 'b']
  else if c = '\t' then ['\\', 't']
  else if c = '\n' then ['\\', 'n']
  else if c = '\x0c' then ['\\', 'f']
  else if c = '\r' then ['\\', 'r']
  else if c.toNat < 32 then
    ['\\', 'u', '0', '0', hexDigit (c.toNat / 16), hexDigit (c.toNat % 16)]
  else [c]

/-- The literal of a text. -/
def quote (s : String) : String :=
  String.ofList ('"' :: s.toList.flatMap escape ++ ['"'])

example : quote "a\"\\\n\x0bé" = "\"a\\\"\\\\\\n\\u000bé\"" := by decide

end IdentityTypes.Json
