/-
# Quoted text in messages

A text that a message shows stands in double quotes. Characters that print stand
for themselves, the others are escaped, so that the message stays on one line
and shows everything that is in the text.

Key definitions: `showChar`, `showText`.
-/
import IdentityTypes.Text.Printable

namespace IdentityTypes.Text

/-- A character in a quoted text. -/
def showChar (c : Char) : List Char :=
  match c with
  | '\x00' => ['\\', '0']
  | '\t' => ['\\', 't']
  | '\n' => ['\\', 'n']
  | '\r' => ['\\', 'r']
  | '"' => ['\\', '"']
  | '\\' => ['\\', '\\']
  | c =>
    if isPrintable c then [c]
    else '\\' :: 'u' :: '\x7b' :: Nat.toDigits 16 c.toNat ++ ['\x7d']

/-- A text in double quotes. -/
def showText (s : String) : String :=
  String.ofList ('"' :: s.toList.flatMap showChar ++ ['"'])

example : showText "a'\"\\\x1bé\u200b" = "\"a'\\\"\\\\\\u\x7b1b\x7dé\\u\x7b200b\x7d\"" := by
  decide +kernel

end IdentityTypes.Text
