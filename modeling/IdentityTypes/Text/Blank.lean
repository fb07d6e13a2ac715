/-
# Blank characters

The white space of Unicode (the property White_Space), and what is done with
it: cutting a command line into its words, and dropping blanks from the ends
of a text. JSON knows fewer blanks than these (`Json.Token`).

Key definitions: `isBlank`, `words`, `trimEnd`, `trim`.
-/

namespace IdentityTypes.Text

/-- The characters of the Unicode property White_Space. -/
def isBlank (c : Char) : Bool :=
  let n := c.toNat
  (0x09 ≤ n && n ≤ 0x0D) || n == 0x20 || n == 0x85 || n == 0xA0 || n == 0x1680 ||
    (0x2000 ≤ n && n ≤ 0x200A) || n == 0x2028 || n == 0x2029 || n == 0x202F ||
    n == 0x205F || n == 0x3000

/-- The words of a text, where `current` is the word read so far, backwards. -/
def wordsFrom (current : List Char) : List Char → List (List Char)
  | [] => if current.isEmpty then [] else [current.reverse]
  | c :: r =>
    if isBlank c then
      if current.isEmpty then wordsFrom [] r else current.reverse :: wordsFrom [] r
    else wordsFrom (c :: current) r

/-- The maximal runs of characters that are not blank. -/
def words (s : String) : List String :=
  (wordsFrom [] s.toList).map String.ofList

/-- Drops the blanks at the end. -/
def trimEnd (cs : List Char) : List Char :=
  (cs.reverse.dropWhile isBlank).reverse

/-- Drops the blanks at both ends. -/
def trim (s : String) : String :=
  String.ofList (trimEnd (s.toList.dropWhile isBlank))

example : words " cat\t-\u00a0x " = ["cat", "-", "x"] := by decide
example : words "\n \u3000" = [] := by decide
example : trim "\u2003a b\r\n" = "a b" := by decide

end IdentityTypes.Text
