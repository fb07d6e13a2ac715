/-
# Lines of a text

A line ends at a line feed, and a carriage return right before that line feed
belongs to the end too. Text after the last line feed is a line of its own,
unless there is none.

Key definitions: `linesOf`, `unlines`.
-/

namespace IdentityTypes.Text

/-- The line whose characters are given backwards, without the carriage return
that its line feed follows. -/
def closeLine : List Char → List Char
  | '\r' :: r => r.reverse
  | cs => cs.reverse

/-- The lines of a text, where `current` is the line read so far, backwards. -/
def linesFrom (current : List Char) : List Char → List (List Char)
  | [] => if current.isEmpty then [] else [current.reverse]
  | '\n' :: r => closeLine current :: linesFrom [] r
  | c :: r => linesFrom (c :: current) r

/-- The lines of a text, without their ends. -/
def linesOf (s : String) : List (List Char) :=
  linesFrom [] s.toList

/-- Every line followed by a line feed. -/
def unlines (lines : List String) : String :=
  String.join (lines.map (· ++ "\n"))

example : linesOf "a\r\n\nb" = [['a'], [], ['b']] := by decide
example : linesOf "\r\n" = [[]] := by decide
example : linesOf "a\r" = [['a', '\r']] := by decide
example : linesOf "" = [] := by decide

end IdentityTypes.Text
