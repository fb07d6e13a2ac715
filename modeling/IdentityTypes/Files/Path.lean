/-
# Paths

A path is a text, and stays the text that was given, since messages show it. Its
segments are what stands between the slashes; an empty segment or a dot stays in
the same directory, two dots go to the one above.

Key definitions: `segments`, `join`, `fileName?`.
-/

namespace IdentityTypes.Files

/-- The parts of a text between slashes, where `current` is the part read so far,
backwards. -/
def segmentsFrom (current : List Char) : List Char → List String
  | [] => [String.ofList current.reverse]
  | c :: cs =>
    if c = '/' then String.ofList current.reverse :: segmentsFrom [] cs
    else segmentsFrom (c :: current) cs

/-- The segments of a path, empty ones included. -/
def segments (path : String) : List String := segmentsFrom [] path.toList

/-- Whether a path begins at the root. -/
def isAbsolute (path : String) : Bool := path.toList.head? == some '/'

/-- The path of `name` in the directory `dir`. -/
def join (dir name : String) : String :=
  if dir = "" || dir.toList.getLast? = some '/' then dir ++ name else dir ++ "/" ++ name

/-- The last segment of a path, unless it leads to a directory above. Segments at
the end that stay in the same directory do not count. -/
def fileName? (path : String) : Option String :=
  match (segments path).reverse.dropWhile fun s => s = "" || s = "." with
  | [] => none
  | s :: _ => if s = ".." then none else some s

example : segments "/a//b/" = ["", "a", "", "b", ""] := by decide
example : join "conf/" "x" = "conf/x" ∧ join "" "x" = "x" ∧ join "." "x" = "./x" := by decide
example : fileName? "a/b/." = some "b" ∧ fileName? "a/.." = none ∧ fileName? "/" = none := by decide

end IdentityTypes.Files
