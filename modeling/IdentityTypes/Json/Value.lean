/-
# JSON values

A document that is complete and free of faults. The members of an object stand
in the order of the text, repeated keys included; who reads an object decides
what a repetition means. In the compact text of a value the last one counts, and
the members are sorted by their keys.

Key definitions: `Value`, `Value.compact`.
-/
import IdentityTypes.Json.Number
import IdentityTypes.Json.Literal

namespace IdentityTypes.Json

/-- A JSON value. -/
inductive Value where
  | null
  | bool (b : Bool)
  | number (n : Number)
  | string (s : String)
  | array (items : List Value)
  | object (members : List (String × Value))
  deriving Repr

/-- Puts a key with its text into a list that is sorted by keys, in place of
what the list has for that key. -/
def putSorted (key text : String) : List (String × String) → List (String × String)
  | [] => [(key, text)]
  | (k, t) :: r =>
    if key = k then (key, text) :: r
    else if key < k then (key, text) :: (k, t) :: r
    else (k, t) :: putSorted key text r

/-- The text of an object whose members have the texts given. -/
def objectText (members : List (String × String)) : String :=
  let sorted := members.foldl (fun acc m => putSorted m.1 m.2 acc) []
  "\x7b" ++ ",".intercalate (sorted.map fun m => quote m.1 ++ ":" ++ m.2) ++ "\x7d"

mutual

/-- A value without blanks, keys in ascending order. -/
def Value.compact : Value → String
  | .null => "null"
  | .bool b => if b then "true" else "false"
  | .number n => n.text
  | .string s => quote s
  | .array items => "[" ++ ",".intercalate (compactItems items) ++ "]"
  | .object members => objectText (compactMembers members)

/-- The texts of the items of an array. -/
def compactItems : List Value → List String
  | [] => []
  | v :: vs => v.compact :: compactItems vs

/-- The keys of an object with the texts of their values. -/
def compactMembers : List (String × Value) → List (String × String)
  | [] => []
  | (key, v) :: ms => (key, v.compact) :: compactMembers ms

end

example : (Value.object [("b", .null), ("a", .array [.bool true, .number (.integer (-3))]),
    ("b", .string "x")]).compact = "\x7b\"a\":[true,-3],\"b\":\"x\"\x7d" := by decide +kernel

end IdentityTypes.Json
