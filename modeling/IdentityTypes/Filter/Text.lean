/-
# The text of a filter

A filter as it is sent to the server, such as
`(/userName eq 'bjensen' and /mail pr)`. A text stands in single quotes, and a
single quote in it has a backslash in front; null is written as the empty text.

Key definitions: `Comparison.name`, `Kind`, `Filter.kind`, `Operand.text`,
`Filter.text`.
-/
import IdentityTypes.Filter.Basic

namespace IdentityTypes

/-- The word of a comparison. -/
def Comparison.name : Comparison → String
  | .equal => "eq"
  | .greater => "gt"
  | .greaterOrEqual => "ge"
  | .less => "lt"
  | .lessOrEqual => "le"
  | .contains => "co"
  | .startsWith => "sw"

namespace Filter

/-- What a filter does, apart from its parts. -/
inductive Kind where
  | compare (comparison : Comparison)
  | present
  | always
  | never
  | not
  | and
  | or
  deriving DecidableEq, Repr

/-- The word of a kind. -/
def Kind.name : Kind → String
  | .compare c => c.name
  | .present => "pr"
  | .always => "true"
  | .never => "false"
  | .not => "!"
  | .and => "and"
  | .or => "or"

/-- The kind of a filter. -/
def kind : Filter → Kind
  | .compare c _ _ => .compare c
  | .present _ => .present
  | .always => .always
  | .never => .never
  | .not _ => .not
  | .and _ _ => .and
  | .or _ _ => .or

end Filter

/-- A character inside a quoted text. -/
def Operand.escapeChar (c : Char) : List Char := if c = '\'' then ['\\', '\''] else [c]

/-- The text of an operand. -/
def Operand.text : Operand → String
  | .string s => String.ofList ('\'' :: s.toList.flatMap escapeChar ++ ['\''])
  | .number n => n.text
  | .bool b => if b then "true" else "false"
  | .null => "''"

/-- The text of a filter, around the word of its kind. -/
def Filter.text (f : Filter) : String :=
  let word := f.kind.name
  match f with
  | .compare _ field operand => "/" ++ field ++ " " ++ word ++ " " ++ operand.text
  | .present field => "/" ++ field ++ " " ++ word
  | .always | .never => word
  | .not g => word ++ "(" ++ g.text ++ ")"
  | .and a b | .or a b => "(" ++ a.text ++ " " ++ word ++ " " ++ b.text ++ ")"

example : (Filter.and (.equals "userName" (.string "o'hara")) (.present "mail")).text
    = "(/userName eq 'o\\'hara' and /mail pr)" := by decide

end IdentityTypes
