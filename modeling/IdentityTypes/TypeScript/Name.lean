/-
# Keys of objects in TypeScript

A key that is an identifier is written as it is, any other as a string.

Key definitions: `isIdentifier`, `propertyKey`.
-/
import IdentityTypes.Json.Literal

namespace IdentityTypes.TypeScript

/-- The characters that an identifier may begin with. -/
def isIdentifierStart (c : Char) : Bool := c.isAlpha || c = '_' || c = '$'

/-- The characters that an identifier may go on with. -/
def isIdentifierPart (c : Char) : Bool := c.isAlphanum || c = '_' || c = '$'

/-- Whether a name is an identifier. Only letters of ASCII count. -/
def isIdentifier (s : String) : Bool :=
  match s.toList with
  | [] => false
  | c :: cs => isIdentifierStart c && cs.all isIdentifierPart

/-- The key of a property. -/
def propertyKey (s : String) : String :=
  if isIdentifier s then s else Json.quote s

example : propertyKey "$a_1" = "$a_1" ∧ propertyKey "1a" = "\"1a\"" := by decide

end IdentityTypes.TypeScript
