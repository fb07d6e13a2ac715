/-
# Faults of documents

Why a document is refused: its text is malformed, or what it holds is not what
was asked for. `Fault.message` has the wording; a malformed text has none of its
own beyond the fact.

Key definitions: `Found`, `Fault`, `Fault.message`, `Node.mismatch`.
-/
import IdentityTypes.Json.Node
import IdentityTypes.Text.Quoted

namespace IdentityTypes.Json

/-- What stands in a document where something else was wanted. -/
inductive Found where
  | null
  | bool (b : Bool)
  | number (n : Number)
  | string (s : String)
  | sequence
  | map
  deriving DecidableEq, Repr

/-- A fault of a document. -/
inductive Fault where
  /-- The text is no JSON, or nested too deep. -/
  | malformed
  /-- A value of another kind than wanted. -/
  | mismatch (found : Found) (wanted : String)
  /-- A member that is given twice. -/
  | duplicateField (name : String)
  /-- A member that is not given. -/
  | missingField (name : String)
  /-- An array of `length` items in place of what is wanted. -/
  | wrongLength (length : Nat) (wanted : String)
  /-- A name that is none of those known. -/
  | unknownVariant (name : String) (known : List String)
  /-- A number that is no place among `count` names. -/
  | variantIndex (index count : Nat)
  /-- A value that is none of the alternatives of `choice`. -/
  | noVariant (choice : String)
  /-- A value that `field` cannot have. -/
  | unusable (field wanted : String) (value : Value)
  deriving Repr

/-- How a message shows what it found. -/
def Found.text : Found → String
  | .null => "null"
  | .bool b => "boolean `" ++ (if b then "true" else "false") ++ "`"
  | .number (.integer n) => "integer `" ++ (Number.integer n).text ++ "`"
  | .number (.float x) => "floating point `" ++ (Number.float x).text ++ "`"
  | .string s => "string " ++ Text.showText s
  | .sequence => "sequence"
  | .map => "map"

/-- A name in a message. -/
def backquoted (name : String) : String := "`" ++ name ++ "`"

/-- What is wrong with a document. -/
def Fault.message : Fault → Option String
  | .malformed => none
  | .mismatch found wanted => some ("invalid type: " ++ found.text ++ ", expected " ++ wanted)
  | .duplicateField name => some ("duplicate field " ++ backquoted name)
  | .missingField name => some ("missing field " ++ backquoted name)
  | .wrongLength length wanted =>
    some ("invalid length " ++ toString length ++ ", expected " ++ wanted)
  | .unknownVariant name known =>
    some ("unknown variant " ++ backquoted name ++ ", expected one of " ++
      ", ".intercalate (known.map backquoted))
  | .variantIndex index count =>
    some ("invalid value: integer `" ++ toString index ++ "`, expected variant index 0 <= i < " ++
      toString count)
  | .noVariant choice => some ("data did not match any variant of untagged enum " ++ choice)
  | .unusable field wanted value =>
    some ("invalid `" ++ field ++ "`, expected " ++ wanted ++ ", got `" ++ value.compact ++ "`")

/-- What a value is. -/
def Value.found : Value → Found
  | .null => .null
  | .bool b => .bool b
  | .number n => .number n
  | .string s => .string s
  | .array _ => .sequence
  | .object _ => .map

/-- The fault of a value that is not what is wanted. -/
def Value.mismatch (v : Value) (wanted : String) : Fault :=
  .mismatch v.found wanted

/-- The fault of a node that is not what is wanted. To tell an array or object
from anything else its first character is enough; other values are read to their
end first. -/
def Node.mismatch (n : Node) (wanted : String) : Fault :=
  match n with
  | .null => .mismatch .null wanted
  | .bool b => .mismatch (.bool b) wanted
  | .number (some x) => .mismatch (.number x) wanted
  | .string (some s) => .mismatch (.string s) wanted
  | .array _ _ => .mismatch .sequence wanted
  | .object _ _ => .mismatch .map wanted
  | .number none | .string none | .broken => .malformed

end IdentityTypes.Json
