/-
# Types in TypeScript

How types are written in TypeScript.

Key definitions: `TypeExpr.text`, `TypeExpr.usesReference`, `Descriptor.text`.
-/
import IdentityTypes.TypeExpr

namespace IdentityTypes

/-- The type of values about which nothing is known. -/
def ValueKind.text : ValueKind → String
  | .unknown => "unknown"
  | .any => "any"

/-- The type without parts. -/
def Primitive.text : Primitive → String
  | .boolean => "boolean"
  | .number => "number"
  | .string => "string"

namespace TypeExpr

/-- The text of a type expression. -/
def text : TypeExpr → String
  | .primitive p => p.text
  | .array item => item.text ++ "[]"
  | .openMap kind => "Record<string, " ++ kind.text ++ ">"
  | .openArray kind => kind.text ++ "[]"
  | .reference targets => "ReferenceType<" ++ " | ".intercalate targets.toList ++ ">"
  | .subType name => name

theorem text_array (item : TypeExpr) : (array item).text = item.text ++ "[]" := rfl

theorem text_reference (ts : Targets) :
    (reference ts).text = "ReferenceType<" ++ " | ".intercalate ts.toList ++ ">" := rfl

/-- Whether the expression refers to resources. -/
def usesReference : TypeExpr → Bool
  | .reference _ => true
  | .array item => item.usesReference
  | _ => false

end TypeExpr

/-- The text of a type: its expressions one after the other. -/
def Descriptor.text (d : Descriptor) : String :=
  " | ".intercalate (d.types.map TypeExpr.text) ++ (if d.nullable then " | null" else "")

theorem Descriptor.text_single (e : TypeExpr) (nullable : Bool) :
    (Descriptor.mk e [] nullable).text = e.text ++ (if nullable then " | null" else "") := by
  simp [text, types]

example : (Descriptor.mk (.array (.reference ⟨"A", ["B"]⟩)) [.primitive .string] true).text
    = "ReferenceType<A | B>[] | string | null" := by decide

end IdentityTypes
