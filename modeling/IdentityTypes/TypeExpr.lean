/-
# Types of properties

The types that are generated for properties, free of the language that they are
written in. A type is a union of expressions and may admit null besides. All types
are made from one expression, so that no union is empty.

Key definitions: `ValueKind`, `Primitive`, `Targets`, `TypeExpr`, `Descriptor`,
`Descriptor.types`, `Descriptor.arrayOf`.
-/

namespace IdentityTypes

/-- The type of values about which a schema says nothing. -/
inductive ValueKind where
  | unknown
  | any
  deriving DecidableEq, Repr

/-- The types without parts. -/
inductive Primitive where
  | boolean
  | number
  | string
  deriving DecidableEq, Repr

/-- The types that a relationship may point at, at least one. -/
structure Targets where
  first : String
  others : List String
  deriving DecidableEq, Repr

/-- The targets in order. -/
def Targets.toList (t : Targets) : List String := t.first :: t.others

/-- The targets in a list, if there are any. -/
def Targets.ofList? : List String → Option Targets
  | [] => none
  | t :: ts => some ⟨t, ts⟩

/-- A type expression. -/
inductive TypeExpr where
  | primitive (p : Primitive)
  | array (item : TypeExpr)
  | openMap (kind : ValueKind)
  | openArray (kind : ValueKind)
  | reference (targets : Targets)
  | subType (name : String)
  deriving DecidableEq, Repr

/-- The type of a property: the union of one expression or more. -/
structure Descriptor where
  first : TypeExpr
  others : List TypeExpr
  nullable : Bool
  deriving DecidableEq, Repr

namespace Descriptor

/-- The expressions in order. -/
def types (d : Descriptor) : List TypeExpr := d.first :: d.others

/-- The type of one expression. It does not admit null. -/
def single (expr : TypeExpr) : Descriptor := ⟨expr, [], false⟩

/-- The type that admits null if `nullable` says so. -/
def withNullable (d : Descriptor) (nullable : Bool) : Descriptor := { d with nullable }

/-- The type with an array around each of its expressions. Whether items may be null does
not carry over to the array. -/
def arrayOf (d : Descriptor) : Descriptor := ⟨.array d.first, d.others.map .array, false⟩

theorem types_arrayOf (d : Descriptor) : d.arrayOf.types = d.types.map .array := rfl

end Descriptor

end IdentityTypes
