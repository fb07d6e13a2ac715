/-
# The catalog of types

The declarations of both families, in the order in which they are written, each
under a name of its own. Two declarations that would get the same name are a
collision; the first one in the order of the catalog is reported.

Key definitions: `Catalog`, `Collision`, `Catalog.origins`, `firstCollision`,
`Catalog.assemble`.
-/
import IdentityTypes.Declaration
import IdentityTypes.Sorting

namespace IdentityTypes

/-- Everything that is declared, with the warnings on the way. -/
structure Catalog where
  managed : List ManagedResource
  managedSubTypes : List SubType
  system : List SystemResource
  systemSubTypes : List SubType
  warnings : List Warning
  deriving DecidableEq, Repr

/-- Two declarations of one name, told apart by where they come from. -/
structure Collision where
  name : String
  first : String
  second : String
  deriving DecidableEq, Repr

/-- How a collision is worded. -/
def Collision.message (c : Collision) : String :=
  "type name [" ++ c.name ++ "] is generated for both [" ++ c.first ++ "] and [" ++ c.second ++ "]"

/-- Where a declaration comes from. -/
def SubType.origin (s : SubType) : String := s.parentTypeName ++ "." ++ s.declaredName

/-- The first name that stands in a list a second time, where `seen` holds the
names met so far. Each name goes with its origin. -/
def firstCollision (seen : List (String × String)) : List (String × String) → Option Collision
  | [] => none
  | (name, origin) :: rest =>
    match seen.lookup name with
    | some first => some ⟨name, first, origin⟩
    | none => firstCollision ((name, origin) :: seen) rest

namespace Catalog

/-- The names of all declarations with their origins, resources first. -/
def origins (c : Catalog) : List (String × String) :=
  c.managed.map (fun r => (r.typeName, r.path)) ++
    (c.system.map (fun r => (r.typeName, r.path)) ++
      (c.managedSubTypes.map (fun s => (s.typeName, s.origin)) ++
        c.systemSubTypes.map (fun s => (s.typeName, s.origin))))

/-- The declarations of both families in ascending order, whatever names they
have. -/
def sorted (managed : ResourceSet ManagedResource) (system : ResourceSet SystemResource) :
    Catalog where
  managed := sortOn (·.name) managed.resources
  managedSubTypes := sortOn (·.typeName) managed.subTypes
  system := sortOn (·.fullName) system.resources
  systemSubTypes := sortOn (·.typeName) system.subTypes
  warnings := managed.warnings ++ system.warnings

/-- The catalog of two families, if all its names differ. -/
def assemble (managed : ResourceSet ManagedResource) (system : ResourceSet SystemResource) :
    Except Collision Catalog :=
  let catalog := sorted managed system
  match firstCollision [] catalog.origins with
  | some collision => .error collision
  | none => .ok catalog

end Catalog

end IdentityTypes
