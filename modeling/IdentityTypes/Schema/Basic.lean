/-
# Schemas

The schemas of the configuration, as far as types are made from them. A schema
says which type a value has and, for an object, which properties; a relationship
has the collections that its targets come from.

Key definitions: `TypeTag`, `Schema`, `Schema.tag`, `Schema.isRelationship`,
`Schema.isRelationshipArray`, `ResourceCollection.managedName`.
-/
import IdentityTypes.Text.Ends

namespace IdentityTypes

/-- The `type` of a schema: one tag, or a list of tags. -/
inductive TypeTag where
  | single (tag : String)
  | union (tags : List String)
  deriving DecidableEq, Repr

/-- A collection of resources, given by its path. -/
structure ResourceCollection where
  path : String
  deriving DecidableEq, Repr

/-- The name of the managed object that the collection holds, if it holds one. -/
def ResourceCollection.managedName (c : ResourceCollection) : Option String :=
  Text.dropStart? "managed/" c.path

/-- A schema. The properties stand in the order in which they are declared. -/
structure Schema where
  type : Option TypeTag := none
  title : Option String := none
  description : Option String := none
  properties : List (String × Schema) := []
  required : List String := []
  items : Option Schema := none
  collections : List ResourceCollection := []
  returnByDefault : Option Bool := none
  deriving Repr

namespace Schema

/-- The tag that the schema's type starts with. -/
def tag (s : Schema) : Option String :=
  match s.type with
  | none => none
  | some (.single tag) => some tag
  | some (.union tags) => tags.head?

/-- Whether values are links to other resources. -/
def isRelationship (s : Schema) : Bool := s.tag == some "relationship"

/-- Whether values are lists of links to other resources. -/
def isRelationshipArray (s : Schema) : Bool :=
  s.tag == some "array" && s.items.any isRelationship

/-- Whether the schema requires a property. -/
def isRequired (s : Schema) (property : String) : Bool := s.required.contains property

end Schema

example : ResourceCollection.managedName ⟨"managed/user"⟩ = some "user" := by decide
example : ResourceCollection.managedName ⟨"system/ldap/account"⟩ = none := by decide

end IdentityTypes
