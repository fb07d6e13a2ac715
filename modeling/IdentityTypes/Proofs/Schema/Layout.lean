/-
# Layouts of schemas

A schema is written as an object with a member for each part of it. The members may stand in
any order and with others among them, of which only the grammar counts. What a schema does
not have is left out or, where it is one thing and not a list, written as null; and a flag or
null in place of the required properties says that there are none.

Key definitions: `TypeTag.WrittenAs`, `RequiredAs`, `Schema.Layout`, `Schema.WrittenAs`,
`Schema.NamesDiffer`, `ManagedObject.WrittenAs`, `ManagedAs`, `ObjectTypesAs`.
-/
import IdentityTypes.Configuration.Document
import IdentityTypes.Proofs.Json.Records

namespace IdentityTypes

open Json

/-- A type is written as its tag, or as the array of its tags. -/
def TypeTag.WrittenAs (depth : Nat) : TypeTag → Node → Prop
  | .single tag => textAs tag
  | .union tags => ListAs depth textAs tags

/-- The required properties are written as the array of their names. If there are none, a
flag or null may stand in its place. -/
inductive RequiredAs (depth : Nat) : List String → Node → Prop
  | names {names : List String} {n : Node} (h : ListAs depth textAs names n) :
      RequiredAs depth names n
  | flag (b : Bool) : RequiredAs depth [] (.bool b)
  | null : RequiredAs depth [] .null

/-- A collection is written as an object with its path. -/
def ResourceCollection.WrittenAs (depth : Nat) (c : ResourceCollection) : Node → Prop :=
  ObjectAs depth ["path"] fun ms => Laid ms "path" False (textAs c.path)

namespace Schema

/-- The names of the members of a schema. -/
def memberNames : List String :=
  ["type", "title", "description", "properties", "required", "items", "resourceCollection",
    "returnByDefault"]

/-- The members of a schema, which may be nested `depth` deep, where `item` and `property` say
how the schemas in it are written. -/
structure Layout (depth : Nat) (item property : Schema → Node → Prop) (s : Schema)
    (ms : List (Option String × Node)) : Prop where
  type : Laid ms "type" (s.type = none) (orNull (TypeTag.WrittenAs depth) s.type)
  title : Laid ms "title" (s.title = none) (orNull textAs s.title)
  description : Laid ms "description" (s.description = none) (orNull textAs s.description)
  properties : Laid ms "properties" (s.properties = []) (MapAs depth property s.properties)
  required : Laid ms "required" (s.required = []) (RequiredAs depth s.required)
  items : Laid ms "items" (s.items = none) (orNull item s.items)
  collections : Laid ms "resourceCollection" (s.collections = [])
    (ListAs depth (ResourceCollection.WrittenAs (depth - 1)) s.collections)
  returnByDefault : Laid ms "returnByDefault" (s.returnByDefault = none)
    (orNull (fun b n => n = .bool b) s.returnByDefault)

/-- A schema is written as a node, nested at most `depth` deep where its members are. The
schema of a property lies two levels deeper. -/
def WrittenAs : Nat → Schema → Node → Prop
  | 0, _, _ => False
  | 1, s, n => ObjectAs 1 memberNames (s.Layout 0 (WrittenAs 0) (WrittenAs 0)) n
  | depth + 2, s, n =>
    ObjectAs (depth + 2) memberNames
      (s.Layout (depth + 1) (WrittenAs (depth + 1)) (WrittenAs depth)) n

/-- The names of the properties differ, in the schema and in every schema inside it. -/
inductive NamesDiffer : Schema → Prop
  | mk {s : Schema} (hnames : (s.properties.map (·.1)).Nodup)
      (hproperties : ∀ p ∈ s.properties, NamesDiffer p.2) (hitems : ∀ i ∈ s.items, NamesDiffer i) :
      NamesDiffer s

end Schema

/-! ### Documents -/

/-- A managed object is written as an object with its name and its schema. -/
def ManagedObject.WrittenAs (depth : Nat) (o : ManagedObject) : Node → Prop :=
  ObjectAs depth ["name", "schema"] fun ms =>
    Laid ms "name" False (textAs o.name) ∧ Laid ms "schema" False (o.schema.WrittenAs (depth - 1))

/-- The managed objects are written as an object with the array of them. -/
def ManagedAs (depth : Nat) (objects : List ManagedObject) : Node → Prop :=
  ObjectAs depth ["objects"] fun ms => Laid ms "objects" False
    (ListAs (depth - 1) (ManagedObject.WrittenAs (depth - 2)) objects)

/-- The object types of a connector are written as an object with the map of them. -/
def ObjectTypesAs (depth : Nat) (types : List (String × Schema)) : Node → Prop :=
  ObjectAs depth ["objectTypes"] fun ms => Laid ms "objectTypes" False
    (MapAs (depth - 1) (Schema.WrittenAs (depth - 2)) types)

end IdentityTypes
