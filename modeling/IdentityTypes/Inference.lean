/-
# From schemas to types

The type of a property follows from its schema. An object with properties gets a
declaration of its own, which the property refers to; a relationship refers to
the managed objects that it may point at. What a schema leaves open becomes an
open map or array.

A schema is refused at the first fault in the order in which it is walked: a
node before the nodes below it, properties in their declared order.

Key definitions: `InferenceError`, `Inferred`, `effectiveType`, `inferType`,
`inferProperties`.
-/
import IdentityTypes.Declaration
import IdentityTypes.Name.Casing
import IdentityTypes.Schema.Basic

namespace IdentityTypes

/-- Why no type can be inferred. -/
inductive InferenceError where
  /-- The schema has no type. -/
  | missingType (property : String)
  /-- The schema has a tag that is not known. -/
  | unsupportedType (tag property : String)
  /-- The schema has a list of tags that is not one tag and null. -/
  | unsupportedUnion (tags : List String) (property : String)
  /-- The schema is a relationship, but not that of a managed object. -/
  | relationshipNotAllowed (owner property : String)
  /-- The words of a name cannot be told apart. -/
  | unsplittableName
  deriving DecidableEq, Repr

/-- How an error is worded; one without a wording ends the program. -/
def InferenceError.message : InferenceError → Option String
  | .missingType property => some ("missing type for property [" ++ property ++ "]")
  | .unsupportedType tag property =>
    some ("unsupported type [" ++ tag ++ "] for property [" ++ property ++ "]")
  | .unsupportedUnion tags property =>
    some ("unsupported type [" ++ ", ".intercalate tags ++ "] for property [" ++ property ++
      "], expected [<type>, \"null\"]")
  | .relationshipNotAllowed owner property =>
    some ("relationship property [" ++ property ++ "] is not allowed on [" ++ owner ++
      "], only managed objects may declare relationships")
  | .unsplittableName => none

/-- The name made, or the error that there is none. -/
def nameOrError (name : Option String) : Except InferenceError String :=
  match name with
  | some n => .ok n
  | none => .error .unsplittableName

/-- Something inferred, with the declarations and warnings made on the way. -/
structure Inferred (α : Type) where
  value : α
  subTypes : List SubType
  warnings : List Warning
  deriving DecidableEq, Repr

namespace Inferred

variable {α β : Type}

/-- Something inferred without more. -/
def plain (value : α) : Inferred α := ⟨value, [], []⟩

/-- Applies a function to what is inferred. -/
def map (f : α → β) (x : Inferred α) : Inferred β := ⟨f x.value, x.subTypes, x.warnings⟩

/-- Puts something in front of a list inferred after it. -/
def cons (x : Inferred α) (xs : Inferred (List α)) : Inferred (List α) :=
  ⟨x.value :: xs.value, x.subTypes ++ xs.subTypes, x.warnings ++ xs.warnings⟩

end Inferred

/-- The shapes of values that schemas describe. -/
inductive SchemaKind where
  | boolean
  | number
  | string
  | object
  | array
  | relationship
  deriving DecidableEq, Repr

/-- The shape that a tag names. -/
def SchemaKind.ofTag? (tag : String) : Option SchemaKind :=
  if tag = "boolean" then some .boolean
  else if tag = "number" || tag = "integer" then some .number
  else if tag = "string" then some .string
  else if tag = "object" then some .object
  else if tag = "array" then some .array
  else if tag = "relationship" then some .relationship
  else none

/-- The tag of a type, and whether null is admitted besides. -/
def effectiveType (type : Option TypeTag) (property : String) :
    Except InferenceError (String × Bool) :=
  match type with
  | none => .error (.missingType property)
  | some (.single tag) => .ok (tag, false)
  | some (.union [tag, other]) =>
    if other = "null" then .ok (tag, true) else .error (.unsupportedUnion [tag, other] property)
  | some (.union tags) => .error (.unsupportedUnion tags property)

/-- The title and the description of a property. The description stands in for a
title that is missing or empty, and is left out where it only repeats the
title. -/
def titleAndDescription (title description : Option String) : String × String :=
  let description := description.getD ""
  let title :=
    match title with
    | some t => if t = "" then description else t
    | none => description
  if title = description then (title, "") else (title, description)

/-- Whether reads return a property by default: as the schema says, else unless
it is a relationship or a list of them. -/
def returnedByDefault (family : Family) (s : Schema) : Option Bool :=
  match family with
  | .managed => some (s.returnByDefault.getD (!(s.isRelationship || s.isRelationshipArray)))
  | .system => none

/-- The property `name` with the schema and the type given. -/
def describe (family : Family) (name : String) (required : Bool) (s : Schema)
    (type : Descriptor) : Property :=
  let texts := titleAndDescription s.title s.description
  { name, type, required, title := texts.1, description := texts.2,
    returnByDefault := returnedByDefault family s }

/-- The managed objects' types that collections hold, in order. -/
def targetNames (collections : List ResourceCollection) : Except InferenceError (List String) :=
  (collections.filterMap ResourceCollection.managedName).mapM fun name =>
    nameOrError (Name.managedTypeName name)

/-- The type of a relationship that the property of `owner` is. -/
def inferRelationship (family : Family) (kind : ValueKind) (property owner : String)
    (collections : List ResourceCollection) : Except InferenceError (Inferred Descriptor) :=
  match family with
  | .system => .error (.relationshipNotAllowed owner property)
  | .managed => do
    let names ← targetNames collections
    match Targets.ofList? names with
    | some targets => .ok (.plain (.single (.reference targets)))
    | none =>
      .ok ⟨.single (.openMap kind), [], [⟨owner, property, collections.map (·.path)⟩]⟩

mutual

/-- The type of the property of `owner` that has a schema. -/
def inferType (family : Family) (kind : ValueKind) (property owner : String) :
    Schema → Except InferenceError (Inferred Descriptor)
  | ⟨type, _, _, properties, required, items, collections, _⟩ => do
    let (tag, nullable) ← effectiveType type property
    let inferred ←
      match SchemaKind.ofTag? tag with
      | some .boolean => .ok (.plain (.single (.primitive .boolean)))
      | some .number => .ok (.plain (.single (.primitive .number)))
      | some .string => .ok (.plain (.single (.primitive .string)))
      | some .object =>
        if properties.isEmpty then .ok (.plain (.single (.openMap kind)))
        else do
          let name ← nameOrError (Name.subTypeName owner property)
          let inner ← inferProperties family kind name required properties
          .ok ⟨.single (.subType name), inner.subTypes ++ [⟨property, name, owner, inner.value⟩],
            inner.warnings⟩
      | some .array => inferItems family kind property owner items
      | some .relationship => inferRelationship family kind property owner collections
      | none => .error (.unsupportedType tag property)
    .ok (inferred.map (·.withNullable nullable))

/-- The type of arrays whose items may have a schema. -/
def inferItems (family : Family) (kind : ValueKind) (property owner : String) :
    Option Schema → Except InferenceError (Inferred Descriptor)
  | none => .ok (.plain (.single (.openArray kind)))
  | some s =>
    if s.type.isSome then (inferType family kind property owner s).map (·.map Descriptor.arrayOf)
    else .ok (.plain (.single (.openArray kind)))

/-- The properties of `owner`, in their declared order. -/
def inferProperties (family : Family) (kind : ValueKind) (owner : String)
    (required : List String) :
    List (String × Schema) → Except InferenceError (Inferred (List Property))
  | [] => .ok (.plain [])
  | (name, s) :: rest => do
    let type ← inferType family kind name owner s
    let others ← inferProperties family kind owner required rest
    .ok (.cons (type.map (describe family name (required.contains name) s)) others)

end

end IdentityTypes
