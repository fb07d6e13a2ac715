/-
# The resources of a configuration

Each managed object and each object type of a connector becomes a resource, whose
properties are inferred from its schema. Managed objects are taken in the order
of their names, object types in the order given; the resources and the
declarations of either family come out in ascending order.

Key definitions: `inferManaged`, `inferSystem`, `managedResources`,
`systemResources`.
-/
import IdentityTypes.Configuration.Document
import IdentityTypes.Inference
import IdentityTypes.Sorting

namespace IdentityTypes

/-- The managed object as a resource. -/
def inferManagedObject (kind : ValueKind) (o : ManagedObject) :
    Except InferenceError (Inferred ManagedResource) := do
  let typeName ← nameOrError (Name.managedTypeName o.name)
  let properties ← inferProperties .managed kind typeName o.schema.required o.schema.properties
  .ok (properties.map fun properties => { name := o.name, typeName, properties })

/-- Managed objects as resources, in the order given. -/
def inferManaged (kind : ValueKind) :
    List ManagedObject → Except InferenceError (Inferred (List ManagedResource))
  | [] => .ok (.plain [])
  | o :: os => do
    let resource ← inferManagedObject kind o
    let others ← inferManaged kind os
    .ok (.cons resource others)

/-- An object type of a connector as a resource. -/
def inferObjectType (kind : ValueKind) (connector objectType : String) (schema : Schema) :
    Except InferenceError (Inferred SystemResource) := do
  let typeName ← nameOrError (Name.systemTypeName connector objectType)
  let properties ← inferProperties .system kind typeName schema.required schema.properties
  let valueName ← nameOrError (Name.systemValueName connector objectType)
  .ok (properties.map fun properties =>
    { connector, objectType, fullName := connector ++ "/" ++ objectType, valueName, typeName,
      properties })

/-- The object types of connectors, each with its connector. -/
def objectTypesOf (connectors : List Connector) : List (String × String × Schema) :=
  connectors.flatMap fun c => c.objectTypes.map fun t => (c.name, t.1, t.2)

/-- Object types as resources, in the order given. -/
def inferSystem (kind : ValueKind) :
    List (String × String × Schema) → Except InferenceError (Inferred (List SystemResource))
  | [] => .ok (.plain [])
  | (connector, objectType, schema) :: os => do
    let resource ← inferObjectType kind connector objectType schema
    let others ← inferSystem kind os
    .ok (.cons resource others)

/-- Resources with the declarations made for them, these in ascending order. -/
def ResourceSet.ofInferred {R : Type} (inferred : Inferred (List R)) : ResourceSet R :=
  ⟨inferred.value, sortOn (·.typeName) inferred.subTypes, inferred.warnings⟩

/-- The resources of managed objects. -/
def managedResources (kind : ValueKind) (objects : List ManagedObject) :
    Except InferenceError (ResourceSet ManagedResource) := do
  let inferred ← inferManaged kind (sortOn (·.name) objects)
  .ok (.ofInferred inferred)

/-- The resources of connectors. -/
def systemResources (kind : ValueKind) (connectors : List Connector) :
    Except InferenceError (ResourceSet SystemResource) := do
  let inferred ← inferSystem kind (objectTypesOf connectors)
  .ok (.ofInferred (inferred.map (sortOn (·.fullName))))

end IdentityTypes
