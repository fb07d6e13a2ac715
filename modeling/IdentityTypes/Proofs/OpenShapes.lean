/-
# The kind of what is left open

What a schema leaves open becomes an open map or an open array, and the kind of their
values is chosen for each family. Two runs that differ in this choice alone end alike:
with the same error, or with results in which nothing differs but the kinds themselves.
So another kind may be put in before the run or afterwards, and it is the same
(`inferType_mapKind`, and from there to whole catalogs).

Key definitions: `TypeExpr.mapKind`, `Property.mapKind`, `Inferred.mapKind`,
`ResourceSet.mapKind`, `Catalog.mapKinds`, `OnlyKindsChange`.
Key theorems: `inferType_mapKind`, `managedResources_mapKind`, `systemResources_mapKind`,
`Catalog.assemble_mapKind`, `build_mapKind`, `onlyKindsChange`.
-/
import IdentityTypes.Proofs.Catalog.Names
import IdentityTypes.Proofs.Inference.Faults

namespace IdentityTypes

/-! ### Other kinds in what is generated -/

/-- The type with other kinds in its open maps and arrays. -/
def TypeExpr.mapKind (f : ValueKind → ValueKind) : TypeExpr → TypeExpr
  | .array item => .array (item.mapKind f)
  | .openMap kind => .openMap (f kind)
  | .openArray kind => .openArray (f kind)
  | e => e

def Descriptor.mapKind (f : ValueKind → ValueKind) (d : Descriptor) : Descriptor :=
  { d with first := d.first.mapKind f, others := d.others.map (·.mapKind f) }

def Property.mapKind (f : ValueKind → ValueKind) (p : Property) : Property :=
  { p with type := p.type.mapKind f }

def SubType.mapKind (f : ValueKind → ValueKind) (t : SubType) : SubType :=
  { t with properties := t.properties.map (·.mapKind f) }

def ManagedResource.mapKind (f : ValueKind → ValueKind) (r : ManagedResource) : ManagedResource :=
  { r with properties := r.properties.map (·.mapKind f) }

def SystemResource.mapKind (f : ValueKind → ValueKind) (r : SystemResource) : SystemResource :=
  { r with properties := r.properties.map (·.mapKind f) }

/-- What is inferred with other kinds, where `value` puts them into the value. -/
def Inferred.mapKind {α : Type} (value : α → α) (f : ValueKind → ValueKind) (x : Inferred α) :
    Inferred α :=
  ⟨value x.value, x.subTypes.map (·.mapKind f), x.warnings⟩

/-- The set with other kinds, where `resource` puts them into a resource. -/
def ResourceSet.mapKind {R : Type} (resource : R → R) (f : ValueKind → ValueKind)
    (set : ResourceSet R) : ResourceSet R :=
  ⟨set.resources.map resource, set.subTypes.map (·.mapKind f), set.warnings⟩

/-- The catalog with other kinds, for each family its own. -/
def Catalog.mapKinds (f g : ValueKind → ValueKind) (c : Catalog) : Catalog where
  managed := c.managed.map (·.mapKind f)
  managedSubTypes := c.managedSubTypes.map (·.mapKind f)
  system := c.system.map (·.mapKind g)
  systemSubTypes := c.systemSubTypes.map (·.mapKind g)
  warnings := c.warnings

example : (TypeExpr.array (.openMap .unknown)).mapKind (fun _ => .any) = .array (.openMap .any) :=
  rfl

theorem TypeExpr.mapKind_id : ∀ e : TypeExpr, e.mapKind id = e
  | .array item => congrArg array item.mapKind_id
  | .primitive _ | .openMap _ | .openArray _ | .reference _ | .subType _ => rfl

theorem Descriptor.mapKind_arrayOf (f : ValueKind → ValueKind) (d : Descriptor) :
    d.arrayOf.mapKind f = (d.mapKind f).arrayOf := by
  simp only [mapKind, arrayOf, List.map_map]
  rfl

theorem Property.mapKind_id (p : Property) : p.mapKind id = p := by
  simp only [mapKind, Descriptor.mapKind, TypeExpr.mapKind_id, List.map_id']

theorem SubType.mapKind_id (t : SubType) : t.mapKind id = t := by
  simp only [mapKind, Property.mapKind_id, List.map_id']

theorem ManagedResource.mapKind_id (r : ManagedResource) : r.mapKind id = r := by
  simp only [mapKind, Property.mapKind_id, List.map_id']

theorem SystemResource.mapKind_id (r : SystemResource) : r.mapKind id = r := by
  simp only [mapKind, Property.mapKind_id, List.map_id']

/-! ### Inference -/

section

variable {family : Family} {kind : ValueKind} {f : ValueKind → ValueKind} {property owner : String}

/-- A relationship is open only where it points at no managed object. -/
theorem inferRelationship_mapKind (collections : List ResourceCollection) :
    inferRelationship family (f kind) property owner collections =
      (inferRelationship family kind property owner collections).map
        (.mapKind (·.mapKind f) f) := by
  unfold inferRelationship
  cases family with
  | system => rfl
  | managed =>
    simp only
    rw [map_bind]
    congr 1
    funext names
    cases names <;> rfl

mutual

/-- Another kind may be put in before the type of a property is inferred or afterwards. -/
theorem inferType_mapKind {property owner : String} : ∀ s : Schema,
    inferType family (f kind) property owner s =
      (inferType family kind property owner s).map (.mapKind (·.mapKind f) f)
  | ⟨type, title, description, properties, required, items, collections, rbd⟩ => by
    cases htype : effectiveType type property with
    | error e =>
      rw [inferType_noType htype, inferType_noType htype]
      rfl
    | ok v =>
      obtain ⟨tag, nullable⟩ := v
      cases htag : SchemaKind.ofTag? tag with
      | none =>
        rw [inferType_noKind htype htag, inferType_noKind htype htag]
        rfl
      | some k =>
        have hk := hasKind_of_effectiveType
          (s := ⟨type, title, description, properties, required, items, collections, rbd⟩)
          htype htag
        cases k with
        | boolean | number | string =>
          rw [inferType_primitive hk rfl, inferType_primitive hk rfl]
          rfl
        | object =>
          by_cases hp : properties = []
          · rw [inferType_openMap hk hp, inferType_openMap hk hp]
            rfl
          · rw [inferType_object hk hp, inferType_object hk hp, map_bind]
            congr 1
            funext name
            rw [inferProperties_mapKind properties, bind_map, map_bind]
            simp only [Except.map, Inferred.mapKind, List.map_append]
            rfl
        | array =>
          rw [inferType_array hk, inferType_array hk, inferItems_mapKind items, bind_map, map_bind]
          rfl
        | relationship =>
          rw [inferType_relationship hk, inferType_relationship hk, inferRelationship_mapKind,
            bind_map, map_bind]
          rfl

theorem inferItems_mapKind {property owner : String} : ∀ items : Option Schema,
    inferItems family (f kind) property owner items =
      (inferItems family kind property owner items).map (.mapKind (·.mapKind f) f)
  | none => rfl
  | some s => by
    unfold inferItems
    by_cases hs : s.type.isSome
    · have harray : ∀ x : Inferred Descriptor,
          (x.mapKind (Descriptor.mapKind f) f).map Descriptor.arrayOf =
            (x.map Descriptor.arrayOf).mapKind (Descriptor.mapKind f) f := fun x => by
        simp only [Inferred.map, Inferred.mapKind, Descriptor.mapKind_arrayOf]
      rw [if_pos hs, if_pos hs, inferType_mapKind s, map_map, map_map]
      exact congrArg (Except.map · _) (funext harray)
    · rw [if_neg hs, if_neg hs]
      rfl

theorem inferProperties_mapKind {owner : String} {required : List String} :
    ∀ properties : List (String × Schema),
    inferProperties family (f kind) owner required properties =
      (inferProperties family kind owner required properties).map
        (.mapKind (·.map (·.mapKind f)) f)
  | [] => rfl
  | (name, s) :: rest => by
    unfold inferProperties
    rw [inferType_mapKind s, inferProperties_mapKind rest, bind_map, map_bind]
    congr 1
    funext type
    rw [bind_map, map_bind]
    simp only [Except.map, Inferred.mapKind, Inferred.cons, Inferred.map, List.map_append]
    rfl

end

/-- What is inferred of each resource alike is inferred alike of all. -/
theorem inferEach_mapKind {α β : Type} {infer infer' : α → Except InferenceError (Inferred β)}
    {value : β → β} (h : ∀ a, infer' a = (infer a).map (.mapKind value f)) : ∀ as : List α,
    inferEach infer' as = (inferEach infer as).map (.mapKind (·.map value) f)
  | [] => rfl
  | a :: as => by
    unfold inferEach
    rw [h a, inferEach_mapKind h as, bind_map, map_bind]
    congr 1
    funext x
    rw [bind_map, map_bind]
    simp only [Except.map, Inferred.mapKind, Inferred.cons, List.map_append]
    rfl

theorem inferManagedObject_mapKind (o : ManagedObject) : inferManagedObject (f kind) o =
    (inferManagedObject kind o).map (.mapKind (·.mapKind f) f) := by
  unfold inferManagedObject
  rw [map_bind]
  congr 1
  funext typeName
  rw [inferProperties_mapKind, bind_map, map_bind]
  rfl

theorem inferObjectType_mapKind (connector objectType : String) (s : Schema) :
    inferObjectType (f kind) connector objectType s =
      (inferObjectType kind connector objectType s).map (.mapKind (·.mapKind f) f) := by
  unfold inferObjectType
  rw [map_bind]
  congr 1
  funext typeName
  rw [inferProperties_mapKind, bind_map, map_bind]
  congr 1
  funext properties
  rw [map_bind]
  rfl

end

/-! ### Sorting and collisions -/

theorem sortOn_map_subType (f : ValueKind → ValueKind) : ∀ ts : List SubType,
    sortOn (·.typeName) (ts.map (·.mapKind f)) = (sortOn (·.typeName) ts).map (·.mapKind f) :=
  sortOn_map (SubType.mapKind f) fun _ => rfl

theorem sortOn_map_managed (f : ValueKind → ValueKind) : ∀ rs : List ManagedResource,
    sortOn (·.name) (rs.map (·.mapKind f)) = (sortOn (·.name) rs).map (·.mapKind f) :=
  sortOn_map (ManagedResource.mapKind f) fun _ => rfl

theorem sortOn_map_system (f : ValueKind → ValueKind) : ∀ rs : List SystemResource,
    sortOn (·.fullName) (rs.map (·.mapKind f)) = (sortOn (·.fullName) rs).map (·.mapKind f) :=
  sortOn_map (SystemResource.mapKind f) fun _ => rfl

section

variable {f g : ValueKind → ValueKind}

theorem ResourceSet.ofInferred_mapKind {R : Type} (resource : R → R) (x : Inferred (List R)) :
    ResourceSet.ofInferred (x.mapKind (·.map resource) f) =
      (ResourceSet.ofInferred x).mapKind resource f := by
  simp only [ofInferred, Inferred.mapKind, sortOn_map_subType, mapKind]

theorem managedResources_mapKind (kind : ValueKind) (objects : List ManagedObject) :
    managedResources (f kind) objects =
      (managedResources kind objects).map (.mapKind (·.mapKind f) f) := by
  unfold managedResources
  rw [inferManaged_eq, inferManaged_eq, inferEach_mapKind inferManagedObject_mapKind, bind_map,
    map_bind]
  simp only [ResourceSet.ofInferred_mapKind]
  rfl

theorem systemResources_mapKind (kind : ValueKind) (connectors : List Connector) :
    systemResources (f kind) connectors =
      (systemResources kind connectors).map (.mapKind (·.mapKind f) f) := by
  have hone : ∀ o : String × String × Schema, inferObjectType (f kind) o.1 o.2.1 o.2.2 =
      (inferObjectType kind o.1 o.2.1 o.2.2).map (.mapKind (·.mapKind f) f) :=
    fun o => inferObjectType_mapKind o.1 o.2.1 o.2.2
  unfold systemResources
  rw [inferSystem_eq, inferSystem_eq, inferEach_mapKind hone, bind_map, map_bind]
  congr 1
  funext x
  have hsort : (x.mapKind (·.map (·.mapKind f)) f).map (sortOn (·.fullName)) =
      (x.map (sortOn (·.fullName))).mapKind (·.map (·.mapKind f)) f := by
    simp only [Inferred.map, Inferred.mapKind, sortOn_map_system]
  rw [hsort, ResourceSet.ofInferred_mapKind]
  rfl

namespace Catalog

theorem sorted_mapKind (managed : ResourceSet ManagedResource)
    (system : ResourceSet SystemResource) :
    sorted (managed.mapKind (·.mapKind f) f) (system.mapKind (·.mapKind g) g) =
      (sorted managed system).mapKinds f g := by
  simp only [sorted, ResourceSet.mapKind, mapKinds, sortOn_map_managed, sortOn_map_system,
    sortOn_map_subType]

/-- The names that are compared are the same for all kinds. -/
theorem origins_mapKinds (c : Catalog) : (c.mapKinds f g).origins = c.origins := by
  simp only [origins, mapKinds, List.map_map, Function.comp_def]
  rfl

/-- Kinds do not matter for collisions. -/
theorem assemble_mapKind (managed : ResourceSet ManagedResource)
    (system : ResourceSet SystemResource) :
    assemble (managed.mapKind (·.mapKind f) f) (system.mapKind (·.mapKind g) g) =
      (assemble managed system).map (·.mapKinds f g) := by
  unfold assemble
  simp only
  rw [sorted_mapKind, origins_mapKinds]
  cases firstCollision [] (sorted managed system).origins <;> rfl

/-- Where connectors keep their kind, their resources and sub types stay as they are. -/
theorem mapKinds_id_right (c : Catalog) :
    (c.mapKinds f id).system = c.system ∧ (c.mapKinds f id).systemSubTypes = c.systemSubTypes := by
  simp only [mapKinds, SystemResource.mapKind_id, SubType.mapKind_id, List.map_id', and_self]

/-- Where managed objects keep their kind, their resources and sub types stay as they are. -/
theorem mapKinds_id_left (c : Catalog) :
    (c.mapKinds id f).managed = c.managed ∧
      (c.mapKinds id f).managedSubTypes = c.managedSubTypes := by
  simp only [mapKinds, ManagedResource.mapKind_id, SubType.mapKind_id, List.map_id', and_self]

end Catalog

end

/-! ### The catalog of a configuration -/

theorem build_mapKind (s : Settings) (objects : List ManagedObject) (connectors : List Connector)
    (f g : ValueKind → ValueKind) :
    build { s with managedKind := f s.managedKind, connectorKind := g s.connectorKind } objects
        connectors =
      (build s objects connectors).map (·.mapKinds f g) := by
  unfold build
  simp only
  rw [managedResources_mapKind, systemResources_mapKind, mapError_map, mapError_map, bind_map,
    map_bind]
  congr 1
  funext managed
  rw [bind_map, map_bind]
  congr 1
  funext system
  rw [Catalog.assemble_mapKind, mapError_map]

/-- What the choice of kinds changes in what is made of a configuration. -/
structure OnlyKindsChange (objects : List ManagedObject) (connectors : List Connector) : Prop where
  /-- Managed objects give the same error, or the same set with other kinds. -/
  managed : ∀ f kind, managedResources (f kind) objects =
    (managedResources kind objects).map (.mapKind (·.mapKind f) f)
  /-- Connectors give the same error, or the same set with other kinds. -/
  system : ∀ f kind, systemResources (f kind) connectors =
    (systemResources kind connectors).map (.mapKind (·.mapKind f) f)
  /-- Two families make a catalog exactly if they do with other kinds, and it is the same
  catalog with other kinds; else the collision is the same. -/
  assembly : ∀ f g managed system,
    Catalog.assemble (managed.mapKind (·.mapKind f) f) (system.mapKind (·.mapKind g) g) =
      (Catalog.assemble managed system).map (·.mapKinds f g)
  /-- The configuration gives the same error, or the same catalog with other kinds. -/
  catalog : ∀ s f g,
    build { s with managedKind := f s.managedKind, connectorKind := g s.connectorKind } objects
        connectors =
      (build s objects connectors).map (·.mapKinds f g)
  /-- The kind for managed objects does not show in what belongs to connectors. -/
  system_unchanged : ∀ s kind,
    (build { s with managedKind := kind } objects connectors).map
        (fun c => (c.system, c.systemSubTypes, c.warnings)) =
      (build s objects connectors).map fun c => (c.system, c.systemSubTypes, c.warnings)
  /-- The kind for connectors does not show in what belongs to managed objects. -/
  managed_unchanged : ∀ s kind,
    (build { s with connectorKind := kind } objects connectors).map
        (fun c => (c.managed, c.managedSubTypes, c.warnings)) =
      (build s objects connectors).map fun c => (c.managed, c.managedSubTypes, c.warnings)

/-- **The kind of open values changes the types of what is left open, and nothing else.**
Resources are inferred for one kind exactly if they are for another, else the error is the
same; the results differ in the kinds of open maps and arrays alone. The choice for one
family changes nothing in the other, and none lets declarations collide. -/
theorem onlyKindsChange (objects : List ManagedObject) (connectors : List Connector) :
    OnlyKindsChange objects connectors where
  managed _ kind := managedResources_mapKind kind objects
  system _ kind := systemResources_mapKind kind connectors
  assembly _ _ managed system := Catalog.assemble_mapKind managed system
  catalog s f g := build_mapKind s objects connectors f g
  system_unchanged s kind := by
    have h := build_mapKind s objects connectors (fun _ => kind) id
    have hparts : ∀ c : Catalog, ((c.mapKinds (fun _ => kind) id).system,
        (c.mapKinds (fun _ => kind) id).systemSubTypes, c.warnings) =
        (c.system, c.systemSubTypes, c.warnings) := fun c => by
      rw [c.mapKinds_id_right.1, c.mapKinds_id_right.2]
    exact (congrArg _ h).trans ((map_map _ _ _).trans (congrArg (Except.map · _) (funext hparts)))
  managed_unchanged s kind := by
    have h := build_mapKind s objects connectors id (fun _ => kind)
    have hparts : ∀ c : Catalog, ((c.mapKinds id fun _ => kind).managed,
        (c.mapKinds id fun _ => kind).managedSubTypes, c.warnings) =
        (c.managed, c.managedSubTypes, c.warnings) := fun c => by
      rw [c.mapKinds_id_left.1, c.mapKinds_id_left.2]
    exact (congrArg _ h).trans ((map_map _ _ _).trans (congrArg (Except.map · _) (funext hparts)))

end IdentityTypes
