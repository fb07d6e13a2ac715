/-
# Declarations mirror schemas

What is declared has the shape of what it is declared for: a resource that of the schema
of its object, and a sub type that of the object that a property holds. The shape is an
`Outline`, which has the names of all properties in order and says which are required. A
sub type is declared for each node of a walk that describes objects with properties, once
for every time the walk meets one, so that the outlines of the sub types are, in some order,
those of these nodes (`Mirrors`). No names are compared, and so it does not matter whether
names repeat.

A schema requires properties by a list of names. Of this list nothing counts but which of
the schema's own properties it names: the lists may as well be cut down to these (`trim`).

Key definitions: `Outline`, `SchemaNode.isDeclared`, `Mirrors`, `Schema.trim`,
`MirroredBy`.
Key theorems: `mirrors_invariant`, `inferType_trim`, `build_mirror`, `resources_mirror`.
-/
import IdentityTypes.Proofs.Catalog.Names
import IdentityTypes.Proofs.Inference.FirstFault

namespace IdentityTypes

/-! ### Outlines -/

/-- The properties that a schema declares, in order, and whether it requires them. -/
def Schema.entries (s : Schema) : List (String × Bool) :=
  s.properties.map fun p => (p.1, decide (p.1 ∈ s.required))

/-- The properties of a declared type, in order, and whether they are required. -/
def entriesOf (properties : List Property) : List (String × Bool) :=
  properties.map fun p => (p.name, p.required)

/-- The shape of the type of the objects that a property holds. -/
structure Outline where
  owner : Option String
  property : String
  typeName : Option String
  entries : List (String × Bool)
  deriving DecidableEq, Repr

/-- The shape that a node asks for. -/
def SchemaNode.outline (n : SchemaNode) : Outline :=
  ⟨n.owner, n.property, n.typeName, n.schema.entries⟩

/-- The shape that a sub type has. -/
def SubType.outline (t : SubType) : Outline :=
  ⟨some t.parentTypeName, t.declaredName, some t.typeName, entriesOf t.properties⟩

/-- A node that describes objects with properties, so that a type is declared for it. -/
def SchemaNode.isDeclared (n : SchemaNode) : Bool :=
  decide (IsOf n.schema.type "object") && !n.schema.properties.isEmpty

/-- The sub types are those of the nodes of a walk, one for each node that needs one. -/
def Mirrors (walk : List SchemaNode) (subTypes : List SubType) : Prop :=
  (subTypes.map SubType.outline).Perm ((walk.filter (·.isDeclared)).map SchemaNode.outline)

namespace Mirrors

variable {walk walk' : List SchemaNode} {subTypes subTypes' : List SubType}

theorem nil : Mirrors [] [] := List.Perm.nil

theorem append (h : Mirrors walk subTypes) (h' : Mirrors walk' subTypes') :
    Mirrors (walk ++ walk') (subTypes ++ subTypes') := by
  rw [Mirrors, List.map_append, List.filter_append, List.map_append]
  exact List.Perm.append h h'

theorem perm (h : Mirrors walk subTypes) (hw : walk.Perm walk') (hs : subTypes.Perm subTypes') :
    Mirrors walk' subTypes' :=
  ((hs.symm.map _).trans h).trans ((hw.filter _).map _)

/-- For most nodes nothing is declared. -/
theorem skip {n : SchemaNode} (hn : n.isDeclared = false) (h : Mirrors walk subTypes) :
    Mirrors (n :: walk) subTypes := by
  rwa [Mirrors, List.filter_cons_of_neg (by simp [hn])]

/-- The sub type of a node comes after those of the nodes below it. -/
theorem object {n : SchemaNode} {t : SubType} (hn : n.isDeclared = true)
    (ht : t.outline = n.outline) (h : Mirrors walk subTypes) :
    Mirrors (n :: walk) (subTypes ++ [t]) := by
  rw [Mirrors, List.filter_cons_of_pos hn, List.map_append, List.map_singleton, List.map_cons, ht]
  exact (List.perm_append_singleton _ _).trans (List.Perm.cons _ h)

end Mirrors

/-! ### Inference mirrors the nodes -/

section

variable {n : SchemaNode} {k : SchemaKind} {nullable : Bool}

theorem isDeclared_of_hasKind (h : n.schema.HasKind k nullable) (hk : k ≠ .object) :
    n.isDeclared = false := by
  have hobject : ¬ IsOf n.schema.type "object" :=
    h.not_isOf (by cases k <;> simp_all [SchemaKind.tags])
  rw [SchemaNode.isDeclared, decide_eq_false hobject, Bool.false_and]

theorem isDeclared_object (h : n.schema.HasKind .object nullable) :
    n.isDeclared = !n.schema.properties.isEmpty := by
  rw [SchemaNode.isDeclared, decide_eq_true ((h.isOf_iff rfl).mpr rfl), Bool.true_and]

end

/-- Whatever is inferred, the sub types made are those of the nodes walked, and the
properties those that the schema declares. -/
theorem mirrors_invariant (family : Family) (kind : ValueKind) :
    InferenceInvariant family kind
      (fun s property owner x => Mirrors (nodesAt (some owner) property s) x.subTypes)
      (fun required properties owner x => Mirrors (nodesOf (some owner) properties) x.subTypes ∧
        entriesOf x.value = properties.map fun p => (p.1, decide (p.1 ∈ required))) where
  primitive h hp := by
    obtain ⟨ho, ha, -⟩ := SchemaKind.ne_of_primitive hp
    rw [nodesAt_leaf h ho ha]
    exact .skip (isDeclared_of_hasKind h ho) .nil
  openMap h hp := by
    rw [nodesAt_object h, hp, nodesOf]
    exact .skip (by rw [isDeclared_object h, hp]; rfl) .nil
  object h hp hname hinner := by
    rw [nodesAt_object h, Option.bind_some, hname]
    refine .object ?_ ?_ hinner.1
    · rw [isDeclared_object h]
      simpa using hp
    · rw [SubType.outline, SchemaNode.outline, SchemaNode.typeName, Option.bind_some, hname,
        hinner.2, Schema.entries]
  openArray h hi := by
    rw [nodesAt_array h, nodesOfItem_untyped hi]
    exact .skip (isDeclared_of_hasKind h (by decide)) .nil
  array h hi hitem := by
    rw [nodesAt_array h, nodesOfItem_typed hi]
    exact .skip (isDeclared_of_hasKind h (by decide)) hitem
  reference _ h _ := by
    rw [nodesAt_leaf h (by decide) (by decide)]
    exact .skip (isDeclared_of_hasKind h (by decide)) .nil
  unresolved _ h _ := by
    rw [nodesAt_leaf h (by decide) (by decide)]
    exact .skip (isDeclared_of_hasKind h (by decide)) .nil
  nil := ⟨.nil, rfl⟩
  cons {required name s rest owner x others} h hs := by
    rw [nodesOf]
    refine ⟨h.append hs.1, ?_⟩
    rw [List.map_cons, ← hs.2, Inferred.cons, entriesOf, List.map_cons]
    simp [Inferred.map, describe, entriesOf]

/-! ### Names that no property has -/

mutual

/-- The schema in which lists of required properties name properties of the schema that has
the list, each once and in order, and nothing else. -/
def Schema.trim : Schema → Schema
  | ⟨type, title, description, properties, required, items, collections, rbd⟩ =>
    ⟨type, title, description, trimProperties properties,
      (properties.map (·.1)).filter required.contains, trimItems items, collections, rbd⟩

/-- The properties with their schemas trimmed. -/
def trimProperties : List (String × Schema) → List (String × Schema)
  | [] => []
  | (name, s) :: rest => (name, s.trim) :: trimProperties rest

/-- The schema of items trimmed, if there is one. -/
def trimItems : Option Schema → Option Schema
  | none => none
  | some s => some s.trim

end

def ManagedObject.trim (o : ManagedObject) : ManagedObject := ⟨o.name, o.schema.trim⟩

def Connector.trim (c : Connector) : Connector := ⟨c.name, trimProperties c.objectTypes⟩

section

variable {family : Family} {kind : ValueKind}

theorem trim_type (s : Schema) : s.trim.type = s.type := by
  cases s
  rw [Schema.trim]

theorem trimProperties_eq_map (properties : List (String × Schema)) :
    trimProperties properties = properties.map fun p => (p.1, p.2.trim) := by
  induction properties with
  | nil => rfl
  | cons p rest ih => rw [trimProperties, ih, List.map_cons]

theorem isRelationship_trim (s : Schema) : s.trim.isRelationship = s.isRelationship := by
  simp only [Schema.isRelationship, Schema.tag, trim_type]

theorem isRelationshipArray_trim (s : Schema) :
    s.trim.isRelationshipArray = s.isRelationshipArray := by
  have hitems : s.trim.items = trimItems s.items := by
    cases s
    rw [Schema.trim]
  simp only [Schema.isRelationshipArray, Schema.tag, trim_type, hitems]
  cases s.items with
  | none => rfl
  | some item => simp only [trimItems, Option.any_some, isRelationship_trim]

theorem describe_trim (name : String) (required : Bool) (s : Schema) :
    describe family name required s.trim = describe family name required s := by
  have htexts : s.trim.title = s.title ∧ s.trim.description = s.description ∧
      s.trim.returnByDefault = s.returnByDefault := by
    cases s
    rw [Schema.trim]
    exact ⟨rfl, rfl, rfl⟩
  obtain ⟨ht, hd, hr⟩ := htexts
  funext type
  simp only [describe, returnedByDefault, ht, hd, hr, isRelationship_trim,
    isRelationshipArray_trim]

/-- Among the properties of a schema the trimmed list names the same ones. -/
theorem contains_trim {properties : List (String × Schema)} (required : List String) :
    ∀ p ∈ properties,
      ((properties.map (·.1)).filter required.contains).contains p.1 = required.contains p.1 := by
  intro p hp
  have hmem : p.1 ∈ properties.map (·.1) := List.mem_map_of_mem hp
  rw [Bool.eq_iff_iff, List.contains_iff_mem, List.mem_filter, and_iff_right hmem]

mutual

/-- A trimmed schema has the type of the schema, or its error. -/
theorem inferType_trim (property owner : String) : ∀ s : Schema,
    inferType family kind property owner s.trim = inferType family kind property owner s
  | ⟨type, title, description, properties, required, items, collections, rbd⟩ => by
    have hempty : (trimProperties properties).isEmpty = properties.isEmpty := by
      rw [trimProperties_eq_map, List.isEmpty_map]
    have hproperties : ∀ name, inferProperties family kind name
        ((properties.map (·.1)).filter required.contains) (trimProperties properties) =
          inferProperties family kind name required properties := fun name =>
      inferProperties_trim name (contains_trim required)
    rw [Schema.trim, inferType, inferType]
    simp only [hempty, hproperties, inferItems_trim property owner items]

theorem inferItems_trim (property owner : String) : ∀ items : Option Schema,
    inferItems family kind property owner (trimItems items) =
      inferItems family kind property owner items
  | none => rfl
  | some s => by
    rw [trimItems, inferItems, inferItems, trim_type, inferType_trim property owner s]

/-- So have trimmed properties, required by any list that names the same ones of them. -/
theorem inferProperties_trim (owner : String) {required required' : List String} :
    ∀ {properties : List (String × Schema)},
      (∀ p ∈ properties, required'.contains p.1 = required.contains p.1) →
      inferProperties family kind owner required' (trimProperties properties) =
        inferProperties family kind owner required properties
  | [], _ => rfl
  | (name, s) :: rest, h => by
    obtain ⟨hname, hrest⟩ := List.forall_mem_cons.mp h
    rw [trimProperties, inferProperties, inferProperties, inferType_trim name owner s,
      inferProperties_trim owner hrest, hname]
    simp only [describe_trim]

end

theorem inferProperties_trim_schema (owner : String) (s : Schema) :
    inferProperties family kind owner s.trim.required s.trim.properties =
      inferProperties family kind owner s.required s.properties := by
  cases s
  rw [Schema.trim]
  exact inferProperties_trim owner (contains_trim _)

end

/-- What is inferred alike of each element and of what it is mapped to is inferred alike of
all. -/
theorem inferEach_map {α β : Type} {infer : α → Except InferenceError (Inferred β)} {f : α → α}
    (h : ∀ a, infer (f a) = infer a) : ∀ as : List α,
    inferEach infer (as.map f) = inferEach infer as
  | [] => rfl
  | a :: as => by rw [List.map_cons, inferEach, inferEach, h a, inferEach_map h as]

theorem inferManagedObject_trim {kind : ValueKind} (o : ManagedObject) :
    inferManagedObject kind o.trim = inferManagedObject kind o := by
  simp only [inferManagedObject, ManagedObject.trim, inferProperties_trim_schema]

theorem managedResources_trim (kind : ValueKind) (objects : List ManagedObject) :
    managedResources kind (objects.map ManagedObject.trim) = managedResources kind objects := by
  have hsort : sortOn ManagedObject.name (objects.map ManagedObject.trim) =
      (sortOn ManagedObject.name objects).map ManagedObject.trim :=
    sortOn_map ManagedObject.trim (fun _ => rfl) objects
  rw [managedResources, managedResources, inferManaged_eq, inferManaged_eq, hsort,
    inferEach_map inferManagedObject_trim]

theorem objectTypesOf_trim (connectors : List Connector) :
    objectTypesOf (connectors.map Connector.trim) =
      (objectTypesOf connectors).map fun t => (t.1, t.2.1, t.2.2.trim) := by
  simp only [objectTypesOf, List.flatMap_map, List.map_flatMap, List.map_map, Connector.trim,
    trimProperties_eq_map, Function.comp_def]

theorem systemResources_trim (kind : ValueKind) (connectors : List Connector) :
    systemResources kind (connectors.map Connector.trim) = systemResources kind connectors := by
  rw [systemResources, systemResources, inferSystem_eq, inferSystem_eq, objectTypesOf_trim,
    inferEach_map fun t => ?_]
  simp only [inferObjectType, inferProperties_trim_schema]

/-! ### The resources of a configuration -/

/-- The name of a managed object, that of its type and its properties. -/
def ManagedObject.shape (o : ManagedObject) : String × Option String × List (String × Bool) :=
  (o.name, Name.managedTypeName o.name, o.schema.entries)

/-- The same of a resource. -/
def ManagedResource.shape (r : ManagedResource) :
    String × Option String × List (String × Bool) :=
  (r.name, some r.typeName, entriesOf r.properties)

/-- The names of an object type and its connector, that of its type and its properties. -/
def objectTypeShape (t : String × String × Schema) :
    String × String × Option String × List (String × Bool) :=
  (t.1, t.2.1, Name.systemTypeName t.1 t.2.1, t.2.2.entries)

/-- The same of a resource. -/
def SystemResource.shape (r : SystemResource) :
    String × String × Option String × List (String × Bool) :=
  (r.connector, r.objectType, some r.typeName, entriesOf r.properties)

/-- What is inferred of each resource of a family mirrors it, and so does all together. -/
theorem mirrors_gather {α β γ : Type} {infer : α → Except InferenceError (Inferred β)}
    (nodes : α → List SchemaNode) (given : α → γ) (made : β → γ)
    (hone : ∀ a x, infer a = .ok x → made x.value = given a ∧ Mirrors (nodes a) x.subTypes)
    {as : List α} {xs : List (Inferred β)} (h : List.Forall₂ (fun a x => infer a = .ok x) as xs) :
    (Inferred.gather xs).value.map made = as.map given ∧
      Mirrors (as.flatMap nodes) (Inferred.gather xs).subTypes := by
  induction h with
  | nil => exact ⟨rfl, .nil⟩
  | @cons a x as xs ha _ ih =>
    obtain ⟨hvalue, hsub⟩ := hone a x ha
    rw [Inferred.gather, Inferred.cons, List.map_cons, List.map_cons, List.flatMap_cons, hvalue,
      ih.1]
    exact ⟨rfl, hsub.append ih.2⟩

theorem inferManagedObject_mirror {kind : ValueKind} (o : ManagedObject)
    (x : Inferred ManagedResource) (h : inferManagedObject kind o = .ok x) :
    x.value.shape = o.shape ∧
      Mirrors (nodesOf (Name.managedTypeName o.name) o.schema.properties) x.subTypes := by
  obtain ⟨typeName, properties, hn, hp, rfl⟩ := inferManagedObject_eq_ok.mp h
  obtain ⟨hsub, hentries⟩ := (mirrors_invariant .managed kind).properties _ _ _ hp
  rw [ManagedObject.shape, hn]
  exact ⟨by rw [Inferred.map, ManagedResource.shape, hentries, Schema.entries], hsub⟩

theorem inferObjectType_mirror {kind : ValueKind} (t : String × String × Schema)
    (x : Inferred SystemResource) (h : inferObjectType kind t.1 t.2.1 t.2.2 = .ok x) :
    x.value.shape = objectTypeShape t ∧
      Mirrors (nodesOf (Name.systemTypeName t.1 t.2.1) t.2.2.properties) x.subTypes := by
  obtain ⟨typeName, valueName, properties, hn, -, hp, rfl⟩ := inferObjectType_eq_ok.mp h
  obtain ⟨hsub, hentries⟩ := (mirrors_invariant .system kind).properties _ _ _ hp
  rw [objectTypeShape, hn]
  exact ⟨by rw [Inferred.map, SystemResource.shape, hentries, Schema.entries], hsub⟩

theorem managedResources_mirror {kind : ValueKind} {objects : List ManagedObject}
    {set : ResourceSet ManagedResource} (h : managedResources kind objects = .ok set) :
    (set.resources.map ManagedResource.shape).Perm (objects.map ManagedObject.shape) ∧
      Mirrors (managedNodes objects) set.subTypes := by
  obtain ⟨xs, hxs, rfl⟩ := managedResources_eq_ok.mp h
  obtain ⟨hresources, hsub⟩ := mirrors_gather _ _ _ inferManagedObject_mirror hxs
  refine ⟨hresources ▸ (sortOn_perm _ objects).map _, hsub.perm ?_ (sortOn_perm _ _).symm⟩
  exact (sortOn_perm _ objects).flatMap_right _

theorem systemResources_mirror {kind : ValueKind} {connectors : List Connector}
    {set : ResourceSet SystemResource} (h : systemResources kind connectors = .ok set) :
    (set.resources.map SystemResource.shape).Perm
        ((objectTypesOf connectors).map objectTypeShape) ∧
      Mirrors (systemNodes connectors) set.subTypes := by
  obtain ⟨xs, hxs, rfl⟩ := systemResources_eq_ok.mp h
  obtain ⟨hresources, hsub⟩ := mirrors_gather _ _ _ inferObjectType_mirror hxs
  rw [systemNodes_eq]
  exact ⟨hresources ▸ (sortOn_perm _ _).map _, hsub.perm (.refl _) (sortOn_perm _ _).symm⟩

/-- What is said of all images of one list can be said of those of the other, if they are the
same in some order. -/
theorem forall_of_perm_map {α β γ : Type} {f : α → γ} {g : β → γ} {as : List α} {bs : List β}
    (h : (as.map f).Perm (bs.map g)) {P : γ → Prop} : (∀ a ∈ as, P (f a)) ↔ ∀ b ∈ bs, P (g b) := by
  have hmem : (∀ x ∈ as.map f, P x) ↔ ∀ x ∈ bs.map g, P x :=
    forall_congr' fun _ => imp_congr_left h.mem_iff
  rwa [List.forall_mem_map, List.forall_mem_map] at hmem

theorem forall_objectTypesOf_iff {connectors : List Connector}
    {P : String × String × Schema → Prop} : (∀ e ∈ objectTypesOf connectors, P e) ↔
      ∀ k ∈ connectors, ∀ t ∈ k.objectTypes, P (k.name, t.1, t.2) := by
  simp only [objectTypesOf, List.forall_mem_flatMap, List.forall_mem_map]

/-- A catalog has a resource for each object of the configuration that it is built from, and a
sub type for each node that needs one. -/
theorem build_mirror {s : Settings} {objects : List ManagedObject} {connectors : List Connector}
    {c : Catalog} (h : build s objects connectors = .ok c) :
    ((c.managed.map ManagedResource.shape).Perm (objects.map ManagedObject.shape) ∧
        Mirrors (managedNodes objects) c.managedSubTypes) ∧
      (c.system.map SystemResource.shape).Perm ((objectTypesOf connectors).map objectTypeShape) ∧
        Mirrors (systemNodes connectors) c.systemSubTypes := by
  obtain ⟨managed, system, hm, hs, hc⟩ := build_eq_ok.mp h
  obtain ⟨rfl, -⟩ := Catalog.assemble_eq_ok.mp hc
  obtain ⟨hmanaged, hmanagedSub⟩ := managedResources_mirror hm
  obtain ⟨hsystem, hsystemSub⟩ := systemResources_mirror hs
  exact ⟨⟨((sortOn_perm _ _).map _).trans hmanaged,
      hmanagedSub.perm (.refl _) (sortOn_perm _ _).symm⟩,
    ((sortOn_perm _ _).map _).trans hsystem, hsystemSub.perm (.refl _) (sortOn_perm _ _).symm⟩

/-- The sub types are those of the nodes that are reached. A walk meets these nodes, and for
each time that it meets one that needs a sub type there is one. -/
structure MirroredBy (IsReached : SchemaNode → Prop) (walk : List SchemaNode)
    (subTypes : List SubType) : Prop where
  mem_walk_iff : ∀ n, n ∈ walk ↔ IsReached n
  mirrors : Mirrors walk subTypes

/-- **Declarations mirror the schemas that they are made for.** Of each family there is one
resource for each object, with the name and the properties of the object, and one sub type
for each node reached that describes objects with properties, with the properties of that
node. A property is required exactly if the schema that declares it says so, and what else
lists of required properties name does not matter, not even for errors. -/
theorem resources_mirror (kind : ValueKind) (objects : List ManagedObject)
    (connectors : List Connector) :
    (∀ set, managedResources kind objects = .ok set →
        (set.resources.map ManagedResource.shape).Perm (objects.map ManagedObject.shape) ∧
          MirroredBy (ReachedManaged objects) (managedNodes objects) set.subTypes) ∧
      (∀ set, systemResources kind connectors = .ok set →
        (set.resources.map SystemResource.shape).Perm
            ((objectTypesOf connectors).map objectTypeShape) ∧
          MirroredBy (ReachedSystem connectors) (systemNodes connectors) set.subTypes) ∧
      managedResources kind (objects.map ManagedObject.trim) = managedResources kind objects ∧
      systemResources kind (connectors.map Connector.trim) = systemResources kind connectors := by
  refine ⟨fun set hset => ?_, fun set hset => ?_, managedResources_trim kind objects,
    systemResources_trim kind connectors⟩
  · obtain ⟨hresources, hsub⟩ := managedResources_mirror hset
    exact ⟨hresources, fun _ => mem_managedNodes_iff, hsub⟩
  · obtain ⟨hresources, hsub⟩ := systemResources_mirror hset
    exact ⟨hresources, fun _ => mem_systemNodes_iff, hsub⟩

/-- Two objects of one name. Inside of them lists of required properties name properties of
the objects around and of those inside, and a schema of an array has a list as well. -/
def nestedLists : List ManagedObject :=
  [⟨"user", { required := ["city", "phones", "nobody"], properties := [
      ("phones", { type := some (.single "array"), required := ["number"], items := some {
        type := some (.single "array"), items := some {
          type := some (.union ["object", "null"]), required := ["phones", "kind", "kind"],
          properties := [("number", { type := some (.single "string") }),
            ("kind", { type := some (.single "object"), required := ["number"], properties := [
              ("code", { type := some (.single "string") })] })] } } }),
      ("city", { type := some (.single "object") })] }⟩,
    ⟨"user", { properties := [
      ("phones", { type := some (.single "object"), properties := [
        ("number", { type := some (.single "number") })] })] }⟩]

/-- A connector with an object in an object. -/
def nestedConnectors : List Connector :=
  [⟨"ldap", [("account", { required := ["unit", "head"], properties := [
    ("unit", { type := some (.single "object"), required := ["head"], properties := [
      ("unit", { type := some (.single "string") }),
      ("head", { type := some (.single "string") })] })] })]⟩]

theorem resources_mirror_nested : ∃ managed system,
    managedResources .unknown nestedLists = .ok managed ∧
      systemResources .unknown nestedConnectors = .ok system ∧
      managed.subTypes.map (fun t => (t.typeName, entriesOf t.properties)) =
        [("SubManagedUserPhones", [("number", false), ("kind", true)]),
          ("SubManagedUserPhones", [("number", false)]),
          ("SubManagedUserPhonesKind", [("code", false)])] ∧
      (managed.resources.map ManagedResource.shape).Perm
        [("user", some "ManagedUser", [("phones", true), ("city", true)]),
          ("user", some "ManagedUser", [("phones", false)])] ∧
      MirroredBy (ReachedManaged nestedLists) (managedNodes nestedLists) managed.subTypes ∧
      (system.resources.map SystemResource.shape).Perm
        [("ldap", "account", some "SystemLdapAccount", [("unit", true)])] ∧
      Mirrors (systemNodes nestedConnectors) system.subTypes ∧
      managedResources .unknown (nestedLists.map ManagedObject.trim) = .ok managed := by
  have hm : (managedResources .unknown nestedLists).toOption.map (fun set =>
      set.subTypes.map (fun t => (t.typeName, entriesOf t.properties))) =
      some [("SubManagedUserPhones", [("number", false), ("kind", true)]),
        ("SubManagedUserPhones", [("number", false)]),
        ("SubManagedUserPhonesKind", [("code", false)])] := by
    decide +kernel
  have hs : (systemResources .unknown nestedConnectors).isOk = true := by decide +kernel
  have hshapes : nestedLists.map ManagedObject.shape =
      [("user", some "ManagedUser", [("phones", true), ("city", true)]),
        ("user", some "ManagedUser", [("phones", false)])] := by
    decide +kernel
  have hshape : (objectTypesOf nestedConnectors).map objectTypeShape =
      [("ldap", "account", some "SystemLdapAccount", [("unit", true)])] := by
    decide +kernel
  obtain ⟨managed, hmanaged, hsubTypes⟩ := toOption_map_eq_some.mp hm
  cases hsystem : systemResources .unknown nestedConnectors with
  | error e => rw [hsystem] at hs; cases hs
  | ok system =>
    obtain ⟨hforManaged, hforSystem, htrim, -⟩ :=
      resources_mirror .unknown nestedLists nestedConnectors
    obtain ⟨hresources, hmirrored⟩ := hforManaged managed hmanaged
    obtain ⟨hresources', hmirrored'⟩ := hforSystem system hsystem
    rw [hshapes] at hresources
    rw [hshape] at hresources'
    exact ⟨managed, system, hmanaged, rfl, hsubTypes, hresources, hmirrored, hresources',
      hmirrored'.mirrors, htrim.trans hmanaged⟩

end IdentityTypes
