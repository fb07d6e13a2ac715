/-
# References and the resources that they name

A relationship names its targets by the paths of collections, and all paths below
`managed/` are kept: whether the document has an object of that name is not asked.
What is referred to in a catalog is therefore what the relationships of the document
point at, each name as it is converted (`build_references`), and each reference finds a
managed resource exactly if each relationship points at objects of the document.

Key definitions: `TypeExpr.references`, `SchemaNode.pointsAt`, `Catalog.references`,
`Catalog.IsClosed`, `Catalog.ReferencesResolved`.
Key theorems: `references_invariant`, `build_references`, `mem_references_iff`,
`referencesResolved_of_build`.
-/
import IdentityTypes.Proofs.Catalog.Order
import IdentityTypes.Proofs.Inference.FirstFault
import IdentityTypes.Proofs.TypeScript.Exports

namespace IdentityTypes

/-! ### References in types -/

/-- The names of the managed objects' types that an expression refers to, as it is or as
the item of arrays. -/
def TypeExpr.references : TypeExpr → List String
  | .reference targets => targets.toList
  | .array item => item.references
  | _ => []

/-- The names that a type refers to. -/
def Descriptor.references (d : Descriptor) : List String := d.types.flatMap TypeExpr.references

theorem Descriptor.references_single (e : TypeExpr) (nullable : Bool) :
    (Descriptor.mk e [] nullable).references = e.references :=
  List.flatMap_singleton _ _

/-- An array refers to what its items refer to. -/
theorem Descriptor.references_arrayOf (d : Descriptor) (nullable : Bool) :
    (d.arrayOf.withNullable nullable).references = d.references :=
  List.flatMap_map _ _ d.types

/-- The names that the types of some properties refer to. -/
def referencesFrom (properties : List Property) : List String :=
  properties.flatMap fun p => p.type.references

/-- The names that the properties of a sub type refer to. -/
def SubType.references (t : SubType) : List String := referencesFrom t.properties

/-- The names that the properties of a declaration refer to. -/
def Declared.references (d : Declared) : List String := referencesFrom d.properties

/-- The names that are referred to in a catalog. -/
def Catalog.references (c : Catalog) : List String := c.declared.flatMap Declared.references

/-- All that is referred to is declared as a managed resource. -/
def Catalog.IsClosed (c : Catalog) : Prop :=
  ∀ name ∈ c.references, ∃ r ∈ c.managed, r.typeName = name

instance (c : Catalog) : Decidable c.IsClosed :=
  inferInstanceAs (Decidable (∀ name ∈ c.references, ∃ r ∈ c.managed, r.typeName = name))

/-! ### What relationships point at -/

/-- The managed objects that a node points at if it is a relationship, by the names that
stand in the paths of its collections. -/
def SchemaNode.pointsAt (n : SchemaNode) : List String :=
  if IsOf n.schema.type "relationship" then
    n.schema.collections.filterMap ResourceCollection.managedName
  else []

/-- What a node points at by the names of the types, which are none where none can be
made. -/
def SchemaNode.targets (n : SchemaNode) : List (Option String) :=
  n.pointsAt.map Name.managedTypeName

section

variable {s : Schema} {k : SchemaKind} {nullable : Bool} {owner : Option String}
  {property : String}

/-- Only relationships point at anything. -/
theorem targets_of_hasKind (h : s.HasKind k nullable) (hk : k ≠ .relationship) :
    (SchemaNode.mk owner property s).targets = [] := by
  have hne : ¬ IsOf s.type "relationship" :=
    h.not_isOf (by cases k <;> simp_all [SchemaKind.tags])
  rw [SchemaNode.targets, SchemaNode.pointsAt, if_neg hne, List.map_nil]

/-- The targets of a relationship are the names that inference makes. -/
theorem targets_of_targetNames (h : s.HasKind .relationship nullable) {names : List String}
    (hn : targetNames s.collections = .ok names) :
    (SchemaNode.mk owner property s).targets = names.map some := by
  have hmap : ∀ {objects names : List String},
      (objects.mapM fun o => nameOrError (Name.managedTypeName o)) = .ok names →
      objects.map Name.managedTypeName = names.map some := by
    intro objects
    induction objects with
    | nil =>
      intro names h
      cases h
      rfl
    | cons o objects ih =>
      intro names h
      rw [List.mapM_cons] at h
      obtain ⟨name, ho, h⟩ := bind_eq_ok.mp h
      obtain ⟨others, hos, h⟩ := bind_eq_ok.mp h
      cases h
      rw [List.map_cons, List.map_cons, nameOrError_eq_ok.mp ho, ih hos]
  rw [SchemaNode.targets, SchemaNode.pointsAt, if_pos ((h.isOf_iff rfl).mpr rfl)]
  exact hmap hn

end

/-! ### Inference keeps what is pointed at -/

/-- What is referred to, here and by the sub types, is in some order what the nodes
point at. -/
def Resolves (references : List String) (subTypes : List SubType) (nodes : List SchemaNode) :
    Prop :=
  ((references ++ subTypes.flatMap SubType.references).map some).Perm
    (nodes.flatMap SchemaNode.targets)

namespace Resolves

variable {references references' : List String} {subTypes subTypes' : List SubType}
  {nodes nodes' : List SchemaNode}

theorem append (h : Resolves references subTypes nodes)
    (h' : Resolves references' subTypes' nodes') :
    Resolves (references ++ references') (subTypes ++ subTypes') (nodes ++ nodes') := by
  refine List.perm_iff_count.mpr fun name => ?_
  have hn := List.Perm.count_eq h name
  have hn' := List.Perm.count_eq h' name
  simp only [List.flatMap_append, List.map_append, List.count_append] at *
  omega

theorem perm (h : Resolves references subTypes nodes) (hr : references.Perm references')
    (hs : subTypes.Perm subTypes') (hn : nodes.Perm nodes') :
    Resolves references' subTypes' nodes' :=
  (((hr.append (hs.flatMap_right _)).map some).symm.trans h).trans (hn.flatMap_right _)

/-- What the properties of a sub type refer to is referred to by its declaration. -/
theorem object {property name owner : String} {properties : List Property}
    (h : Resolves (referencesFrom properties) subTypes nodes) :
    Resolves [] (subTypes ++ [⟨property, name, owner, properties⟩]) nodes := by
  rw [Resolves, List.nil_append, List.flatMap_append, List.flatMap_singleton]
  exact (List.perm_append_comm.map some).trans h

end Resolves

/-- The references in what is inferred of managed objects are the targets of the nodes in
the schema. -/
theorem references_invariant (kind : ValueKind) :
    InferenceInvariant .managed kind
      (fun s property owner x =>
        Resolves x.value.references x.subTypes (nodesAt (some owner) property s))
      (fun _ ps owner x => Resolves (referencesFrom x.value) x.subTypes (nodesOf (some owner) ps))
    where
  primitive h hp := by
    obtain ⟨ho, ha, hr⟩ := SchemaKind.ne_of_primitive hp
    rw [Resolves, nodesAt_leaf h ho ha, List.flatMap_singleton, targets_of_hasKind h hr]
    exact .nil
  openMap h hp := by
    rw [Resolves, nodesAt_object h, hp, nodesOf, List.flatMap_singleton,
      targets_of_hasKind h (by decide)]
    exact .nil
  object h _ hname hinner := by
    rw [Resolves, nodesAt_object h, List.flatMap_cons, targets_of_hasKind h (by decide),
      Option.bind_some, hname]
    exact hinner.object
  openArray h hi := by
    rw [Resolves, nodesAt_array h, nodesOfItem_untyped hi, List.flatMap_singleton,
      targets_of_hasKind h (by decide)]
    exact .nil
  array h hi hitem := by
    rw [Resolves, nodesAt_array h, List.flatMap_cons, targets_of_hasKind h (by decide),
      nodesOfItem_typed hi, Inferred.map, Descriptor.references_arrayOf]
    exact hitem
  reference _ h hn := by
    rw [Resolves, nodesAt_leaf h (by decide) (by decide), List.flatMap_singleton,
      targets_of_targetNames h hn, Inferred.plain, Descriptor.references_single]
    exact .of_eq (congrArg _ (List.append_nil _))
  unresolved _ h hn := by
    rw [Resolves, nodesAt_leaf h (by decide) (by decide), List.flatMap_singleton,
      targets_of_targetNames h hn]
    exact .nil
  nil := .nil
  cons h hs := by
    rw [nodesOf]
    exact h.append hs

/-- What is inferred of connectors refers to no managed object. -/
theorem noReferences_invariant (kind : ValueKind) :
    InferenceInvariant .system kind
      (fun _ _ _ x => x.value.references = [] ∧ ∀ t ∈ x.subTypes, t.references = [])
      (fun _ _ _ x => referencesFrom x.value = [] ∧ ∀ t ∈ x.subTypes, t.references = []) where
  primitive _ _ := ⟨rfl, List.forall_mem_nil _⟩
  openMap _ _ := ⟨rfl, List.forall_mem_nil _⟩
  object _ _ _ h :=
    ⟨rfl, List.forall_mem_append.mpr ⟨h.2, List.forall_mem_singleton.mpr h.1⟩⟩
  openArray _ _ := ⟨rfl, List.forall_mem_nil _⟩
  array _ _ h := ⟨(Descriptor.references_arrayOf _ _).trans h.1, h.2⟩
  reference hf _ _ := nomatch hf
  unresolved hf _ _ := nomatch hf
  nil := ⟨rfl, List.forall_mem_nil _⟩
  cons h hs := ⟨List.append_eq_nil_iff.mpr ⟨h.1, hs.1⟩, List.forall_mem_append.mpr ⟨h.2, hs.2⟩⟩

/-! ### The references of a catalog -/

/-- What is kept for each managed object is kept for all. -/
theorem resolves_gather {kind : ValueKind} {objects : List ManagedObject}
    {xs : List (Inferred ManagedResource)}
    (h : List.Forall₂ (fun o x => inferManagedObject kind o = .ok x) objects xs) :
    Resolves ((Inferred.gather xs).value.flatMap fun r => (Declared.managed r).references)
      (Inferred.gather xs).subTypes (managedNodes objects) := by
  induction h with
  | nil => exact .nil
  | cons ho _ ih =>
    obtain ⟨typeName, properties, hn, hp, rfl⟩ := inferManagedObject_eq_ok.mp ho
    rw [managedNodes, List.flatMap_cons, hn]
    exact ((references_invariant kind).properties _ _ _ hp).append ih

theorem managedResources_resolves {kind : ValueKind} {objects : List ManagedObject}
    {set : ResourceSet ManagedResource} (h : managedResources kind objects = .ok set) :
    Resolves (set.resources.flatMap fun r => (Declared.managed r).references) set.subTypes
      (managedNodes objects) := by
  obtain ⟨xs, hxs, rfl⟩ := managedResources_eq_ok.mp h
  exact (resolves_gather hxs).perm (.refl _) (sortOn_perm _ _).symm
    ((sortOn_perm _ _).flatMap_right _)

theorem systemResources_noReferences {kind : ValueKind} {connectors : List Connector}
    {set : ResourceSet SystemResource} (h : systemResources kind connectors = .ok set) :
    (∀ r ∈ set.resources, (Declared.system r).references = []) ∧
      ∀ t ∈ set.subTypes, t.references = [] :=
  forall_of_systemResources h fun _ hp => (noReferences_invariant kind).properties _ _ _ hp

section

variable {s : Settings} {objects : List ManagedObject} {connectors : List Connector} {c : Catalog}

/-- The declarations for connectors refer to no managed object. -/
theorem build_noReferences (h : build s objects connectors = .ok c) :
    ∀ d ∈ c.declaredOf .system, d.references = [] := by
  obtain ⟨managed, system, -, hs, hc⟩ := build_eq_ok.mp h
  obtain ⟨rfl, -⟩ := Catalog.assemble_eq_ok.mp hc
  obtain ⟨hr, ht⟩ := systemResources_noReferences hs
  simp only [Catalog.declaredOf, Catalog.resourcesOf, Catalog.subTypesOf, Catalog.sorted,
    List.forall_mem_append, List.forall_mem_map, mem_sortOn]
  exact ⟨hr, ht⟩

/-- What is referred to in a catalog is in some order what relationships of managed objects
point at. -/
theorem build_references (h : build s objects connectors = .ok c) :
    (c.references.map some).Perm ((managedNodes objects).flatMap SchemaNode.targets) := by
  have hsystem : (c.declaredOf .system).flatMap Declared.references = [] :=
    List.flatMap_eq_nil_iff.mpr (build_noReferences h)
  obtain ⟨managed, system, hm, -, hc⟩ := build_eq_ok.mp h
  obtain ⟨rfl, -⟩ := Catalog.assemble_eq_ok.mp hc
  have hmanaged := (managedResources_resolves hm).perm
    ((sortOn_perm (·.name) _).symm.flatMap_right _) (sortOn_perm (·.typeName) _).symm (.refl _)
  rw [Catalog.references, Catalog.declared, List.flatMap_append, hsystem, List.append_nil,
    Catalog.declaredOf, List.flatMap_append, Catalog.resourcesOf, List.flatMap_map,
    List.flatMap_map]
  exact hmanaged

/-- A catalog has a managed resource for each managed object, and no other. -/
theorem build_typeNames (h : build s objects connectors = .ok c) :
    (c.managed.map fun r => some r.typeName).Perm
      (objects.map fun o => Name.managedTypeName o.name) := by
  obtain ⟨managed, system, hm, -, hc⟩ := build_eq_ok.mp h
  obtain ⟨rfl, -⟩ := Catalog.assemble_eq_ok.mp hc
  refine ((sortOn_perm (·.name) managed.resources).map _).trans ?_
  rw [managedResources_typeNames hm]
  exact (sortOn_perm _ _).map _

/-- What a relationship points at has a name, and is referred to by it. -/
theorem exists_reference (h : build s objects connectors = .ok c) {n : SchemaNode}
    (hn : ReachedManaged objects n) {o : String} (ho : o ∈ n.pointsAt) :
    ∃ name ∈ c.references, Name.managedTypeName o = some name := by
  have hmem : Name.managedTypeName o ∈ c.references.map some := by
    rw [(build_references h).mem_iff]
    exact List.mem_flatMap.mpr ⟨n, mem_managedNodes_iff.mpr hn, List.mem_map_of_mem ho⟩
  obtain ⟨name, hname, ho⟩ := List.mem_map.mp hmem
  exact ⟨name, hname, ho.symm⟩

theorem mem_references_iff (h : build s objects connectors = .ok c) {name : String} :
    name ∈ c.references ↔ ∃ n, ReachedManaged objects n ∧ ∃ o ∈ n.pointsAt,
      Name.managedTypeName o = some name := by
  have hmem := (build_references h).mem_iff (a := some name)
  simpa [mem_managedNodes_iff, SchemaNode.targets] using hmem

theorem exists_managed_iff (h : build s objects connectors = .ok c) {name : String} :
    (∃ r ∈ c.managed, r.typeName = name) ↔
      ∃ o ∈ objects, Name.managedTypeName o.name = some name := by
  have hmem := (build_typeNames h).mem_iff (a := some name)
  simpa only [List.mem_map, Option.some.injEq] using hmem

/-- What the references in the catalog of a document are, and when they find what they
refer to. -/
structure Catalog.ReferencesResolved (objects : List ManagedObject) (c : Catalog) : Prop where
  /-- Whatever a relationship that is reached points at is referred to, and nothing else. -/
  mem_iff : ∀ name, name ∈ c.references ↔
    ∃ n, ReachedManaged objects n ∧ ∃ o ∈ n.pointsAt, Name.managedTypeName o = some name
  /-- No declaration for connectors refers to a managed object. -/
  not_system : ∀ d ∈ c.declaredOf .system, d.references = []
  /-- All references name managed resources exactly if all relationships point at objects
  of the document, up to the case of their names. -/
  closed_iff : c.IsClosed ↔ ∀ n, ReachedManaged objects n → ∀ o ∈ n.pointsAt,
    ∃ o' ∈ objects, Name.managedTypeName o'.name = Name.managedTypeName o
  /-- Then the module exports all that is referred to. -/
  exported : c.IsClosed → ∀ name ∈ c.references, name ∈ TypeScript.exports c

/-- **A catalog refers to what relationships point at**, whether or not it is declared; all
that is referred to is a managed resource exactly if relationships point at nothing but
objects of the document. -/
theorem referencesResolved_of_build (h : build s objects connectors = .ok c) :
    c.ReferencesResolved objects where
  mem_iff name := mem_references_iff h
  not_system := build_noReferences h
  closed_iff := by
    constructor
    · intro hclosed n hn o ho
      obtain ⟨name, hname, hmade⟩ := exists_reference h hn ho
      rw [hmade]
      exact (exists_managed_iff h).mp (hclosed name hname)
    · intro hobjects name hname
      obtain ⟨n, hn, o, ho, hmade⟩ := (mem_references_iff h).mp hname
      obtain ⟨o', ho', hsame⟩ := hobjects n hn o ho
      exact (exists_managed_iff h).mpr ⟨o', ho', hsame.trans hmade⟩
  exported hclosed name hname := by
    obtain ⟨r, hr, rfl⟩ := hclosed name hname
    rw [(TypeScript.exports_perm c).mem_iff]
    refine List.mem_append_left _ ?_
    exact List.mem_map_of_mem (f := Declared.typeName) (Catalog.managed_mem_declared.mpr hr)

/-- Managed objects that refer to one another, in a sub type and in arrays too; one is
given by a name in another case. -/
def relatedObjects : List ManagedObject :=
  [⟨"user", { properties := [
      ("manager", {
        type := some (.union ["relationship", "null"])
        collections := [⟨"managed/user"⟩, ⟨"system/ldap/account"⟩] }),
      ("access", { type := some (.single "object"), properties := [
        ("roles", { type := some (.single "array"), items := some {
          type := some (.single "array"), items := some {
            type := some (.single "relationship")
            collections := [⟨"managed/internal_role"⟩, ⟨"managed/user"⟩] } } })] })] }⟩,
    ⟨"internalRole", {}⟩]

theorem referencesResolved_related : ∃ c, build {} relatedObjects [] = .ok c ∧
    c.references = ["ManagedUser", "ManagedInternalRole", "ManagedUser"] ∧
      c.ReferencesResolved relatedObjects ∧
      ∀ name ∈ c.references, name ∈ TypeScript.exports c := by
  have h : (build {} relatedObjects []).toOption.map (fun c => (c.references, decide c.IsClosed)) =
      some (["ManagedUser", "ManagedInternalRole", "ManagedUser"], true) := by
    decide +kernel
  obtain ⟨c, hc, h⟩ := toOption_map_eq_some.mp h
  obtain ⟨hreferences, hclosed⟩ := Prod.mk.inj h
  have hresolved := referencesResolved_of_build hc
  exact ⟨c, hc, hreferences, hresolved, hresolved.exported (of_decide_eq_true hclosed)⟩

/-- A user whose role is no object of the document. -/
def danglingObjects : List ManagedObject :=
  [⟨"user", { properties := [
    ("role", { type := some (.single "relationship"), collections := [⟨"managed/role"⟩] })] }⟩]

/-- A reference need not find a managed resource. -/
theorem references_dangling : ¬ ∀ (s : Settings) (objects : List ManagedObject)
    (connectors : List Connector) (c : Catalog), build s objects connectors = .ok c →
      c.IsClosed := by
  have h : (build {} danglingObjects []).toOption.map (fun c => decide c.IsClosed) =
      some false := by
    decide +kernel
  obtain ⟨c, hc, hopen⟩ := toOption_map_eq_some.mp h
  exact fun hclosed => of_decide_eq_false hopen (hclosed {} danglingObjects [] c hc)

end

end IdentityTypes
