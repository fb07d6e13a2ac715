/-
# The names in a catalog

A catalog is made exactly if no two declarations have the same name, and it then
holds the declarations it is made of, only in another order. Each of them has the
name that is made for it from names in the configuration.

Key definitions: `Declared`, `Declared.IsNamed`, `Catalog.declared`.
Key theorems: `firstCollision_eq_none`, `exists_of_firstCollision`, `Catalog.assemble_eq_ok`,
`build_eq_ok`, `Catalog.nodup_of_build`, `Catalog.isNamed_of_build`.
-/
import IdentityTypes.Generator
import IdentityTypes.Proofs.Inference.Gather
import IdentityTypes.Proofs.Sorting

namespace IdentityTypes

/-! ### The declarations of a catalog -/

/-- A declaration: a resource, or the type of an object that a property holds. -/
inductive Declared where
  | managed (r : ManagedResource)
  | system (r : SystemResource)
  | subType (family : Family) (s : SubType)
  deriving DecidableEq, Repr

namespace Declared

/-- The family that the declaration belongs to. -/
def family : Declared → Family
  | managed _ => .managed
  | system _ => .system
  | subType family _ => family

def typeName : Declared → String
  | managed r => r.typeName
  | system r => r.typeName
  | subType _ s => s.typeName

def properties : Declared → List Property
  | managed r => r.properties
  | system r => r.properties
  | subType _ s => s.properties

end Declared

namespace Catalog

/-- The sub types of a family. -/
def subTypesOf (c : Catalog) : Family → List SubType
  | .managed => c.managedSubTypes
  | .system => c.systemSubTypes

/-- The resources of a family. -/
def resourcesOf (c : Catalog) : Family → List Declared
  | .managed => c.managed.map .managed
  | .system => c.system.map .system

/-- The declarations of a family. -/
def declaredOf (c : Catalog) (family : Family) : List Declared :=
  c.resourcesOf family ++ (c.subTypesOf family).map (.subType family)

/-- All declarations, in the order in which they are written. -/
def declared (c : Catalog) : List Declared := c.declaredOf .managed ++ c.declaredOf .system

theorem family_of_mem_declaredOf {c : Catalog} {family : Family} {d : Declared}
    (h : d ∈ c.declaredOf family) : d.family = family := by
  rcases List.mem_append.mp h with h | h
  · cases family <;> obtain ⟨r, -, rfl⟩ := List.mem_map.mp h <;> rfl
  · obtain ⟨s, -, rfl⟩ := List.mem_map.mp h
    rfl

theorem mem_declared {c : Catalog} {d : Declared} :
    d ∈ c.declared ↔ d ∈ c.declaredOf d.family := by
  constructor
  · intro h
    rcases List.mem_append.mp h with h | h <;> rwa [family_of_mem_declaredOf h]
  · intro h
    cases hd : d.family
    · exact List.mem_append_left _ (hd ▸ h)
    · exact List.mem_append_right _ (hd ▸ h)

theorem managed_mem_declared {c : Catalog} {r : ManagedResource} :
    .managed r ∈ c.declared ↔ r ∈ c.managed := by
  simp [declared, declaredOf, resourcesOf]

theorem system_mem_declared {c : Catalog} {r : SystemResource} :
    .system r ∈ c.declared ↔ r ∈ c.system := by
  simp [declared, declaredOf, resourcesOf]

theorem subType_mem_declared {c : Catalog} {family : Family} {s : SubType} :
    .subType family s ∈ c.declared ↔ s ∈ c.subTypesOf family := by
  rw [mem_declared]
  cases family <;> simp [declaredOf, resourcesOf, Declared.family]

/-- The names that are compared are those of the declarations. -/
theorem map_typeName_declared_perm (c : Catalog) :
    (c.declared.map (·.typeName)).Perm (c.origins.map (·.1)) := by
  simp only [declared, declaredOf, resourcesOf, subTypesOf, origins, List.map_append, List.map_map,
    Function.comp_def, Declared.typeName, List.append_assoc]
  exact (List.perm_append_comm_assoc _ _ _).append_left _

end Catalog

/-! ### Collisions -/

/-- No collision is found exactly if all names differ, from one another and from
those met before. -/
theorem firstCollision_eq_none : ∀ {seen l : List (String × String)},
    firstCollision seen l = none ↔
      (l.map (·.1)).Nodup ∧ ∀ p ∈ l, ∀ q ∈ seen, p.1 ≠ q.1
  | seen, [] => by simp [firstCollision]
  | seen, (name, origin) :: rest => by
    unfold firstCollision
    cases hs : seen.lookup name with
    | some first =>
      have h : (seen.lookup name).isSome := by rw [hs]; rfl
      obtain ⟨q, hq, hn⟩ := List.lookup_isSome_iff.mp h
      refine ⟨(nomatch ·), fun h => ?_⟩
      exact absurd (beq_iff_eq.mp hn) (h.2 _ List.mem_cons_self q hq)
    | none =>
      have hfresh : ∀ q ∈ seen, name ≠ q.1 := by
        intro q hq
        simpa using List.lookup_eq_none_iff.mp hs q hq
      simp only [firstCollision_eq_none, List.map_cons, List.nodup_cons, List.mem_map,
        List.mem_cons, forall_eq_or_imp]
      constructor
      · rintro ⟨hnd, h⟩
        exact ⟨⟨fun ⟨p, hp, he⟩ => (h p hp).1 he, hnd⟩, hfresh, fun p hp => (h p hp).2⟩
      · rintro ⟨⟨hn, hnd⟩, -, h⟩
        exact ⟨hnd, fun p hp => ⟨fun he => hn ⟨p, hp, he⟩, h p hp⟩⟩

/-- A collision is found at the first name that was met before, which goes with the origin
it had then. -/
theorem exists_of_firstCollision {e : Collision} : ∀ {seen l : List (String × String)},
    firstCollision seen l = some e → ∃ before after,
      l = before ++ (e.name, e.second) :: after ∧ firstCollision seen before = none ∧
        (e.name, e.first) ∈ before ++ seen
  | seen, (name, origin) :: rest, h => by
    unfold firstCollision at h
    cases hs : seen.lookup name with
    | some first =>
      rw [hs] at h
      cases h
      obtain ⟨earlier, later, rfl, -⟩ := List.lookup_eq_some_iff.mp hs
      exact ⟨[], rest, rfl, rfl, List.mem_append_right earlier List.mem_cons_self⟩
    | none =>
      rw [hs] at h
      obtain ⟨before, after, rfl, hnone, hfirst⟩ := exists_of_firstCollision h
      refine ⟨(name, origin) :: before, after, rfl, ?_, ?_⟩
      · rw [firstCollision, hs]
        exact hnone
      · exact (List.perm_middle (a := (name, origin))).mem_iff.mp hfirst

namespace Catalog

variable {managed : ResourceSet ManagedResource} {system : ResourceSet SystemResource}

/-- A catalog is made exactly if all names differ. -/
theorem assemble_eq_ok {c : Catalog} : assemble managed system = .ok c ↔
    c = sorted managed system ∧ (c.declared.map (·.typeName)).Nodup := by
  have hnone : firstCollision [] (sorted managed system).origins = none ↔
      ((sorted managed system).declared.map (·.typeName)).Nodup := by
    rw [firstCollision_eq_none, (map_typeName_declared_perm _).nodup_iff]
    simp
  unfold assemble
  simp only
  cases hc : firstCollision [] (sorted managed system).origins with
  | some collision =>
    refine ⟨(nomatch ·), fun h => ?_⟩
    rw [hnone.mpr (h.1 ▸ h.2)] at hc
    cases hc
  | none =>
    constructor
    · intro h
      cases h
      exact ⟨rfl, hnone.mp hc⟩
    · rintro ⟨rfl, -⟩
      rfl

end Catalog

/-! ### Where the names come from -/

namespace Name

theorem managedTypeName_eq_some {object n : String} : managedTypeName object = some n ↔
    ∃ o, typeName object = some o ∧ "Managed" ++ o = n := by
  simp [managedTypeName, Option.bind_eq_some_iff]

theorem systemTypeName_eq_some {connector objectType n : String} :
    systemTypeName connector objectType = some n ↔
      ∃ c t, typeName connector = some c ∧ typeName objectType = some t ∧
        "System" ++ c ++ t = n := by
  simp [systemTypeName, Option.bind_eq_some_iff]

/-- The name of a sub type goes on from that of its parent, with `Sub` before it once. -/
theorem subTypeName_eq_some {parent property n : String} : subTypeName parent property = some n ↔
    ∃ p, typeName property = some p ∧
      (if "Sub".toList <+: parent.toList then parent else "Sub" ++ parent) ++ p = n := by
  simp only [subTypeName, Option.bind_eq_bind, Option.bind_eq_some_iff, Option.pure_def,
    Option.some.injEq, List.isPrefixOf_iff_prefix]
  refine exists_congr fun p => and_congr_right fun _ => ?_
  split_ifs <;> exact Iff.rfl

end Name

/-- The name of a declaration is the one made from where it comes from. -/
def Declared.IsNamed : Declared → Prop
  | managed r => Name.managedTypeName r.name = some r.typeName
  | system r => Name.systemTypeName r.connector r.objectType = some r.typeName
  | subType _ s => Name.subTypeName s.parentTypeName s.declaredName = some s.typeName

theorem isNamed_invariant (family : Family) (kind : ValueKind) :
    InferenceInvariant family kind
      (fun _ _ _ x => ∀ t ∈ x.subTypes, (Declared.subType family t).IsNamed)
      (fun _ _ _ x => ∀ t ∈ x.subTypes, (Declared.subType family t).IsNamed) where
  primitive _ _ := List.forall_mem_nil _
  openMap _ _ := List.forall_mem_nil _
  object _ _ hname h := List.forall_mem_append.mpr ⟨h, List.forall_mem_singleton.mpr hname⟩
  openArray _ _ := List.forall_mem_nil _
  array _ _ h := h
  reference _ _ _ := List.forall_mem_nil _
  unresolved _ _ _ := List.forall_mem_nil _
  nil := List.forall_mem_nil _
  cons h hs := List.forall_mem_append.mpr ⟨h, hs⟩

theorem isNamed_of_managedResources {kind : ValueKind} {objects : List ManagedObject}
    {set : ResourceSet ManagedResource} (h : managedResources kind objects = .ok set) :
    (∀ r ∈ set.resources, (Declared.managed r).IsNamed) ∧
      ∀ t ∈ set.subTypes, (Declared.subType .managed t).IsNamed :=
  forall_of_managedResources h fun hn hp =>
    ⟨hn, (isNamed_invariant .managed kind).properties _ _ _ hp⟩

theorem isNamed_of_systemResources {kind : ValueKind} {connectors : List Connector}
    {set : ResourceSet SystemResource} (h : systemResources kind connectors = .ok set) :
    (∀ r ∈ set.resources, (Declared.system r).IsNamed) ∧
      ∀ t ∈ set.subTypes, (Declared.subType .system t).IsNamed :=
  forall_of_systemResources h fun hn hp =>
    ⟨hn, (isNamed_invariant .system kind).properties _ _ _ hp⟩

/-! ### Building a catalog -/

/-- Where all names differ, those of each kind of declarations do. -/
theorem Catalog.nodup_kinds {c : Catalog} (h : (c.declared.map (·.typeName)).Nodup) :
    (c.managed.map (·.typeName)).Nodup ∧ (c.system.map (·.typeName)).Nodup ∧
      ∀ family, ((c.subTypesOf family).map (·.typeName)).Nodup := by
  simp only [declared, declaredOf, resourcesOf, List.map_append, List.map_map, Function.comp_def,
    Declared.typeName] at h
  obtain ⟨hm, hs, -⟩ := List.nodup_append.mp h
  obtain ⟨hmr, hmt, -⟩ := List.nodup_append.mp hm
  obtain ⟨hsr, hst, -⟩ := List.nodup_append.mp hs
  refine ⟨hmr, hsr, fun family => ?_⟩
  cases family
  · exact hmt
  · exact hst

/-- Building succeeds if the resources of both families are inferred and make a
catalog. -/
theorem build_eq_ok {s : Settings} {objects : List ManagedObject} {connectors : List Connector}
    {c : Catalog} : build s objects connectors = .ok c ↔
      ∃ managed system, managedResources s.managedKind objects = .ok managed ∧
        systemResources s.connectorKind connectors = .ok system ∧
        Catalog.assemble managed system = .ok c := by
  unfold build
  simp only [bind_eq_ok, mapError_eq_ok]
  constructor
  · rintro ⟨managed, hm, system, hs, hc⟩
    exact ⟨managed, system, hm, hs, hc⟩
  · rintro ⟨managed, system, hm, hs, hc⟩
    exact ⟨managed, hm, system, hs, hc⟩

/-- All declarations of a catalog have different names. -/
theorem Catalog.nodup_of_build {s : Settings} {objects : List ManagedObject}
    {connectors : List Connector} {c : Catalog} (h : build s objects connectors = .ok c) :
    (c.declared.map (·.typeName)).Nodup := by
  obtain ⟨managed, system, -, -, hc⟩ := build_eq_ok.mp h
  exact (assemble_eq_ok.mp hc).2

/-- All declarations of a catalog have the names made for them. -/
theorem Catalog.isNamed_of_build {s : Settings} {objects : List ManagedObject}
    {connectors : List Connector} {c : Catalog} (h : build s objects connectors = .ok c)
    {d : Declared} (hd : d ∈ c.declared) : d.IsNamed := by
  obtain ⟨managed, system, hm, hs, hc⟩ := build_eq_ok.mp h
  obtain ⟨rfl, -⟩ := assemble_eq_ok.mp hc
  obtain ⟨hmr, hmt⟩ := isNamed_of_managedResources hm
  obtain ⟨hsr, hst⟩ := isNamed_of_systemResources hs
  cases d with
  | managed r => exact hmr r (mem_sortOn.mp (managed_mem_declared.mp hd))
  | system r => exact hsr r (mem_sortOn.mp (system_mem_declared.mp hd))
  | subType family t =>
    have ht := subType_mem_declared.mp hd
    cases family
    · exact hmt t (mem_sortOn.mp ht)
    · exact hst t (mem_sortOn.mp ht)

end IdentityTypes
