/-
# The rules of the two families

Both families are inferred alike, and yet each keeps rules of its own, for the properties
of resources and of sub types at any depth: only managed objects have references and know
what reads return by default, and connectors give no warnings. What a schema leaves open
has the kind that was asked for, in both families.

Key definitions: `TypeExpr.core`, `TypeExpr.Follows`, `Property.Follows`,
`ResourceSet.propertiesBy`.
Key theorems: `targetNames_marked`, `follows_invariant`, `resources_follow`.
-/
import IdentityTypes.Proofs.Catalog.Families
import IdentityTypes.Proofs.References

namespace IdentityTypes

/-! ### The rules -/

/-- What is left of a type without the arrays around it. -/
def TypeExpr.core : TypeExpr → TypeExpr
  | .array item => item.core
  | e => e

/-- The rules for an expression in the type of a property. -/
structure TypeExpr.Follows (family : Family) (kind : ValueKind) (e : TypeExpr) : Prop where
  /-- References stand in managed objects only, have a target and name managed objects. -/
  reference : ∀ targets, e.core = .reference targets →
    family = .managed ∧ targets.toList ≠ [] ∧ ∀ t ∈ targets.toList, Marked "Managed" t
  openMap : ∀ k, e.core = .openMap k → k = kind
  openArray : ∀ k, e.core = .openArray k → k = kind

/-- The rules for a property. -/
structure Property.Follows (family : Family) (kind : ValueKind) (p : Property) : Prop where
  type : ∀ e ∈ p.type.types, e.Follows family kind
  /-- What reads return by default is known of managed objects, and of nothing else. -/
  returnByDefault : p.returnByDefault.isSome ↔ family = .managed

/-- The properties of all resources and sub types of a set. -/
def ResourceSet.propertiesBy {R : Type} (properties : R → List Property) (set : ResourceSet R) :
    List Property :=
  set.resources.flatMap properties ++ set.subTypes.flatMap (·.properties)

/-! ### The rules are kept -/

section

variable {family : Family} {kind : ValueKind}

/-- All targets of a relationship are named as managed objects are. -/
theorem targetNames_marked {s : Schema} {nullable : Bool} (h : s.HasKind .relationship nullable)
    {names : List String} (hn : targetNames s.collections = .ok names) :
    ∀ name ∈ names, Marked "Managed" name := by
  intro name hname
  have htargets : (SchemaNode.mk none "" s).targets = names.map some :=
    targets_of_targetNames h hn
  have hmem : some name ∈ (SchemaNode.mk none "" s).targets := by
    rw [htargets]
    exact List.mem_map_of_mem hname
  obtain ⟨object, -, hmade⟩ := List.mem_map.mp hmem
  obtain ⟨o, -, rfl⟩ := Name.managedTypeName_eq_some.mp hmade
  exact marked_append "Managed" o

theorem TypeExpr.follows_primitive (p : Primitive) : (TypeExpr.primitive p).Follows family kind :=
  ⟨nofun, nofun, nofun⟩

theorem TypeExpr.follows_subType (name : String) : (TypeExpr.subType name).Follows family kind :=
  ⟨nofun, nofun, nofun⟩

theorem TypeExpr.follows_openMap : (TypeExpr.openMap kind).Follows family kind where
  reference := nofun
  openMap _ h := (TypeExpr.openMap.inj h).symm
  openArray := nofun

theorem TypeExpr.follows_openArray : (TypeExpr.openArray kind).Follows family kind where
  reference := nofun
  openMap := nofun
  openArray _ h := (TypeExpr.openArray.inj h).symm

theorem TypeExpr.follows_reference {targets : Targets}
    (h : ∀ t ∈ targets.toList, Marked "Managed" t) :
    (TypeExpr.reference targets).Follows .managed kind where
  reference targets' h' := by
    cases h'
    exact ⟨rfl, List.cons_ne_nil _ _, h⟩
  openMap := nofun
  openArray := nofun

/-- The type of one expression has no other to look at. -/
theorem TypeExpr.Follows.single {e : TypeExpr} (h : e.Follows family kind) (nullable : Bool) :
    ∀ e' ∈ (Descriptor.mk e [] nullable).types, e'.Follows family kind :=
  List.forall_mem_singleton.mpr h

/-- Arrays of what follows the rules follow them. -/
theorem TypeExpr.Follows.array {e : TypeExpr} (h : e.Follows family kind) :
    (TypeExpr.array e).Follows family kind :=
  ⟨h.reference, h.openMap, h.openArray⟩

theorem Property.follows_describe {name : String} {required : Bool} {s : Schema} {d : Descriptor}
    (h : ∀ e ∈ d.types, e.Follows family kind) :
    (describe family name required s d).Follows family kind where
  type := h
  returnByDefault := by
    cases family
    · exact iff_of_true rfl rfl
    · exact iff_of_false nofun nofun

/-- All that is inferred follows the rules, and so do the sub types made on the way. -/
theorem follows_invariant (family : Family) (kind : ValueKind) :
    InferenceInvariant family kind
      (fun _ _ _ x => (∀ e ∈ x.value.types, e.Follows family kind) ∧
        ∀ t ∈ x.subTypes, ∀ p ∈ t.properties, p.Follows family kind)
      (fun _ _ _ x => (∀ p ∈ x.value, p.Follows family kind) ∧
        ∀ t ∈ x.subTypes, ∀ p ∈ t.properties, p.Follows family kind) where
  primitive _ _ := ⟨(TypeExpr.follows_primitive _).single _, List.forall_mem_nil _⟩
  openMap _ _ := ⟨TypeExpr.follows_openMap.single _, List.forall_mem_nil _⟩
  object _ _ _ h :=
    ⟨(TypeExpr.follows_subType _).single _,
      List.forall_mem_append.mpr ⟨h.2, List.forall_mem_singleton.mpr h.1⟩⟩
  openArray _ _ := ⟨TypeExpr.follows_openArray.single _, List.forall_mem_nil _⟩
  array _ _ h := ⟨List.forall_mem_map.mpr fun e he => (h.1 e he).array, h.2⟩
  reference {s _ _ nullable t ts} hf h hn := by
    subst hf
    have htargets : (TypeExpr.reference ⟨t, ts⟩).Follows .managed kind :=
      TypeExpr.follows_reference (targetNames_marked h hn)
    exact ⟨htargets.single nullable, List.forall_mem_nil _⟩
  unresolved _ _ _ := ⟨TypeExpr.follows_openMap.single _, List.forall_mem_nil _⟩
  nil := ⟨List.forall_mem_nil _, List.forall_mem_nil _⟩
  cons h hs :=
    ⟨List.forall_mem_cons.mpr ⟨Property.follows_describe h.1, hs.1⟩,
      List.forall_mem_append.mpr ⟨h.2, hs.2⟩⟩

end

/-! ### The resources of a configuration -/

/-- **Each family keeps its rules at every depth.** Of managed objects all properties know
whether reads return them by default, and references name managed objects. For connectors
there are neither, nor are there warnings, whatever their documents hold. The types of what
is left open are of the kind given. -/
theorem resources_follow (kind : ValueKind) (objects : List ManagedObject)
    (connectors : List Connector) :
    (∀ set, managedResources kind objects = .ok set →
        ∀ p ∈ set.propertiesBy (·.properties), p.Follows .managed kind) ∧
      ∀ set, systemResources kind connectors = .ok set →
        (∀ p ∈ set.propertiesBy (·.properties), p.Follows .system kind) ∧ set.warnings = [] := by
  have hall : ∀ {R : Type} {properties : R → List Property} {set : ResourceSet R} {family : Family},
      ((∀ r ∈ set.resources, ∀ p ∈ properties r, p.Follows family kind) ∧
        ∀ t ∈ set.subTypes, ∀ p ∈ t.properties, p.Follows family kind) →
      ∀ p ∈ set.propertiesBy properties, p.Follows family kind := fun h =>
    List.forall_mem_append.mpr ⟨List.forall_mem_flatMap.mpr h.1, List.forall_mem_flatMap.mpr h.2⟩
  refine ⟨fun set hset => hall ?_, fun set hset => ⟨hall ?_, systemResources_warnings hset⟩⟩
  · exact forall_of_managedResources hset fun _ hp =>
      (follows_invariant .managed kind).properties _ _ _ hp
  · exact forall_of_systemResources hset fun _ hp =>
      (follows_invariant .system kind).properties _ _ _ hp

/-- A managed object with links in lists inside of an object, and with all that may be left
open. -/
def ruledObjects : List ManagedObject :=
  [⟨"user", { properties := [
    ("access", { type := some (.single "object"), properties := [
      ("roles", { type := some (.single "array"), returnByDefault := some true, items := some {
        type := some (.single "array"), items := some {
          type := some (.single "relationship"), collections := [⟨"managed/role"⟩] } } }),
      ("extra", { type := some (.union ["object", "null"]) })] }),
    ("tags", { type := some (.single "array") }),
    ("unit", { type := some (.single "relationship"), collections := [⟨"system/ldap/unit"⟩] })] }⟩]

/-- An object type with collections and with a flag of which nothing must be left. -/
def ruledConnectors : List Connector :=
  [⟨"ldap", [("account", { properties := [
    ("units", { type := some (.single "array"), returnByDefault := some false, items := some {
      type := some (.single "object"), properties := [
        ("extra", { type := some (.single "object"), collections := [⟨"managed/user"⟩] })]
      } })] })]⟩]

theorem resources_follow_ruled : ∃ managed system,
    managedResources .any ruledObjects = .ok managed ∧
      systemResources .any ruledConnectors = .ok system ∧
      (managed.propertiesBy (·.properties)).map (fun p => (p.name, p.type.types)) =
        [("access", [.subType "SubManagedUserAccess"]), ("tags", [.openArray .any]),
          ("unit", [.openMap .any]), ("roles", [.array (.array (.reference ⟨"ManagedRole", []⟩))]),
          ("extra", [.openMap .any])] ∧
      (system.propertiesBy (·.properties)).map (fun p => (p.name, p.type.types)) =
        [("units", [.array (.subType "SubSystemLdapAccountUnits")]), ("extra", [.openMap .any])] ∧
      (∀ p ∈ managed.propertiesBy (·.properties), p.Follows .managed .any) ∧
      (∀ p ∈ system.propertiesBy (·.properties), p.Follows .system .any) ∧
      managed.warnings.length = 1 ∧ system.warnings = [] := by
  have hm : (managedResources .any ruledObjects).toOption.map (fun set =>
      ((set.propertiesBy (·.properties)).map (fun p => (p.name, p.type.types)),
        set.warnings.length)) =
      some ([("access", [.subType "SubManagedUserAccess"]), ("tags", [.openArray .any]),
        ("unit", [.openMap .any]), ("roles", [.array (.array (.reference ⟨"ManagedRole", []⟩))]),
        ("extra", [.openMap .any])], 1) := by
    decide +kernel
  have hs : (systemResources .any ruledConnectors).toOption.map (fun set =>
      (set.propertiesBy (·.properties)).map (fun p => (p.name, p.type.types))) =
      some [("units", [.array (.subType "SubSystemLdapAccountUnits")]),
        ("extra", [.openMap .any])] := by
    decide +kernel
  obtain ⟨managed, hmanaged, hm⟩ := toOption_map_eq_some.mp hm
  obtain ⟨system, hsystem, hs⟩ := toOption_map_eq_some.mp hs
  obtain ⟨hproperties, hwarnings⟩ := Prod.mk.inj hm
  obtain ⟨hfollow, hfollow'⟩ := resources_follow .any ruledObjects ruledConnectors
  obtain ⟨hsystem', hnone⟩ := hfollow' system hsystem
  exact ⟨managed, system, hmanaged, hsystem, hproperties, hs, hfollow managed hmanaged, hsystem',
    hwarnings, hnone⟩

end IdentityTypes
