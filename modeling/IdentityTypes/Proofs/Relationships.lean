/-
# Relationships and warnings

A relationship none of whose collections is one of managed objects is left open, with a
warning. Warnings travel with the sub types through objects, arrays and resources, and stay
in the order of a walk: the warnings of a document are those of the relationships left open,
one for each (`Settled`). They name places by owner and property, and the place has an open
map there. All other relationships are references at their places, with all targets in order.

Places repeat where properties or names of types do, so relationships are assigned places
one to one, as a part of the list of all places.

Key definitions: `SchemaNode.IsUnresolved`, `Place`, `SchemaNode.WarnedBy`,
`SchemaNode.SettledAs`, `Settled`, `RelationshipsSettled`.
Key theorems: `settled_invariant`, `settled_managedResources`, `relationships_settled`.
-/
import IdentityTypes.Proofs.FamilyRules
import IdentityTypes.Proofs.Inference.Arrays
import Mathlib.Data.List.Forall2
import Mathlib.Data.List.Perm.Subperm

namespace IdentityTypes

/-! ### Relationships of a walk -/

/-- The name of a managed object stands behind the mark of its collection. -/
theorem ResourceCollection.managedName_eq_none {c : ResourceCollection} :
    c.managedName = none ↔ ¬ Marked "managed/" c.path := by
  rw [managedName, Text.dropStart?, Marked, ← List.isPrefixOf_iff_prefix]
  split
  · rename_i h
    exact iff_of_false (Option.some_ne_none _) (not_not_intro h)
  · rename_i h
    exact iff_of_true rfl h

namespace SchemaNode

/-- The node is a relationship. -/
def IsRelationship (n : SchemaNode) : Prop := IsOf n.schema.type "relationship"

instance (n : SchemaNode) : Decidable n.IsRelationship :=
  inferInstanceAs (Decidable (IsOf _ _))

/-- The node is a relationship, and none of its collections is one of managed objects. -/
def IsUnresolved (n : SchemaNode) : Prop :=
  n.IsRelationship ∧ ∀ c ∈ n.schema.collections, ¬ Marked "managed/" c.path

instance (n : SchemaNode) : Decidable n.IsUnresolved :=
  inferInstanceAs (Decidable (_ ∧ _))

/-- The targets of a relationship are those that its collections of managed objects name. -/
theorem targets_eq {n : SchemaNode} (hn : n.IsRelationship) :
    n.targets = (n.schema.collections.filterMap (·.managedName)).map Name.managedTypeName := by
  unfold IsRelationship at hn
  rw [targets, pointsAt, if_pos hn]

/-- A relationship is left open if it has no targets. -/
theorem isUnresolved_iff {n : SchemaNode} (hn : n.IsRelationship) :
    n.IsUnresolved ↔ n.targets = [] := by
  rw [targets_eq hn, List.map_eq_nil_iff, List.filterMap_eq_nil_iff]
  simp only [ResourceCollection.managedName_eq_none]
  exact and_iff_right hn

end SchemaNode

/-! ### Places -/

/-- What is left of the expressions of a type without the arrays around them. -/
def Descriptor.cores (d : Descriptor) : List TypeExpr := d.types.map TypeExpr.core

/-- Another array around the expressions leaves the same. -/
theorem Descriptor.cores_arrayOf (d : Descriptor) (nullable : Bool) :
    (d.arrayOf.withNullable nullable).cores = d.cores :=
  List.map_map (l := d.types)

/-- A property and the declaration that has it, by their names, with the expressions of its
type without the arrays around them. -/
structure Place where
  owner : String
  property : String
  cores : List TypeExpr
  deriving DecidableEq, Repr

/-- The places that the properties of a type are. -/
def placesOf (owner : String) (properties : List Property) : List Place :=
  properties.map fun p => ⟨owner, p.name, p.type.cores⟩

/-- The places that the properties of a sub type are. -/
def SubType.places (t : SubType) : List Place := placesOf t.typeName t.properties

/-- The places that the properties of a declaration are. -/
def Declared.places (d : Declared) : List Place := placesOf d.typeName d.properties

namespace SchemaNode

/-- The warning is about the node. -/
structure WarnedBy (n : SchemaNode) (w : Warning) : Prop where
  owner : n.owner = some w.owner
  property : n.property = w.property
  candidates : w.candidates = n.schema.collections.map (·.path)

/-- The place is that of a relationship: it has an open map if the relationship is left open,
and a reference to all targets otherwise, and nothing else. -/
structure SettledAs (kind : ValueKind) (n : SchemaNode) (p : Place) : Prop where
  owner : n.owner = some p.owner
  property : n.property = p.property
  unresolved : n.IsUnresolved → p.cores = [.openMap kind]
  resolved : ¬ n.IsUnresolved → ∃ targets, p.cores = [.reference targets] ∧
    targets.toList.map some = n.targets

end SchemaNode

/-- The relationships of a walk are settled: there are warnings for those left open, in
order, and each has a place of its own. -/
structure Settled (kind : ValueKind) (walk : List SchemaNode) (places : List Place)
    (warnings : List Warning) : Prop where
  warned : List.Forall₂ SchemaNode.WarnedBy (walk.filter (·.IsUnresolved)) warnings
  placed : ∃ ps, List.Forall₂ (SchemaNode.SettledAs kind) (walk.filter (·.IsRelationship)) ps ∧
    ps.Subperm places

namespace Settled

variable {kind : ValueKind} {walk walk' : List SchemaNode} {places places' : List Place}
  {warnings warnings' : List Warning} {n : SchemaNode} {p : Place}

theorem nil : Settled kind [] places [] := ⟨.nil, [], .nil, List.nil_subperm⟩

theorem append (h : Settled kind walk places warnings)
    (h' : Settled kind walk' places' warnings') :
    Settled kind (walk ++ walk') (places ++ places') (warnings ++ warnings') := by
  obtain ⟨ps, hps, hsub⟩ := h.placed
  obtain ⟨ps', hps', hsub'⟩ := h'.placed
  constructor
  · rw [List.filter_append]
    exact List.rel_append h.warned h'.warned
  · rw [List.filter_append]
    exact ⟨ps ++ ps', List.rel_append hps hps', hsub.append hsub'⟩

/-- More places, or the same in another order. -/
theorem mono (h : Settled kind walk places warnings) (hsub : places.Subperm places') :
    Settled kind walk places' warnings := by
  obtain ⟨ps, hps, hp⟩ := h.placed
  exact ⟨h.warned, ps, hps, hp.trans hsub⟩

/-- Nodes of other kinds do not count. -/
theorem skip (hn : ¬ n.IsRelationship) (h : Settled kind walk places warnings) :
    Settled kind (n :: walk) places warnings := by
  have hun : ¬ n.IsUnresolved := fun hun => hn hun.1
  constructor
  · rw [List.filter_cons_of_neg (by simpa using hun)]
    exact h.warned
  · rw [List.filter_cons_of_neg (by simpa using hn)]
    exact h.placed

/-- A relationship that is left open is warned about. -/
theorem unresolved {w : Warning} (hun : n.IsUnresolved) (hw : n.WarnedBy w)
    (hp : n.SettledAs kind p) : Settled kind [n] [p] [w] := by
  constructor
  · rw [List.filter_cons_of_pos (by simpa using hun)]
    exact .cons hw .nil
  · rw [List.filter_cons_of_pos (by simpa using hun.1)]
    exact ⟨[p], .cons hp .nil, List.Subperm.refl _⟩

/-- A relationship that points at managed objects is not. -/
theorem resolved (hn : n.IsRelationship) (hun : ¬ n.IsUnresolved) (hp : n.SettledAs kind p) :
    Settled kind [n] [p] [] := by
  constructor
  · rw [List.filter_cons_of_neg (by simpa using hun)]
    exact .nil
  · rw [List.filter_cons_of_pos (by simpa using hn)]
    exact ⟨[p], .cons hp .nil, List.Subperm.refl _⟩

/-- There is a place for each relationship. -/
theorem exists_place (h : Settled kind walk places warnings) (hn : n ∈ walk)
    (hr : n.IsRelationship) : ∃ p ∈ places, n.SettledAs kind p := by
  obtain ⟨ps, hps, hsub⟩ := h.placed
  have hmem : n ∈ walk.filter (·.IsRelationship) :=
    List.mem_filter.mpr ⟨hn, decide_eq_true hr⟩
  obtain ⟨p, hp, hnp⟩ := exists_of_mem_right hps.flip n hmem
  exact ⟨p, hsub.subset hp, hnp⟩

/-- The place that a warning names has an open map. -/
theorem exists_openMap (h : Settled kind walk places warnings) {w : Warning}
    (hw : w ∈ warnings) : (⟨w.owner, w.property, [.openMap kind]⟩ : Place) ∈ places := by
  obtain ⟨n, hn, hnw⟩ := exists_of_mem_right h.warned w hw
  obtain ⟨hwalk, hun⟩ := List.mem_filter.mp hn
  have hun := of_decide_eq_true hun
  obtain ⟨p, hp, hnp⟩ := h.exists_place hwalk hun.1
  have howner : p.owner = w.owner := Option.some.inj (hnp.owner.symm.trans hnw.owner)
  have hproperty : p.property = w.property := hnp.property.symm.trans hnw.property
  rwa [← howner, ← hproperty, ← hnp.unresolved hun]

end Settled

/-! ### Inference settles relationships -/

/-- The relationships in a schema are settled by what is inferred of it. -/
theorem settled_invariant (kind : ValueKind) :
    InferenceInvariant .managed kind
      (fun s property owner x => Settled kind (nodesAt (some owner) property s)
        (⟨owner, property, x.value.cores⟩ :: x.subTypes.flatMap SubType.places) x.warnings)
      (fun _ ps owner x => Settled kind (nodesOf (some owner) ps)
        (placesOf owner x.value ++ x.subTypes.flatMap SubType.places) x.warnings) where
  primitive h hp := by
    obtain ⟨ho, ha, -⟩ := SchemaKind.ne_of_primitive hp
    rw [nodesAt_leaf h ho ha]
    exact .skip (h.not_isOf (SchemaKind.notMem_tags_of_primitive hp).2) .nil
  openMap h hp := by
    rw [nodesAt_object h, hp, nodesOf]
    exact .skip (h.not_isOf (by decide)) .nil
  object h _ hname hinner := by
    rw [nodesAt_object h, Option.bind_some, hname]
    refine .skip (h.not_isOf (by decide)) (hinner.mono ?_)
    -- The properties of the object are those of a sub type now, behind the ones made before it.
    rw [List.flatMap_append, List.flatMap_singleton]
    exact List.perm_append_comm.subperm.trans (List.sublist_cons_self _ _).subperm
  openArray h hi := by
    rw [nodesAt_array h, nodesOfItem_untyped hi]
    exact .skip (h.not_isOf (by decide)) .nil
  array h hi hitem := by
    rw [nodesAt_array h, nodesOfItem_typed hi, Inferred.map, Descriptor.cores_arrayOf]
    exact .skip (h.not_isOf (by decide)) hitem
  reference {s property owner nullable t ts} _ h hn := by
    have hrel : (SchemaNode.mk (some owner) property s).IsRelationship := (h.isOf_iff rfl).mpr rfl
    have htargets : (SchemaNode.mk (some owner) property s).targets = (t :: ts).map some :=
      targets_of_targetNames h hn
    have hun : ¬ (SchemaNode.mk (some owner) property s).IsUnresolved := by
      rw [SchemaNode.isUnresolved_iff hrel, htargets]
      exact List.cons_ne_nil _ _
    rw [nodesAt_leaf h (by decide) (by decide)]
    exact .resolved hrel hun ⟨rfl, rfl, fun hu => absurd hu hun, fun _ => ⟨_, rfl, htargets.symm⟩⟩
  unresolved {s property owner nullable} _ h hn := by
    have hrel : (SchemaNode.mk (some owner) property s).IsRelationship := (h.isOf_iff rfl).mpr rfl
    have htargets : (SchemaNode.mk (some owner) property s).targets = [] :=
      targets_of_targetNames h hn
    have hun : (SchemaNode.mk (some owner) property s).IsUnresolved :=
      (SchemaNode.isUnresolved_iff hrel).mpr htargets
    rw [nodesAt_leaf h (by decide) (by decide)]
    exact .unresolved hun ⟨rfl, rfl, rfl⟩ ⟨rfl, rfl, fun _ => rfl, fun hr => absurd hun hr⟩
  nil := .nil
  cons h hs := by
    rw [nodesOf]
    refine (h.append hs).mono (List.Perm.subperm ?_)
    simp only [Inferred.cons, Inferred.map, placesOf, List.map_cons, describe, List.cons_append,
      List.flatMap_append]
    exact (List.perm_append_comm_assoc _ _ _).cons _

/-! ### The relationships of a document -/

/-- The declarations of a set of managed resources. -/
def ResourceSet.declared (set : ResourceSet ManagedResource) : List Declared :=
  set.resources.map .managed ++ set.subTypes.map (.subType .managed)

/-- The places that the properties of all resources and sub types are. -/
def ResourceSet.places (set : ResourceSet ManagedResource) : List Place :=
  set.declared.flatMap Declared.places

/-- What is settled for each managed object is settled for all. -/
theorem settled_gather {kind : ValueKind} {objects : List ManagedObject}
    {xs : List (Inferred ManagedResource)}
    (h : List.Forall₂ (fun o x => inferManagedObject kind o = .ok x) objects xs) :
    Settled kind (managedNodes objects)
      ((Inferred.gather xs).value.flatMap (fun r => (Declared.managed r).places) ++
        (Inferred.gather xs).subTypes.flatMap SubType.places) (Inferred.gather xs).warnings := by
  induction h with
  | nil => exact .nil
  | cons ho _ ih =>
    obtain ⟨typeName, properties, hn, hp, rfl⟩ := inferManagedObject_eq_ok.mp ho
    have hone := (settled_invariant kind).properties _ _ _ hp
    rw [managedNodes, List.flatMap_cons, hn]
    refine (hone.append ih).mono (List.Perm.subperm ?_)
    simp only [Inferred.gather, Inferred.cons, Inferred.map, List.flatMap_cons,
      List.flatMap_append, List.append_assoc]
    exact (List.perm_append_comm_assoc _ _ _).append_left _

theorem settled_managedResources {kind : ValueKind} {objects sorted : List ManagedObject}
    (hs : SortsTo (·.name) objects sorted) {set : ResourceSet ManagedResource}
    (h : managedResources kind objects = .ok set) :
    Settled kind (managedNodes sorted) set.places set.warnings := by
  obtain ⟨xs, hxs, rfl⟩ := managedResources_eq_ok.mp h
  rw [← hs.eq_sortOn] at hxs
  refine (settled_gather hxs).mono (List.Perm.subperm ?_)
  rw [ResourceSet.places, ResourceSet.declared, List.flatMap_append, List.flatMap_map,
    List.flatMap_map]
  exact ((sortOn_perm _ _).symm.flatMap_right _).append_left _

/-- The type has some number of arrays around its core. -/
theorem TypeExpr.exists_arrays_core : ∀ e : TypeExpr, ∃ k, e = e.core.arrays k
  | .array item => by
    obtain ⟨k, hk⟩ := item.exists_arrays_core
    exact ⟨k + 1, congrArg TypeExpr.array hk⟩
  | .primitive _ | .openMap _ | .openArray _ | .reference _ | .subType _ => ⟨0, rfl⟩

/-- A type with one core is one expression, which has the core inside of arrays. -/
theorem Descriptor.exists_types_of_cores {d : Descriptor} {core : TypeExpr}
    (h : d.cores = [core]) : ∃ k, d.types = [core.arrays k] := by
  obtain ⟨e, htypes, rfl⟩ := List.map_eq_singleton_iff.mp h
  obtain ⟨k, hk⟩ := e.exists_arrays_core
  exact ⟨k, htypes.trans (congrArg (fun e => [e]) hk)⟩

/-- A place with one core is that of a property whose type has the core inside of arrays. -/
theorem exists_property_of_mem_places {set : ResourceSet ManagedResource} {place : Place}
    (h : place ∈ set.places) {core : TypeExpr} (hcore : place.cores = [core]) :
    ∃ d ∈ set.declared, ∃ p ∈ d.properties, d.typeName = place.owner ∧
      p.name = place.property ∧ ∃ k, p.type.types = [core.arrays k] := by
  obtain ⟨d, hd, hplace⟩ := List.mem_flatMap.mp h
  obtain ⟨p, hp, rfl⟩ := List.mem_map.mp hplace
  exact ⟨d, hd, p, hp, rfl, rfl, Descriptor.exists_types_of_cores hcore⟩

/-- What becomes of the relationships of a document. -/
structure RelationshipsSettled (kind : ValueKind) (objects sorted : List ManagedObject)
    (set : ResourceSet ManagedResource) : Prop where
  mem_walk_iff : ∀ n, n ∈ managedNodes sorted ↔ ReachedManaged objects n
  /-- The warnings are those of the relationships left open, in the order of the walk. -/
  warned : List.Forall₂ SchemaNode.WarnedBy
    ((managedNodes sorted).filter (·.IsUnresolved)) set.warnings
  /-- Each relationship has a place of its own in the result. -/
  placed : ∃ ps, List.Forall₂ (SchemaNode.SettledAs kind)
    ((managedNodes sorted).filter (·.IsRelationship)) ps ∧ ps.Subperm set.places
  /-- A warning names a property whose type is an open map, in any number of arrays, and
  nothing else. -/
  openMap : ∀ w ∈ set.warnings, ∃ d ∈ set.declared, ∃ p ∈ d.properties,
    d.typeName = w.owner ∧ p.name = w.property ∧
      ∃ k, p.type.types = [(TypeExpr.openMap kind).arrays k]
  /-- A relationship with a collection of managed objects is a reference to all of these. -/
  reference : ∀ n, ReachedManaged objects n → n.IsRelationship →
    (∃ c ∈ n.schema.collections, Marked "managed/" c.path) →
      ∃ d ∈ set.declared, ∃ p ∈ d.properties, n.owner = some d.typeName ∧ n.property = p.name ∧
        ∃ targets k, p.type.types = [(TypeExpr.reference targets).arrays k] ∧
          targets.toList.map some = (n.schema.collections.filterMap (·.managedName)).map
            Name.managedTypeName

/-- **The relationships left open are those warned about.** Of all managed objects that are
accepted the relationships without a collection of managed objects have a warning each, in
the order of the walk, and an open map at the place it names. All others are references. -/
theorem relationships_settled {kind : ValueKind} {objects sorted : List ManagedObject}
    (hs : SortsTo (·.name) objects sorted) {set : ResourceSet ManagedResource}
    (h : managedResources kind objects = .ok set) :
    RelationshipsSettled kind objects sorted set := by
  have hsettled := settled_managedResources hs h
  have hwalk : ∀ n, n ∈ managedNodes sorted ↔ ReachedManaged objects n := by
    intro n
    simp only [mem_managedNodes_iff, ReachedManaged, hs.mem_iff]
  refine ⟨hwalk, hsettled.warned, hsettled.placed, fun w hw => ?_, fun n hn hrel hmanaged => ?_⟩
  · exact exists_property_of_mem_places (hsettled.exists_openMap hw) rfl
  · obtain ⟨place, hplace, hnp⟩ := hsettled.exists_place ((hwalk n).mpr hn) hrel
    obtain ⟨c, hc, hmark⟩ := hmanaged
    obtain ⟨targets, hcore, htargets⟩ := hnp.resolved fun hun => hun.2 c hc hmark
    obtain ⟨d, hd, p, hp, howner, hname, k, hk⟩ := exists_property_of_mem_places hplace hcore
    rw [SchemaNode.targets_eq hrel] at htargets
    exact ⟨d, hd, p, hp, howner ▸ hnp.owner, hname ▸ hnp.property, targets, k, hk, htargets⟩

/-- A user with access to roles in lists and to a unit of no managed object, and a role that
may belong to anything. -/
def linkedObjects : List ManagedObject :=
  [⟨"user", { properties := [
      ("access", { type := some (.single "object"), properties := [
        ("roles", { type := some (.single "array"), items := some {
          type := some (.union ["relationship", "null"]), collections := [
            ⟨"managed/role"⟩, ⟨"system/ldap/group"⟩, ⟨"managed/user"⟩] } }),
        ("units", { type := some (.single "array"), items := some {
          type := some (.single "relationship"), collections := [
            ⟨"system/ldap/unit"⟩, ⟨"internal/unit"⟩] } })] })] }⟩,
    ⟨"role", { properties := [("owner", { type := some (.single "relationship") })] }⟩]

theorem relationships_settled_linked : ∃ set,
    managedResources .unknown linkedObjects = .ok set ∧
      set.warnings = [⟨"ManagedRole", "owner", []⟩,
        ⟨"SubManagedUserAccess", "units", ["system/ldap/unit", "internal/unit"]⟩] ∧
      set.places = [⟨"ManagedRole", "owner", [.openMap .unknown]⟩,
        ⟨"ManagedUser", "access", [.subType "SubManagedUserAccess"]⟩,
        ⟨"SubManagedUserAccess", "roles", [.reference ⟨"ManagedRole", ["ManagedUser"]⟩]⟩,
        ⟨"SubManagedUserAccess", "units", [.openMap .unknown]⟩] ∧
      RelationshipsSettled .unknown linkedObjects (sortOn (·.name) linkedObjects) set := by
  have h : (managedResources .unknown linkedObjects).toOption.map
      (fun set => (set.warnings, set.places)) =
      some ([⟨"ManagedRole", "owner", []⟩,
        ⟨"SubManagedUserAccess", "units", ["system/ldap/unit", "internal/unit"]⟩],
        [⟨"ManagedRole", "owner", [.openMap .unknown]⟩,
        ⟨"ManagedUser", "access", [.subType "SubManagedUserAccess"]⟩,
        ⟨"SubManagedUserAccess", "roles", [.reference ⟨"ManagedRole", ["ManagedUser"]⟩]⟩,
        ⟨"SubManagedUserAccess", "units", [.openMap .unknown]⟩]) := by
    decide +kernel
  obtain ⟨set, hset, h⟩ := toOption_map_eq_some.mp h
  obtain ⟨hwarnings, hplaces⟩ := Prod.mk.inj h
  exact ⟨set, hset, hwarnings, hplaces, relationships_settled (sortOn_sortsTo _) hset⟩

end IdentityTypes
