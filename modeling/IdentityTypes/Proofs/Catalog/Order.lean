/-
# The order of the configuration

A catalog does not show in which order managed objects, connectors and the object
types of a connector are given. Managed objects are sorted before their types are
inferred, so that their warnings are in order too. Object types are sorted
afterwards, but give no warnings. Sorting keeps the order of elements with the same
text, and here the names help: the same text would be the same type name, which a
catalog does not have twice. Only a slash in the name of a connector could give two
object types the same text and different type names.

Key definitions: `Reordered`.
Key theorems: `managedResources_perm`, `systemResources_perm`, `Catalog.sorted_perm`,
`build_reordered`.
-/
import IdentityTypes.Proofs.Catalog.Names
import Mathlib.Data.List.Nodup
import Mathlib.Data.Option.Basic

namespace IdentityTypes

/-! ### Managed objects -/

/-- The types are named after the objects. -/
theorem managedResources_typeNames {kind : ValueKind} {objects : List ManagedObject}
    {set : ResourceSet ManagedResource} (h : managedResources kind objects = .ok set) :
    set.resources.map (fun r => some r.typeName) =
      (sortOn (·.name) objects).map fun o => Name.managedTypeName o.name := by
  obtain ⟨xs, hxs, rfl⟩ := managedResources_eq_ok.mp h
  simp only [ResourceSet.ofInferred, Inferred.gather_value, List.map_map]
  clear h
  generalize sortOn (·.name) objects = sorted at hxs
  induction hxs with
  | nil => rfl
  | cons ho _ ih =>
    obtain ⟨typeName, properties, hn, -, rfl⟩ := inferManagedObject_eq_ok.mp ho
    rw [List.map_cons, List.map_cons, ih, hn]
    rfl

/-- Where all types have different names, managed objects may be given in any order. -/
theorem managedResources_perm {kind : ValueKind} {objects objects' : List ManagedObject}
    (hp : objects.Perm objects') {set : ResourceSet ManagedResource}
    (h : managedResources kind objects = .ok set) (hnd : (set.resources.map (·.typeName)).Nodup) :
    managedResources kind objects' = .ok set := by
  have hnames : ((sortOn (·.name) objects).map fun o => Name.managedTypeName o.name).Nodup := by
    rw [← managedResources_typeNames h]
    simpa [Function.comp_def] using hnd.map (Option.some_injective _)
  have hsort : sortOn (·.name) objects = sortOn (·.name) objects' := by
    refine sortOn_eq_of_perm hp fun a ha b hb hab => ?_
    exact List.inj_on_of_nodup_map hnames (mem_sortOn.mpr ha) (mem_sortOn.mpr hb)
      (congrArg Name.managedTypeName hab)
  rw [← h]
  unfold managedResources
  rw [hsort]

/-! ### Object types -/

/-- The connectors of the first list in any order, each with its object types in any
order. -/
def Reordered (connectors connectors' : List Connector) : Prop :=
  ∃ between, List.Forall₂ (fun c d => c.name = d.name ∧ c.objectTypes.Perm d.objectTypes)
    connectors between ∧ between.Perm connectors'

theorem objectTypesOf_perm {connectors connectors' : List Connector}
    (h : Reordered connectors connectors') :
    (objectTypesOf connectors).Perm (objectTypesOf connectors') := by
  obtain ⟨between, hb, hp⟩ := h
  refine List.Perm.trans ?_ (hp.flatMap_right _)
  clear hp
  unfold objectTypesOf
  induction hb with
  | nil => exact .refl _
  | cons hcd _ ih =>
    rw [List.flatMap_cons, List.flatMap_cons, hcd.1]
    exact (hcd.2.map _).append ih

/-- Nothing is left open in the types of connectors' objects. -/
theorem no_warnings_invariant (kind : ValueKind) :
    InferenceInvariant .system kind (fun _ _ _ x => x.warnings = [])
      (fun _ _ _ x => x.warnings = []) where
  primitive _ _ := rfl
  openMap _ _ := rfl
  object _ _ _ h := h
  openArray _ _ := rfl
  array _ _ h := h
  reference _ _ _ := rfl
  unresolved hf := nomatch hf
  nil := rfl
  cons h hs := by simp only [Inferred.cons, Inferred.map, h, hs, List.append_nil]

theorem systemResources_warnings {kind : ValueKind} {connectors : List Connector}
    {set : ResourceSet SystemResource} (h : systemResources kind connectors = .ok set) :
    set.warnings = [] := by
  obtain ⟨xs, hxs, rfl⟩ := systemResources_eq_ok.mp h
  simp only [ResourceSet.ofInferred, Inferred.map, Inferred.gather_warnings]
  refine List.flatMap_eq_nil_iff.mpr fun x hx => ?_
  obtain ⟨o, -, ho⟩ := exists_of_mem_right hxs x hx
  obtain ⟨typeName, valueName, properties, -, -, hp, rfl⟩ := inferObjectType_eq_ok.mp ho
  exact (no_warnings_invariant kind).properties _ _ _ hp

/-- Each resource is that of an object type of one of the connectors given. -/
theorem objectType_of_mem_resources {kind : ValueKind} {connectors : List Connector}
    {set : ResourceSet SystemResource} (h : systemResources kind connectors = .ok set)
    {r : SystemResource} (hr : r ∈ set.resources) : ∃ k ∈ connectors, ∃ t ∈ k.objectTypes,
      r.connector = k.name ∧ r.objectType = t.1 ∧
        Name.systemTypeName k.name t.1 = some r.typeName ∧
        Name.systemValueName k.name t.1 = some r.valueName := by
  obtain ⟨xs, hxs, rfl⟩ := systemResources_eq_ok.mp h
  simp only [ResourceSet.ofInferred, Inferred.map, mem_sortOn, Inferred.gather_value,
    List.mem_map] at hr
  obtain ⟨x, hx, rfl⟩ := hr
  obtain ⟨o, ho, hx⟩ := exists_of_mem_right hxs x hx
  obtain ⟨typeName, valueName, properties, hn, hv, -, rfl⟩ := inferObjectType_eq_ok.mp hx
  obtain ⟨k, hk, ho⟩ := List.mem_flatMap.mp ho
  obtain ⟨t, ht, rfl⟩ := List.mem_map.mp ho
  exact ⟨k, hk, t, ht, rfl, rfl, hn, hv⟩

/-- Each resource belongs to one of the connectors given. -/
theorem connector_of_mem_resources {kind : ValueKind} {connectors : List Connector}
    {set : ResourceSet SystemResource} (h : systemResources kind connectors = .ok set)
    {r : SystemResource} (hr : r ∈ set.resources) : ∃ k ∈ connectors, r.connector = k.name := by
  obtain ⟨k, hk, _, -, hconnector, -⟩ := objectType_of_mem_resources h hr
  exact ⟨k, hk, hconnector⟩

/-- The full name of a resource is its connector and its object type. -/
theorem fullName_of_mem_resources {kind : ValueKind} {connectors : List Connector}
    {set : ResourceSet SystemResource} (h : systemResources kind connectors = .ok set) :
    ∀ r ∈ set.resources, r.fullName = r.connector ++ "/" ++ r.objectType :=
  (forall_of_systemResources (S := fun _ => True) h fun _ _ => ⟨rfl, fun _ _ => trivial⟩).1

/-- In another order, connectors and their object types give the same resources and
sub types in another order. -/
theorem systemResources_perm {kind : ValueKind} {connectors connectors' : List Connector}
    (hr : Reordered connectors connectors') {set : ResourceSet SystemResource}
    (h : systemResources kind connectors = .ok set) :
    ∃ set', systemResources kind connectors' = .ok set' ∧ set.resources.Perm set'.resources ∧
      set.subTypes.Perm set'.subTypes ∧ set.warnings = set'.warnings := by
  have hw := systemResources_warnings h
  unfold systemResources at h
  obtain ⟨x, hx, h⟩ := bind_eq_ok.mp h
  cases h
  rw [inferSystem_eq] at hx
  obtain ⟨y, hy, hv, hs, -⟩ := inferEach_perm (objectTypesOf_perm hr) hx
  have hy' : systemResources kind connectors' = .ok (.ofInferred (y.map (sortOn (·.fullName)))) :=
    bind_eq_ok.mpr ⟨y, (inferSystem_eq kind _).trans hy, rfl⟩
  refine ⟨_, hy', ?_, ?_, hw.trans (systemResources_warnings hy').symm⟩
  · exact (sortOn_perm _ _).trans (hv.trans (sortOn_perm _ _).symm)
  · exact (sortOn_perm _ _).trans (hs.trans (sortOn_perm _ _).symm)

/-- What stands before the first `x` and what stands after it are both known. -/
theorem append_cons_inj_left {α : Type} {x : α} : ∀ {as as' bs bs' : List α}, x ∉ as → x ∉ as' →
    as ++ x :: bs = as' ++ x :: bs' → as = as' ∧ bs = bs'
  | [], [], _, _, _, _, h => ⟨rfl, (List.cons.inj h).2⟩
  | [], _ :: _, _, _, _, h', h => (h' (List.mem_cons.mpr (.inl (List.cons.inj h).1))).elim
  | _ :: _, [], _, _, h', _, h => (h' (List.mem_cons.mpr (.inl (List.cons.inj h).1.symm))).elim
  | a :: as, a' :: as', _, _, h₁, h₂, h => by
    obtain ⟨ha, has⟩ := List.cons.inj h
    obtain ⟨rfl, rfl⟩ := append_cons_inj_left (List.not_mem_of_not_mem_cons h₁)
      (List.not_mem_of_not_mem_cons h₂) has
    exact ⟨congrArg (· :: as) ha, rfl⟩

/-- What stands before the first slash and what stands after it are both known. -/
theorem slash_injective {connector connector' objectType objectType' : String}
    (hc : '/' ∉ connector.toList) (hc' : '/' ∉ connector'.toList)
    (h : connector ++ "/" ++ objectType = connector' ++ "/" ++ objectType') :
    connector = connector' ∧ objectType = objectType' := by
  have h : connector.toList ++ '/' :: objectType.toList =
      connector'.toList ++ '/' :: objectType'.toList := by
    simpa using congrArg String.toList h
  obtain ⟨hc, ho⟩ := append_cons_inj_left hc hc' h
  exact ⟨String.toList_inj.mp hc, String.toList_inj.mp ho⟩

/-! ### The catalog -/

/-- The order of the resources of connectors and of their sub types does not show,
if names of types and full names are all different. -/
theorem Catalog.sorted_perm {managed : ResourceSet ManagedResource}
    {set set' : ResourceSet SystemResource} (hr : set.resources.Perm set'.resources)
    (hs : set.subTypes.Perm set'.subTypes) (hw : set.warnings = set'.warnings)
    (hnr : ∀ r ∈ set.resources, ∀ r' ∈ set.resources, r.fullName = r'.fullName → r = r')
    (hns : ∀ t ∈ set.subTypes, ∀ t' ∈ set.subTypes, t.typeName = t'.typeName → t = t') :
    Catalog.sorted managed set = Catalog.sorted managed set' := by
  unfold Catalog.sorted
  rw [sortOn_eq_of_perm hr hnr, sortOn_eq_of_perm hs hns, hw]

/-- The names of types in the parts that a catalog is made of. -/
theorem Catalog.nodup_parts {managed : ResourceSet ManagedResource}
    {system : ResourceSet SystemResource}
    (h : ((Catalog.sorted managed system).declared.map (·.typeName)).Nodup) :
    (managed.resources.map (·.typeName)).Nodup ∧ (system.resources.map (·.typeName)).Nodup ∧
      (system.subTypes.map (·.typeName)).Nodup := by
  obtain ⟨hm, hr, hs⟩ := nodup_kinds h
  have hs : (((sorted managed system).systemSubTypes).map (·.typeName)).Nodup := hs .system
  exact ⟨((sortOn_perm _ _).map _).nodup_iff.mp hm, ((sortOn_perm _ _).map _).nodup_iff.mp hr,
    ((sortOn_perm _ _).map _).nodup_iff.mp hs⟩

/-- **The order of the configuration does not show.** Managed objects, connectors
and the object types of each connector may be put in any other order: a catalog
that can be built can still be built, is the same, and is rendered as the same text. -/
theorem build_reordered {s : Settings} {objects objects' : List ManagedObject}
    {connectors connectors' : List Connector} {c : Catalog} (ho : objects.Perm objects')
    (hc : Reordered connectors connectors') (hslash : ∀ k ∈ connectors, '/' ∉ k.name.toList)
    (h : build s objects connectors = .ok c) :
    build s objects' connectors' = .ok c ∧
      ∀ runtimeModule, (build s objects' connectors').map (TypeScript.render runtimeModule) =
        (build s objects connectors).map (TypeScript.render runtimeModule) := by
  have hbuild : build s objects' connectors' = .ok c := by
    obtain ⟨managed, system, hm, hs, hcat⟩ := build_eq_ok.mp h
    obtain ⟨rfl, hnd⟩ := Catalog.assemble_eq_ok.mp hcat
    obtain ⟨hnm, hnr, hns⟩ := Catalog.nodup_parts hnd
    obtain ⟨system', hs', hpr, hps, hw⟩ := systemResources_perm hc hs
    have hsorted : Catalog.sorted managed system = Catalog.sorted managed system' := by
      refine Catalog.sorted_perm hpr hps hw (fun r hr r' hr' he => ?_)
        (List.inj_on_of_nodup_map hns)
      obtain ⟨k, hk, hrk⟩ := connector_of_mem_resources hs hr
      obtain ⟨k', hk', hrk'⟩ := connector_of_mem_resources hs hr'
      rw [fullName_of_mem_resources hs r hr, fullName_of_mem_resources hs r' hr'] at he
      obtain ⟨hconnector, hobject⟩ :=
        slash_injective (hrk ▸ hslash k hk) (hrk' ▸ hslash k' hk') he
      have hn : Name.systemTypeName r.connector r.objectType = some r.typeName :=
        (isNamed_of_systemResources hs).1 r hr
      have hn' : Name.systemTypeName r'.connector r'.objectType = some r'.typeName :=
        (isNamed_of_systemResources hs).1 r' hr'
      rw [hconnector, hobject, hn'] at hn
      exact List.inj_on_of_nodup_map hnr hr hr' (Option.some.inj hn).symm
    refine build_eq_ok.mpr ⟨managed, system', managedResources_perm ho hm hnm, hs', ?_⟩
    exact Catalog.assemble_eq_ok.mpr ⟨hsorted, hnd⟩
  exact ⟨hbuild, fun runtimeModule => by rw [hbuild, h]⟩

/-- Two managed objects, one of them with a relationship that is left open, and two
connectors, one of them with two object types. -/
def reorderable : List ManagedObject × List Connector :=
  ([⟨"user", { properties := [("boss", { type := some (.single "relationship") })] }⟩,
    ⟨"role", { properties := [("name", { type := some (.single "string") })] }⟩],
   [⟨"ldap", [("group", {}), ("account", { properties := [
      ("name", { type := some (.single "object"), properties := [
        ("first", { type := some (.single "string") })] })] })]⟩,
    ⟨"csv", [("row", {})]⟩])

/-- The same the other way round. -/
def reordered : List ManagedObject × List Connector :=
  (reorderable.1.reverse,
    (reorderable.2.map fun k => { k with objectTypes := k.objectTypes.reverse }).reverse)

theorem build_reordered_reorderable : ∃ c, build {} reorderable.1 reorderable.2 = .ok c ∧
    c.managed.map (·.name) = ["role", "user"] ∧
    c.system.map (·.fullName) = ["csv/row", "ldap/account", "ldap/group"] ∧
    build {} reordered.1 reordered.2 = .ok c := by
  have h : (build {} reorderable.1 reorderable.2).toOption.map
      (fun c => (c.managed.map (·.name), c.system.map (·.fullName))) =
      some (["role", "user"], ["csv/row", "ldap/account", "ldap/group"]) := by
    decide +kernel
  obtain ⟨c, hc, he⟩ := toOption_map_eq_some.mp h
  obtain ⟨hmanaged, hsystem⟩ := Prod.mk.inj he
  have hreordered : Reordered reorderable.2 reordered.2 := by
    refine ⟨_, ?_, (List.reverse_perm _).symm⟩
    exact List.forall₂_map_right_iff.mpr (List.forall₂_same.mpr fun k _ =>
      ⟨rfl, (List.reverse_perm _).symm⟩)
  have hbuild := build_reordered (List.reverse_perm reorderable.1).symm hreordered (by decide) hc
  exact ⟨c, hc, hmanaged, hsystem, hbuild.1⟩

end IdentityTypes
