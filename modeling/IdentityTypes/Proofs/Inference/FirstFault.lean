/-
# The first fault of a configuration

The resources of a family are inferred exactly if all schemas in the configuration that
are reached are supported. If not, the fault that is reported is that of the first one,
where managed objects are walked in the order of their names, and connectors and object
types in the order given.

Key definitions: `managedNodes`, `systemNodes`, `ReachedManaged`, `ReachedSystem`,
`FirstFaultReported`.
Key theorems: `judged_managedResources`, `judged_systemResources`,
`Judged.firstFaultReported`, `resources_firstFaultReported`.
-/
import IdentityTypes.Proofs.Inference.Faults
import IdentityTypes.Proofs.Inference.Gather
import IdentityTypes.Proofs.Sorting

namespace IdentityTypes

/-! ### The nodes of a configuration -/

/-- The nodes of managed objects, in the order of a walk that takes one object after
the other. -/
def managedNodes (objects : List ManagedObject) : List SchemaNode :=
  objects.flatMap fun o => nodesOf (Name.managedTypeName o.name) o.schema.properties

/-- The nodes of connectors, one connector and one object type after the other. -/
def systemNodes (connectors : List Connector) : List SchemaNode :=
  connectors.flatMap fun c => c.objectTypes.flatMap fun t =>
    nodesOf (Name.systemTypeName c.name t.1) t.2.properties

/-- The nodes that are reached from managed objects. -/
def ReachedManaged (objects : List ManagedObject) (n : SchemaNode) : Prop :=
  ∃ o ∈ objects, Reached (Name.managedTypeName o.name) o.schema.properties n

/-- The nodes that are reached from the object types of connectors. -/
def ReachedSystem (connectors : List Connector) (n : SchemaNode) : Prop :=
  ∃ c ∈ connectors, ∃ t ∈ c.objectTypes,
    Reached (Name.systemTypeName c.name t.1) t.2.properties n

/-- All names in the document of the managed objects are of ASCII. -/
def AsciiManaged (objects : List ManagedObject) : Prop :=
  (∀ o ∈ objects, Name.IsAscii o.name.toList) ∧ ∀ n, ReachedManaged objects n → n.IsAscii

/-- All names in the documents of the connectors are of ASCII. -/
def AsciiSystem (connectors : List Connector) : Prop :=
  (∀ c ∈ connectors, Name.IsAscii c.name.toList ∧ ∀ t ∈ c.objectTypes, Name.IsAscii t.1.toList) ∧
    ∀ n, ReachedSystem connectors n → n.IsAscii

theorem mem_managedNodes_iff {objects : List ManagedObject} {n : SchemaNode} :
    n ∈ managedNodes objects ↔ ReachedManaged objects n := by
  simp only [managedNodes, List.mem_flatMap, mem_nodesOf_iff, ReachedManaged]

theorem mem_systemNodes_iff {connectors : List Connector} {n : SchemaNode} :
    n ∈ systemNodes connectors ↔ ReachedSystem connectors n := by
  simp only [systemNodes, List.mem_flatMap, mem_nodesOf_iff, ReachedSystem]

theorem systemNodes_eq (connectors : List Connector) : systemNodes connectors =
    (objectTypesOf connectors).flatMap fun t =>
      nodesOf (Name.systemTypeName t.1 t.2.1) t.2.2.properties := by
  simp only [systemNodes, objectTypesOf, List.flatMap_assoc, List.flatMap_map]

/-! ### Every resource is judged by its nodes -/

section

variable {ascii : Prop} {kind : ValueKind}

theorem judged_inferManagedObject {o : ManagedObject} (ho : ascii → Name.IsAscii o.name.toList)
    (h : ascii → ∀ n ∈ nodesOf (Name.managedTypeName o.name) o.schema.properties, n.IsAscii) :
    Judged .managed ascii (nodesOf (Name.managedTypeName o.name) o.schema.properties)
      (inferManagedObject kind o) := by
  have hname : ascii → Name.managedTypeName o.name ≠ none :=
    fun ha => Name.managedTypeName_ne_none (ho ha)
  refine (Judged.name hname).bind fun typeName hn => ?_
  rw [nameOrError_eq_ok.mp hn] at h ⊢
  exact (judged_properties h).andThen _

theorem judged_inferObjectType {connector objectType : String} {s : Schema}
    (hc : ascii → Name.IsAscii connector.toList) (ht : ascii → Name.IsAscii objectType.toList)
    (h : ascii → ∀ n ∈ nodesOf (Name.systemTypeName connector objectType) s.properties,
      n.IsAscii) :
    Judged .system ascii (nodesOf (Name.systemTypeName connector objectType) s.properties)
      (inferObjectType kind connector objectType s) := by
  have hname : ascii → Name.systemTypeName connector objectType ≠ none :=
    fun ha => Name.systemTypeName_ne_none (hc ha) (ht ha)
  have hvalue : ascii → Name.systemValueName connector objectType ≠ none :=
    fun ha => Name.systemValueName_ne_none (hc ha) (ht ha)
  refine (Judged.name hname).bind fun typeName hn => ?_
  rw [nameOrError_eq_ok.mp hn] at h ⊢
  rw [← List.append_nil (nodesOf _ _)]
  exact (judged_properties h).bind fun _ _ => (Judged.name hvalue).andThen _

/-- What is judged one by one is judged together. -/
theorem judged_inferEach {family : Family} {α β : Type} {nodes : α → List SchemaNode}
    {infer : α → Except InferenceError (Inferred β)} : ∀ {as : List α},
    (∀ a ∈ as, Judged family ascii (nodes a) (infer a)) →
    Judged family ascii (as.flatMap nodes) (inferEach infer as)
  | [], _ => .accepted (List.forall_mem_nil _)
  | a :: as, h => by
    rw [List.flatMap_cons]
    refine (h a List.mem_cons_self).bind fun x _ => ?_
    exact (judged_inferEach fun b hb => h b (List.mem_cons_of_mem _ hb)).andThen _

theorem judged_managedResources {objects sorted : List ManagedObject}
    (hs : SortsTo (·.name) objects sorted) :
    Judged .managed (AsciiManaged objects) (managedNodes sorted)
      (managedResources kind objects) := by
  unfold managedResources
  rw [inferManaged_eq, ← hs.eq_sortOn]
  refine Judged.andThen (judged_inferEach fun o ho => ?_) _
  have ho := hs.mem_iff.mp ho
  exact judged_inferManagedObject (fun ha => ha.1 o ho)
    fun ha n hn => ha.2 n ⟨o, ho, mem_nodesOf_iff.mp hn⟩

theorem judged_systemResources {connectors : List Connector} :
    Judged .system (AsciiSystem connectors) (systemNodes connectors)
      (systemResources kind connectors) := by
  unfold systemResources
  rw [inferSystem_eq, systemNodes_eq]
  refine Judged.andThen (judged_inferEach fun t ht => ?_) _
  obtain ⟨c, hc, hct⟩ := List.mem_flatMap.mp ht
  obtain ⟨u, hu, rfl⟩ := List.mem_map.mp hct
  exact judged_inferObjectType (fun ha => (ha.1 c hc).1) (fun ha => (ha.1 c hc).2 u hu)
    fun ha n hn => ha.2 n ⟨c, hc, u, hu, mem_nodesOf_iff.mp hn⟩

end

/-! ### The fault that is reported -/

/-- A result says whether all nodes that are reached are supported, and if not, which
fault the first of them has in the order of the walk. -/
structure FirstFaultReported (family : Family) (IsReached : SchemaNode → Prop)
    (walk : List SchemaNode) {α : Type} (r : Except InferenceError α) : Prop where
  mem_walk_iff : ∀ n, n ∈ walk ↔ IsReached n
  ok_iff : (∃ x, r = .ok x) ↔ ∀ n, IsReached n → n.schema.IsSupported family
  error_iff : ∀ e, r = .error e ↔
    ∃ n, firstUnsupported family walk = some n ∧ n.HasFault family e

namespace Judged

variable {family : Family} {ascii : Prop} {walk : List SchemaNode} {α : Type}
  {r : Except InferenceError α}

/-- Names of ASCII have words. -/
theorem ne_unsplittableName (h : Judged family ascii walk r) (ha : ascii) :
    r ≠ .error .unsplittableName := by
  rintro rfl
  cases h with
  | refused _ he => exact SchemaNode.not_hasFault_unsplittableName he
  | unsplit hna => exact hna ha

/-- Where all names have words, the first fault is reported. -/
theorem firstFaultReported (h : Judged family ascii walk r) (hr : r ≠ .error .unsplittableName)
    {IsReached : SchemaNode → Prop} (hw : ∀ n, n ∈ walk ↔ IsReached n) :
    FirstFaultReported family IsReached walk r := by
  have hall : (∀ n, IsReached n → n.schema.IsSupported family) ↔
      firstUnsupported family walk = none := by
    simp [firstUnsupported, hw]
  cases h with
  | accepted hs =>
    have hnone : firstUnsupported family walk = none := hall.mp fun n hn => hs n ((hw n).mpr hn)
    exact ⟨hw, by simp [hall, hnone], by simp [hnone]⟩
  | refused hn he =>
    refine ⟨hw, by simp [hall, hn], fun e => ?_⟩
    rw [hn, Except.error.injEq]
    constructor
    · rintro rfl
      exact ⟨_, rfl, he⟩
    · rintro ⟨n, hn', he'⟩
      cases hn'
      exact he.unique he'
  | unsplit => exact absurd rfl hr

end Judged

/-- **The resources of a configuration are inferred exactly if all schemas reached are
supported**, and else the fault of the first one that is not is reported: of the managed
object that comes first in the order of the names, and among objects with the same name
in the order of the document; of the connector and the object type that come first. The
one exception is that a name cannot be made, which does not happen to names of ASCII. -/
theorem resources_firstFaultReported (kind : ValueKind) (objects : List ManagedObject)
    (connectors : List Connector) :
    (∀ sorted, SortsTo (·.name) objects sorted →
        managedResources kind objects ≠ .error .unsplittableName →
        FirstFaultReported .managed (ReachedManaged objects) (managedNodes sorted)
          (managedResources kind objects)) ∧
      (systemResources kind connectors ≠ .error .unsplittableName →
        FirstFaultReported .system (ReachedSystem connectors) (systemNodes connectors)
          (systemResources kind connectors)) ∧
      (AsciiManaged objects → managedResources kind objects ≠ .error .unsplittableName) ∧
      (AsciiSystem connectors → systemResources kind connectors ≠ .error .unsplittableName) := by
  refine ⟨fun sorted hs hr => ?_, fun hr => ?_, ?_, ?_⟩
  · refine (judged_managedResources hs).firstFaultReported hr fun n => ?_
    simp only [mem_managedNodes_iff, ReachedManaged, hs.mem_iff]
  · exact judged_systemResources.firstFaultReported hr fun n => mem_systemNodes_iff
  · exact (judged_managedResources (sortOn_sortsTo objects)).ne_unsplittableName
  · exact judged_systemResources.ne_unsplittableName

/-- Faults in two managed objects, the second of which has the smaller name: there the
items of an array inside an object have two types. -/
def faultyObjects : List ManagedObject :=
  [⟨"zeta", { properties := [("created", { type := some (.single "date") })] }⟩,
    ⟨"alpha", { properties := [
      ("address", { type := some (.union ["object", "null"]), properties := [
        ("city", { type := some (.single "string") }),
        ("tags", { type := some (.single "array"), items := some {
          type := some (.union ["string", "number"]) } })] }),
      ("untyped", {})] }⟩]

/-- A relationship inside an object of a connector. -/
def faultyConnectors : List Connector :=
  [⟨"ldap", [("account", { properties := [
    ("unit", { type := some (.single "object"), properties := [
      ("head", { type := some (.single "relationship") })] })] })]⟩]

theorem resources_firstFaultReported_faulty :
    managedResources .unknown faultyObjects =
        .error (.unsupportedUnion ["string", "number"] "tags") ∧
      (∃ n, firstUnsupported .managed (managedNodes faultyObjects.reverse) = some n ∧
        n.HasFault .managed (.unsupportedUnion ["string", "number"] "tags")) ∧
      systemResources .unknown faultyConnectors =
        .error (.relationshipNotAllowed "SubSystemLdapAccountUnit" "head") ∧
      ¬ ∀ n, ReachedSystem faultyConnectors n → n.schema.IsSupported .system := by
  have hm : managedResources .unknown faultyObjects =
      .error (.unsupportedUnion ["string", "number"] "tags") := by decide +kernel
  have hs : systemResources .unknown faultyConnectors =
      .error (.relationshipNotAllowed "SubSystemLdapAccountUnit" "head") := by decide +kernel
  have hsorted : faultyObjects.reverse = sortOn (·.name) faultyObjects := rfl
  obtain ⟨hmanaged, hsystem, -⟩ :=
    resources_firstFaultReported .unknown faultyObjects faultyConnectors
  have hmanaged := hmanaged _ (hsorted ▸ sortOn_sortsTo faultyObjects) (by rw [hm]; decide)
  have hsystem := hsystem (by rw [hs]; decide)
  refine ⟨hm, (hmanaged.error_iff _).mp hm, hs, fun h => ?_⟩
  obtain ⟨set, hset⟩ := hsystem.ok_iff.mpr h
  rw [hs] at hset
  cases hset

end IdentityTypes
