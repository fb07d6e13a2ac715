/-
# One resource after the other

The resources of a family are inferred one after the other, each on its own: what
comes out is what is inferred of each resource, put together in order, and there
is nothing if one resource fails. So the order in which resources are taken changes
the order of the results, and not more.

Key definitions: `Inferred.gather`, `inferEach`.
Key theorems: `inferEach_eq_ok`, `inferEach_perm`, `managedResources_eq_ok`,
`systemResources_eq_ok`, `forall_of_managedResources`, `forall_of_systemResources`.
-/
import IdentityTypes.Resources
import IdentityTypes.Proofs.Inference.Invariant
import IdentityTypes.Proofs.Sorting
import Mathlib.Data.List.Perm.Basic

namespace IdentityTypes

variable {α β : Type}

namespace Inferred

/-- Results put together in their order. -/
def gather : List (Inferred α) → Inferred (List α)
  | [] => plain []
  | x :: xs => cons x (gather xs)

theorem gather_value : ∀ xs : List (Inferred α), (gather xs).value = xs.map (·.value)
  | [] => rfl
  | x :: xs => congrArg (x.value :: ·) (gather_value xs)

theorem gather_subTypes : ∀ xs : List (Inferred α),
    (gather xs).subTypes = xs.flatMap (·.subTypes)
  | [] => rfl
  | x :: xs => congrArg (x.subTypes ++ ·) (gather_subTypes xs)

theorem gather_warnings : ∀ xs : List (Inferred α),
    (gather xs).warnings = xs.flatMap (·.warnings)
  | [] => rfl
  | x :: xs => congrArg (x.warnings ++ ·) (gather_warnings xs)

end Inferred

/-! ### Every resource on its own -/

/-- What `infer` makes of each element, put together. -/
def inferEach (infer : α → Except InferenceError (Inferred β)) :
    List α → Except InferenceError (Inferred (List β))
  | [] => .ok (.plain [])
  | a :: as => do
    let x ← infer a
    let others ← inferEach infer as
    .ok (.cons x others)

theorem inferManaged_eq (kind : ValueKind) : ∀ os : List ManagedObject,
    inferManaged kind os = inferEach (inferManagedObject kind) os
  | [] => rfl
  | o :: os => by simp only [inferManaged, inferEach, inferManaged_eq kind os]

theorem inferSystem_eq (kind : ValueKind) : ∀ os : List (String × String × Schema),
    inferSystem kind os = inferEach (fun o => inferObjectType kind o.1 o.2.1 o.2.2) os
  | [] => rfl
  | (connector, objectType, schema) :: os => by
    simp only [inferSystem, inferEach, inferSystem_eq kind os]

theorem exists_of_mem_right {r : α → β → Prop} : ∀ {as : List α} {bs : List β},
    List.Forall₂ r as bs → ∀ b ∈ bs, ∃ a ∈ as, r a b
  | _, _, .nil, b, hb => nomatch hb
  | _, _, .cons h hs, b, hb => by
    rcases List.mem_cons.mp hb with rfl | hb
    · exact ⟨_, List.mem_cons_self, h⟩
    · obtain ⟨a, ha, h⟩ := exists_of_mem_right hs b hb
      exact ⟨a, List.mem_cons_of_mem _ ha, h⟩

variable {infer : α → Except InferenceError (Inferred β)}

/-- Inference succeeds if it does so for each element, with the results put
together. -/
theorem inferEach_eq_ok : ∀ {as : List α} {x : Inferred (List β)}, inferEach infer as = .ok x ↔
    ∃ xs, List.Forall₂ (fun a y => infer a = .ok y) as xs ∧ x = .gather xs
  | [], x => by
    constructor
    · intro h
      cases h; exact ⟨[], .nil, rfl⟩
    · rintro ⟨xs, h, rfl⟩
      cases h; rfl
  | a :: as, x => by
    constructor
    · intro h
      obtain ⟨y, hy, h⟩ := bind_eq_ok.mp h
      obtain ⟨others, hothers, h⟩ := bind_eq_ok.mp h
      obtain ⟨ys, hys, rfl⟩ := inferEach_eq_ok.mp hothers
      cases h
      exact ⟨y :: ys, .cons hy hys, rfl⟩
    · rintro ⟨xs, h, rfl⟩
      obtain - | @⟨_, y, _, ys, hy, hys⟩ := h
      refine bind_eq_ok.mpr ⟨y, hy, bind_eq_ok.mpr ⟨.gather ys, ?_, rfl⟩⟩
      exact inferEach_eq_ok.mpr ⟨ys, hys, rfl⟩

/-- Another order of the elements gives another order of the results. -/
theorem inferEach_perm {as bs : List α} (h : as.Perm bs) {x : Inferred (List β)}
    (hx : inferEach infer as = .ok x) : ∃ y, inferEach infer bs = .ok y ∧
      x.value.Perm y.value ∧ x.subTypes.Perm y.subTypes ∧ x.warnings.Perm y.warnings := by
  obtain ⟨xs, hxs, rfl⟩ := inferEach_eq_ok.mp hx
  obtain ⟨ys, hys, hp⟩ := List.perm_comp_forall₂ h.symm hxs
  refine ⟨.gather ys, inferEach_eq_ok.mpr ⟨ys, hys, rfl⟩, ?_, ?_, ?_⟩
  · rw [Inferred.gather_value, Inferred.gather_value]
    exact hp.symm.map _
  · rw [Inferred.gather_subTypes, Inferred.gather_subTypes]
    exact hp.symm.flatMap_right _
  · rw [Inferred.gather_warnings, Inferred.gather_warnings]
    exact hp.symm.flatMap_right _

/-! ### The resources of the two families -/

theorem inferManagedObject_eq_ok {kind : ValueKind} {o : ManagedObject}
    {x : Inferred ManagedResource} : inferManagedObject kind o = .ok x ↔
      ∃ typeName properties, Name.managedTypeName o.name = some typeName ∧
        inferProperties .managed kind typeName o.schema.required o.schema.properties =
          .ok properties ∧
        x = properties.map fun properties => { name := o.name, typeName, properties } := by
  constructor
  · intro h
    obtain ⟨typeName, hn, h⟩ := bind_eq_ok.mp h
    obtain ⟨properties, hp, h⟩ := bind_eq_ok.mp h
    cases h
    exact ⟨typeName, properties, nameOrError_eq_ok.mp hn, hp, rfl⟩
  · rintro ⟨typeName, properties, hn, hp, rfl⟩
    exact bind_eq_ok.mpr ⟨typeName, nameOrError_eq_ok.mpr hn, bind_eq_ok.mpr ⟨properties, hp, rfl⟩⟩

theorem inferObjectType_eq_ok {kind : ValueKind} {connector objectType : String} {s : Schema}
    {x : Inferred SystemResource} : inferObjectType kind connector objectType s = .ok x ↔
      ∃ typeName valueName properties, Name.systemTypeName connector objectType = some typeName ∧
        Name.systemValueName connector objectType = some valueName ∧
        inferProperties .system kind typeName s.required s.properties = .ok properties ∧
        x = properties.map fun properties =>
          { connector, objectType, fullName := connector ++ "/" ++ objectType, valueName, typeName,
            properties } := by
  constructor
  · intro h
    obtain ⟨typeName, hn, h⟩ := bind_eq_ok.mp h
    obtain ⟨properties, hp, h⟩ := bind_eq_ok.mp h
    obtain ⟨valueName, hv, h⟩ := bind_eq_ok.mp h
    cases h
    exact ⟨typeName, valueName, properties, nameOrError_eq_ok.mp hn, nameOrError_eq_ok.mp hv, hp,
      rfl⟩
  · rintro ⟨typeName, valueName, properties, hn, hv, hp, rfl⟩
    exact bind_eq_ok.mpr ⟨typeName, nameOrError_eq_ok.mpr hn, bind_eq_ok.mpr ⟨properties, hp,
      bind_eq_ok.mpr ⟨valueName, nameOrError_eq_ok.mpr hv, rfl⟩⟩⟩

/-- The managed resources are those of the objects in the order of their names. -/
theorem managedResources_eq_ok {kind : ValueKind} {objects : List ManagedObject}
    {set : ResourceSet ManagedResource} : managedResources kind objects = .ok set ↔
      ∃ xs, List.Forall₂ (fun o x => inferManagedObject kind o = .ok x)
          (sortOn (·.name) objects) xs ∧
        set = .ofInferred (.gather xs) := by
  unfold managedResources
  rw [inferManaged_eq]
  constructor
  · intro h
    obtain ⟨x, hx, h⟩ := bind_eq_ok.mp h
    obtain ⟨xs, hxs, rfl⟩ := inferEach_eq_ok.mp hx
    cases h
    exact ⟨xs, hxs, rfl⟩
  · rintro ⟨xs, hxs, rfl⟩
    exact bind_eq_ok.mpr ⟨_, inferEach_eq_ok.mpr ⟨xs, hxs, rfl⟩, rfl⟩

/-- The resources of connectors are those of their object types, sorted afterwards. -/
theorem systemResources_eq_ok {kind : ValueKind} {connectors : List Connector}
    {set : ResourceSet SystemResource} : systemResources kind connectors = .ok set ↔
      ∃ xs, List.Forall₂ (fun o x => inferObjectType kind o.1 o.2.1 o.2.2 = .ok x)
          (objectTypesOf connectors) xs ∧
        set = .ofInferred ((Inferred.gather xs).map (sortOn (·.fullName))) := by
  unfold systemResources
  rw [inferSystem_eq]
  constructor
  · intro h
    obtain ⟨x, hx, h⟩ := bind_eq_ok.mp h
    obtain ⟨xs, hxs, rfl⟩ := inferEach_eq_ok.mp hx
    cases h
    exact ⟨xs, hxs, rfl⟩
  · rintro ⟨xs, hxs, rfl⟩
    exact bind_eq_ok.mpr ⟨_, inferEach_eq_ok.mpr ⟨xs, hxs, rfl⟩, rfl⟩

section

variable {S : SubType → Prop} {kind : ValueKind}

/-- What is true of the resource of each managed object and of the sub types made for it is
true of all. -/
theorem forall_of_managedResources {R : ManagedResource → Prop} {objects : List ManagedObject}
    {set : ResourceSet ManagedResource} (h : managedResources kind objects = .ok set)
    (hone : ∀ {o : ManagedObject} {typeName : String} {x : Inferred (List Property)},
      Name.managedTypeName o.name = some typeName →
      inferProperties .managed kind typeName o.schema.required o.schema.properties = .ok x →
      R ⟨o.name, typeName, x.value⟩ ∧ ∀ t ∈ x.subTypes, S t) :
    (∀ r ∈ set.resources, R r) ∧ ∀ t ∈ set.subTypes, S t := by
  obtain ⟨xs, hxs, rfl⟩ := managedResources_eq_ok.mp h
  have hx : ∀ x ∈ xs, R x.value ∧ ∀ t ∈ x.subTypes, S t := by
    intro x hx
    obtain ⟨o, -, ho⟩ := exists_of_mem_right hxs x hx
    obtain ⟨typeName, properties, hn, hp, rfl⟩ := inferManagedObject_eq_ok.mp ho
    exact hone hn hp
  simp only [ResourceSet.ofInferred, mem_sortOn, Inferred.gather_value, Inferred.gather_subTypes]
  exact ⟨List.forall_mem_map.mpr fun x h => (hx x h).1,
    List.forall_mem_flatMap.mpr fun x h => (hx x h).2⟩

/-- What is true of the resource of each object type and of the sub types made for it is true
of all. -/
theorem forall_of_systemResources {R : SystemResource → Prop} {connectors : List Connector}
    {set : ResourceSet SystemResource} (h : systemResources kind connectors = .ok set)
    (hone : ∀ {connector objectType valueName typeName : String} {s : Schema}
      {x : Inferred (List Property)}, Name.systemTypeName connector objectType = some typeName →
      inferProperties .system kind typeName s.required s.properties = .ok x →
      R ⟨connector, objectType, connector ++ "/" ++ objectType, valueName, typeName, x.value⟩ ∧
        ∀ t ∈ x.subTypes, S t) :
    (∀ r ∈ set.resources, R r) ∧ ∀ t ∈ set.subTypes, S t := by
  obtain ⟨xs, hxs, rfl⟩ := systemResources_eq_ok.mp h
  have hx : ∀ x ∈ xs, R x.value ∧ ∀ t ∈ x.subTypes, S t := by
    intro x hx
    obtain ⟨o, -, ho⟩ := exists_of_mem_right hxs x hx
    obtain ⟨typeName, valueName, properties, hn, -, hp, rfl⟩ := inferObjectType_eq_ok.mp ho
    exact hone hn hp
  simp only [ResourceSet.ofInferred, Inferred.map, mem_sortOn, Inferred.gather_value,
    Inferred.gather_subTypes]
  exact ⟨List.forall_mem_map.mpr fun x h => (hx x h).1,
    List.forall_mem_flatMap.mpr fun x h => (hx x h).2⟩

end

end IdentityTypes
