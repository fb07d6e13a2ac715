/-
# Faults of schemas

Inference fails for one of two reasons. A name has no words, which cannot happen to
names of ASCII, or a schema is met that its family does not support. In that case the
error is that of the first such schema in the order of the walk. `Judged` states this
of a result and of the nodes that are met for it. It is kept when one part of a
computation follows another, and so it passes from the parts of a schema to the schema.

Key definitions: `SchemaNode.HasFault`, `firstUnsupported`, `Judged`.
Key theorems: `Judged.bind`, `hasKind_or_hasFault`, `judged_type`, `judged_properties`.
-/
import IdentityTypes.Proofs.Inference.Rules
import IdentityTypes.Proofs.Inference.Walk
import IdentityTypes.Proofs.Name.Words

namespace IdentityTypes

/-! ### Faults -/

/-- The errors that an unsupported node may be reported with. -/
inductive SchemaNode.HasFault (family : Family) (n : SchemaNode) : InferenceError → Prop
  | missingType : n.schema.type = none → HasFault family n (.missingType n.property)
  | unsupportedUnion {tags : List String} : n.schema.type = some (.union tags) →
    (∀ tag, tags ≠ [tag, "null"]) → HasFault family n (.unsupportedUnion tags n.property)
  | unsupportedType {tag : String} : IsOf n.schema.type tag → tag ∉ Family.managed.tags →
    HasFault family n (.unsupportedType tag n.property)
  | relationshipNotAllowed {owner : String} : family = .system →
    IsOf n.schema.type "relationship" → n.owner = some owner →
    HasFault family n (.relationshipNotAllowed owner n.property)

/-- The first node that the family does not support. -/
def firstUnsupported (family : Family) (nodes : List SchemaNode) : Option SchemaNode :=
  nodes.find? fun n => ¬ n.schema.IsSupported family

namespace SchemaNode

variable {family : Family} {n : SchemaNode} {e e' : InferenceError}

/-- A node has one fault at most. -/
theorem HasFault.unique (h : n.HasFault family e) (h' : n.HasFault family e') : e = e' := by
  cases h with
  | missingType ht =>
    cases h' with
    | missingType => rfl
    | unsupportedUnion ht' => rw [ht] at ht'; cases ht'
    | unsupportedType htag => exact absurd ht htag.ne_none
    | relationshipNotAllowed _ htag => exact absurd ht htag.ne_none
  | unsupportedUnion ht hne =>
    cases h' with
    | missingType ht' => rw [ht] at ht'; cases ht'
    | unsupportedUnion ht' => rw [ht] at ht'; cases ht'; rfl
    | unsupportedType htag => exact absurd (htag.eq_pair ht) (hne _)
    | relationshipNotAllowed _ htag => exact absurd (htag.eq_pair ht) (hne _)
  | unsupportedType htag hnot =>
    cases h' with
    | missingType ht => exact absurd ht htag.ne_none
    | unsupportedUnion ht hne => exact absurd (htag.eq_pair ht) (hne _)
    | unsupportedType htag' => rw [htag.unique htag']
    | relationshipNotAllowed _ htag' => exact absurd (htag'.unique htag ▸ by decide) hnot
  | relationshipNotAllowed _ htag ho =>
    cases h' with
    | missingType ht => exact absurd ht htag.ne_none
    | unsupportedUnion ht hne => exact absurd (htag.eq_pair ht) (hne _)
    | unsupportedType htag' hnot => exact absurd (htag.unique htag' ▸ by decide) hnot
    | relationshipNotAllowed _ _ ho' => rw [Option.some.inj (ho.symm.trans ho')]

/-- What has a fault is not supported. -/
theorem HasFault.not_isSupported (h : n.HasFault family e) : ¬ n.schema.IsSupported family := by
  rintro ⟨tag, hmem, htag⟩
  have hsub : tag ∈ Family.managed.tags := by
    cases family with
    | managed => exact hmem
    | system => exact List.mem_append_left ["relationship"] hmem
  cases h with
  | missingType ht => exact htag.ne_none ht
  | unsupportedUnion ht hne => exact hne _ (htag.eq_pair ht)
  | unsupportedType htag' hnot => exact hnot (htag.unique htag' ▸ hsub)
  | relationshipNotAllowed hf htag' =>
    subst hf
    rw [htag.unique htag'] at hmem
    exact absurd hmem (by decide)

theorem not_hasFault_unsplittableName : ¬ n.HasFault family .unsplittableName := nofun

end SchemaNode

/-! ### Results that report the first fault -/

/-- How a computation ends that meets some nodes: with a value if all of them are
supported, else with the fault of the first that is not. Besides, where names are not
`ascii`, it may end because one of them has no words. -/
inductive Judged (family : Family) (ascii : Prop) (nodes : List SchemaNode) {α : Type} :
    Except InferenceError α → Prop
  | accepted {x : α} : (∀ n ∈ nodes, n.schema.IsSupported family) →
    Judged family ascii nodes (.ok x)
  | refused {n : SchemaNode} {e : InferenceError} : firstUnsupported family nodes = some n →
    n.HasFault family e → Judged family ascii nodes (.error e)
  | unsplit : ¬ ascii → Judged family ascii nodes (.error .unsplittableName)

namespace Judged

variable {family : Family} {ascii : Prop} {nodes nodes' : List SchemaNode} {α β : Type}

/-- A computation that is followed by another. -/
theorem bind {r : Except InferenceError α} {f : α → Except InferenceError β}
    (h : Judged family ascii nodes r) (hf : ∀ x, r = .ok x → Judged family ascii nodes' (f x)) :
    Judged family ascii (nodes ++ nodes') (r >>= f) := by
  cases h with
  | @accepted x hs =>
    have hnone : firstUnsupported family nodes = none :=
      List.find?_eq_none.mpr fun n hn => by simpa using hs n hn
    show Judged family ascii (nodes ++ nodes') (f x)
    cases hr : f x with
    | ok y =>
      have hf := hr ▸ hf x rfl
      cases hf with
      | accepted hs' => exact .accepted (List.forall_mem_append.mpr ⟨hs, hs'⟩)
    | error e =>
      have hf := hr ▸ hf x rfl
      cases hf with
      | refused hn he =>
        refine .refused ?_ he
        rwa [firstUnsupported, List.find?_append, ← firstUnsupported, hnone]
      | unsplit ha => exact .unsplit ha
  | refused hn he =>
    refine .refused ?_ he
    rw [firstUnsupported, List.find?_append, ← firstUnsupported, hn]
    rfl
  | unsplit ha => exact .unsplit ha

/-- What is made of the value does not matter. -/
theorem map {r : Except InferenceError α} (h : Judged family ascii nodes r) (f : α → β) :
    Judged family ascii nodes (r.map f) := by
  cases h with
  | accepted hs => exact .accepted hs
  | refused hn he => exact .refused hn he
  | unsplit ha => exact .unsplit ha

theorem andThen {r : Except InferenceError α} (h : Judged family ascii nodes r) (f : α → β) :
    Judged family ascii nodes (r >>= fun x => .ok (f x)) := by
  cases r <;> exact h.map f

/-- A node that is supported comes before others. -/
theorem cons {r : Except InferenceError α} {n : SchemaNode} (hn : n.schema.IsSupported family)
    (h : Judged family ascii nodes r) : Judged family ascii (n :: nodes) r := by
  have hone : Judged family ascii [n] (.ok () : Except InferenceError Unit) :=
    .accepted (List.forall_mem_singleton.mpr hn)
  exact hone.bind fun _ _ => h

/-- A node with a fault ends the walk. -/
theorem stop {n : SchemaNode} {e : InferenceError} (he : n.HasFault family e) :
    Judged family ascii (n :: nodes) (.error e : Except InferenceError α) := by
  refine .refused ?_ he
  rw [firstUnsupported, List.find?_cons_of_pos (by simpa using he.not_isSupported)]

/-- A name is made, or there are names that are not ASCII. -/
theorem name {n : Option String} (h : ascii → n ≠ none) :
    Judged family ascii [] (nameOrError n) := by
  cases n with
  | none => exact .unsplit fun ha => h ha rfl
  | some n => exact .accepted (List.forall_mem_nil _)

end Judged

/-! ### Names of ASCII -/

/-- The names that a node brings along are of ASCII. -/
def SchemaNode.IsAscii (n : SchemaNode) : Prop :=
  Name.IsAscii n.property.toList ∧ ∀ c ∈ n.schema.collections, Name.IsAscii c.path.toList

namespace Name

theorem managedTypeName_ne_none {object : String} (h : IsAscii object.toList) :
    managedTypeName object ≠ none := by
  obtain ⟨o, ho⟩ := exists_typeName_of_ascii h
  simp [managedTypeName, ho]

theorem systemTypeName_ne_none {connector objectType : String} (hc : IsAscii connector.toList)
    (ht : IsAscii objectType.toList) : systemTypeName connector objectType ≠ none := by
  obtain ⟨c, hc⟩ := exists_typeName_of_ascii hc
  obtain ⟨t, ht⟩ := exists_typeName_of_ascii ht
  simp [systemTypeName, hc, ht]

theorem systemValueName_ne_none {connector objectType : String} (hc : IsAscii connector.toList)
    (ht : IsAscii objectType.toList) : systemValueName connector objectType ≠ none := by
  obtain ⟨c, hc⟩ := exists_valueName_of_ascii hc
  obtain ⟨t, ht⟩ := exists_typeName_of_ascii ht
  simp [systemValueName, hc, ht]

theorem subTypeName_ne_none {parent property : String} (h : IsAscii property.toList) :
    subTypeName parent property ≠ none := by
  obtain ⟨p, hp⟩ := exists_typeName_of_ascii h
  simp [subTypeName, hp]

end Name

theorem ResourceCollection.isAscii_managedName {c : ResourceCollection} {name : String}
    (h : Name.IsAscii c.path.toList) (hn : c.managedName = some name) :
    Name.IsAscii name.toList := by
  rw [managedName, Text.dropStart?_eq_some] at hn
  rw [hn, String.toList_append] at h
  exact fun d hd => h d (List.mem_append_right _ hd)

/-! ### Schemas -/

section

variable {family : Family} {ascii : Prop} {kind : ValueKind}

theorem judged_mapM_managedTypeName : ∀ {names : List String},
    (ascii → ∀ name ∈ names, Name.IsAscii name.toList) →
    Judged family ascii [] (names.mapM fun name => nameOrError (Name.managedTypeName name))
  | [], _ => .accepted (List.forall_mem_nil _)
  | name :: names, h => by
    have hname : ascii → Name.managedTypeName name ≠ none :=
      fun ha => Name.managedTypeName_ne_none (h ha _ List.mem_cons_self)
    have hnames : ascii → ∀ name ∈ names, Name.IsAscii name.toList :=
      fun ha n hn => h ha n (List.mem_cons_of_mem _ hn)
    rw [List.mapM_cons]
    exact (Judged.name hname).bind fun _ _ => (judged_mapM_managedTypeName hnames).andThen _

/-- The targets of a relationship have names, or there are names that are not ASCII. -/
theorem judged_targetNames {collections : List ResourceCollection}
    (h : ascii → ∀ c ∈ collections, Name.IsAscii c.path.toList) :
    Judged family ascii [] (targetNames collections) := by
  refine judged_mapM_managedTypeName fun ha name hname => ?_
  obtain ⟨c, hc, hn⟩ := List.mem_filterMap.mp hname
  exact c.isAscii_managedName (h ha c hc) hn

/-- A relationship is supported for managed objects only. -/
theorem judged_relationship {n : SchemaNode} {owner : String} {nullable : Bool}
    (hk : n.schema.HasKind .relationship nullable) (ho : n.owner = some owner)
    (h : ascii → n.IsAscii) : Judged family ascii [n]
      (inferRelationship family kind n.property owner n.schema.collections) := by
  have htag : IsOf n.schema.type "relationship" := (hk.isOf_iff rfl).mpr rfl
  cases family with
  | system => exact .stop (.relationshipNotAllowed rfl htag ho)
  | managed =>
    refine Judged.cons ⟨_, by decide, htag⟩ ?_
    unfold inferRelationship
    refine (judged_targetNames fun ha => (h ha).2).bind fun names _ => ?_
    cases names <;> exact .accepted (List.forall_mem_nil _)

/-- A schema without an effective type has a fault. -/
theorem hasFault_of_effectiveType {n : SchemaNode} {e : InferenceError}
    (h : effectiveType n.schema.type n.property = .error e) : n.HasFault family e := by
  unfold effectiveType at h
  split at h
  · rename_i ht
    cases h
    exact .missingType ht
  · cases h
  · rename_i tag other ht
    split_ifs at h with hn
    cases h
    exact .unsupportedUnion ht (by simp [hn])
  · rename_i tags hne ht
    cases h
    exact .unsupportedUnion ht fun tag he => hne _ _ he

/-- A schema of any kind but a relationship is supported for both families. -/
theorem Schema.HasKind.isSupported {s : Schema} {k : SchemaKind} {nullable : Bool}
    (h : s.HasKind k nullable) (hk : k ≠ .relationship) : s.IsSupported family := by
  obtain ⟨tag, hmem, htag⟩ := h.isOf
  have hsub : ∀ t ∈ k.tags, t ∈ family.tags := by
    cases k with
    | relationship => exact absurd rfl hk
    | _ => cases family <;> decide
  exact ⟨tag, hsub tag hmem, htag⟩

/-- A schema has a kind, or a fault that inference ends with. -/
theorem hasKind_or_hasFault (family : Family) (kind : ValueKind) (owner : String) (n : SchemaNode) :
    (∃ k nullable, n.schema.HasKind k nullable) ∨
      ∃ e, n.HasFault family e ∧ inferType family kind n.property owner n.schema = .error e := by
  cases heff : effectiveType n.schema.type n.property with
  | error e => exact .inr ⟨e, hasFault_of_effectiveType heff, inferType_noType heff⟩
  | ok v =>
    obtain ⟨tag, nullable⟩ := v
    cases hk : SchemaKind.ofTag? tag with
    | some k => exact .inl ⟨k, nullable, hasKind_of_effectiveType heff hk⟩
    | none =>
      have htag : IsOf n.schema.type tag := isOf_iff.mpr ⟨nullable, effectiveType_eq_ok.mp heff⟩
      exact .inr ⟨_, .unsupportedType htag (SchemaKind.ofTag?_eq_none.mp hk),
        inferType_noKind heff hk⟩

mutual

/-- The type of a property is judged by the nodes at and below it. -/
theorem judged_type {property owner : String} : ∀ {s : Schema},
    (ascii → ∀ n ∈ nodesAt (some owner) property s, n.IsAscii) →
    Judged family ascii (nodesAt (some owner) property s) (inferType family kind property owner s)
  | ⟨type, title, description, properties, required, items, collections, rbd⟩, h => by
    rcases hasKind_or_hasFault family kind owner ⟨some owner, property, ⟨type, title, description,
      properties, required, items, collections, rbd⟩⟩ with ⟨k, nullable, hk⟩ | ⟨e, he, hr⟩
    · cases k with
      | object =>
        rw [nodesAt_object hk] at h ⊢
        refine Judged.cons (hk.isSupported (by decide)) ?_
        by_cases hp : properties = []
        · subst hp
          rw [inferType_openMap hk rfl]
          exact .accepted (List.forall_mem_nil _)
        · have hname : ascii → Name.subTypeName owner property ≠ none :=
            fun ha => Name.subTypeName_ne_none (h ha _ List.mem_cons_self).1
          rw [inferType_object hk hp]
          refine (Judged.name hname).bind (fun name hn => ?_)
          have hn : Name.subTypeName owner property = some name := nameOrError_eq_ok.mp hn
          simp only [Option.bind_some, hn] at h ⊢
          exact (judged_properties fun ha n hn => h ha n (List.mem_cons_of_mem _ hn)).andThen _
      | array =>
        rw [nodesAt_array hk] at h ⊢
        rw [inferType_array hk]
        refine Judged.cons (hk.isSupported (by decide)) ?_
        refine (judged_item fun ha n hn => h ha n (List.mem_cons_of_mem _ hn)).andThen _
      | relationship =>
        rw [nodesAt_leaf hk (by decide) (by decide)] at h ⊢
        rw [inferType_relationship hk]
        exact (judged_relationship hk rfl fun ha => h ha _ List.mem_cons_self).andThen _
      | boolean | number | string =>
        rw [nodesAt_leaf hk (by decide) (by decide), inferType_primitive hk rfl]
        exact .accepted (List.forall_mem_singleton.mpr (hk.isSupported (by decide)))
    · rw [nodesAt_eq, hr]
      exact .stop he

/-- The type of an array is judged by the nodes of its items. -/
theorem judged_item {property owner : String} : ∀ {items : Option Schema},
    (ascii → ∀ n ∈ nodesOfItem (some owner) property items, n.IsAscii) →
    Judged family ascii (nodesOfItem (some owner) property items)
      (inferItems family kind property owner items)
  | none, _ => .accepted (List.forall_mem_nil _)
  | some s, h => by
    rw [nodesOfItem] at h ⊢
    unfold inferItems
    by_cases hs : s.type.isSome
    · rw [if_pos hs] at h ⊢
      rw [if_pos hs]
      exact (judged_type h).map _
    · rw [if_neg hs, if_neg hs]
      exact .accepted (List.forall_mem_nil _)

/-- Properties are judged by the nodes at and below them. -/
theorem judged_properties {owner : String} {required : List String} :
    ∀ {properties : List (String × Schema)},
    (ascii → ∀ n ∈ nodesOf (some owner) properties, n.IsAscii) →
    Judged family ascii (nodesOf (some owner) properties)
      (inferProperties family kind owner required properties)
  | [], _ => .accepted (List.forall_mem_nil _)
  | (name, s) :: rest, h => by
    rw [nodesOf] at h ⊢
    unfold inferProperties
    refine (judged_type fun ha n hn => h ha n (List.mem_append_left _ hn)).bind fun type _ => ?_
    exact (judged_properties fun ha n hn => h ha n (List.mem_append_right _ hn)).andThen _

end

end

end IdentityTypes
