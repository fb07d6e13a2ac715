/-
# The nodes of a schema

A schema is walked from its properties downwards: to the properties of the objects
in it, and to the items of the arrays in it if they have a type. `Reached` says which
schemas are met, and `nodesOf` lists them in the order of the walk, a node before the
nodes below it. With each goes the property that it belongs to and the type that has
this property, under the name made for it.

Key definitions: `IsOf`, `Schema.IsSupported`, `SchemaNode`, `Reached`, `nodesAt`, `nodesOf`.
Key theorems: `nodesAt_object`, `nodesAt_array`, `nodesAt_leaf`, `mem_nodesOf_iff`.
-/
import IdentityTypes.Proofs.Inference.Invariant

namespace IdentityTypes

/-! ### Tags -/

/-- The type is the tag alone, or the tag and null. -/
def IsOf (type : Option TypeTag) (tag : String) : Prop :=
  type = some (.single tag) ∨ type = some (.union [tag, "null"])

instance (type : Option TypeTag) (tag : String) : Decidable (IsOf type tag) :=
  inferInstanceAs (Decidable (_ ∨ _))

/-- The tags that the schemas of a family may have. -/
def Family.tags : Family → List String
  | .managed => ["boolean", "number", "integer", "string", "object", "array", "relationship"]
  | .system => ["boolean", "number", "integer", "string", "object", "array"]

/-- The schema has one of the tags of the family, alone or with null. -/
def Schema.IsSupported (family : Family) (s : Schema) : Prop :=
  ∃ tag ∈ family.tags, IsOf s.type tag

instance (family : Family) (s : Schema) : Decidable (s.IsSupported family) :=
  inferInstanceAs (Decidable (∃ tag ∈ family.tags, IsOf s.type tag))

/-- The tags that name a kind. -/
def SchemaKind.tags : SchemaKind → List String
  | .boolean => ["boolean"]
  | .number => ["number", "integer"]
  | .string => ["string"]
  | .object => ["object"]
  | .array => ["array"]
  | .relationship => ["relationship"]

theorem IsOf.unique {type : Option TypeTag} {tag tag' : String} (h : IsOf type tag)
    (h' : IsOf type tag') : tag = tag' := by
  rcases h with rfl | rfl <;> rcases h' with h' | h' <;> simp_all

theorem IsOf.ne_none {type : Option TypeTag} {tag : String} (h : IsOf type tag) : type ≠ none := by
  rcases h with rfl | rfl <;> simp

theorem IsOf.eq_pair {type : Option TypeTag} {tag : String} {tags : List String}
    (h : IsOf type tag) (ht : type = some (.union tags)) : tags = [tag, "null"] := by
  rcases h with rfl | rfl <;> simp_all

theorem isOf_iff {type : Option TypeTag} {tag : String} : IsOf type tag ↔
    ∃ nullable : Bool, type = some (if nullable then .union [tag, "null"] else .single tag) := by
  simp [IsOf]

theorem SchemaKind.ofTag?_eq_some {tag : String} {k : SchemaKind} :
    ofTag? tag = some k ↔ tag ∈ k.tags := by
  unfold ofTag?
  constructor
  · intro h
    split_ifs at h <;> cases h <;> simp_all [tags]
  · intro h
    cases k <;> simp only [tags, List.mem_cons, List.not_mem_nil, or_false] at h
    case number => rcases h with rfl | rfl <;> decide
    all_goals subst h; decide

theorem SchemaKind.ofTag?_eq_none {tag : String} :
    ofTag? tag = none ↔ tag ∉ Family.managed.tags := by
  unfold ofTag?
  constructor
  · intro h
    split_ifs at h
    simp_all [Family.tags]
  · intro h
    simp only [Family.tags, List.mem_cons, List.not_mem_nil, or_false, not_or] at h
    simp [h]

theorem SchemaKind.ne_of_primitive {k : SchemaKind} {p : Primitive} (h : k.primitive? = some p) :
    k ≠ .object ∧ k ≠ .array ∧ k ≠ .relationship := by
  cases k <;> simp_all [primitive?]

theorem SchemaKind.notMem_tags_of_primitive {k : SchemaKind} {p : Primitive}
    (h : k.primitive? = some p) : "array" ∉ k.tags ∧ "relationship" ∉ k.tags := by
  cases k <;> simp_all [primitive?, tags]

/-- The tag behind the kind of a schema. -/
theorem Schema.HasKind.isOf {s : Schema} {k : SchemaKind} {nullable : Bool}
    (h : s.HasKind k nullable) : ∃ tag ∈ k.tags, IsOf s.type tag := by
  obtain ⟨tag, hk, htype⟩ := h
  exact ⟨tag, SchemaKind.ofTag?_eq_some.mp hk, isOf_iff.mpr ⟨nullable, htype⟩⟩

theorem Schema.HasKind.isOf_iff {s : Schema} {k : SchemaKind} {nullable : Bool}
    (h : s.HasKind k nullable) {tag : String} (htag : k.tags = [tag]) {tag' : String} :
    IsOf s.type tag' ↔ tag' = tag := by
  obtain ⟨t, ht, htype⟩ := h.isOf
  rw [htag, List.mem_singleton] at ht
  subst ht
  exact ⟨fun h' => h'.unique htype, fun he => he ▸ htype⟩

theorem Schema.HasKind.not_isOf {s : Schema} {k : SchemaKind} {nullable : Bool}
    (h : s.HasKind k nullable) {tag : String} (htag : tag ∉ k.tags) : ¬ IsOf s.type tag := by
  obtain ⟨t, ht, htype⟩ := h.isOf
  exact fun h' => htag (htype.unique h' ▸ ht)

/-! ### Nodes -/

/-- A schema that is met, with the property it belongs to and the type that has the
property, which goes without a name if none can be made. -/
structure SchemaNode where
  owner : Option String
  property : String
  schema : Schema

/-- The type of the objects that a node describes. -/
def SchemaNode.typeName (n : SchemaNode) : Option String :=
  n.owner.bind (Name.subTypeName · n.property)

/-- The schemas that are met from some properties of the type `owner`. -/
inductive Reached (owner : Option String) (properties : List (String × Schema)) : SchemaNode → Prop
  /-- The properties themselves. -/
  | property {name : String} {s : Schema} : (name, s) ∈ properties →
    Reached owner properties ⟨owner, name, s⟩
  /-- The properties of an object. -/
  | member {n : SchemaNode} {name : String} {s : Schema} : Reached owner properties n →
    IsOf n.schema.type "object" → (name, s) ∈ n.schema.properties →
    Reached owner properties ⟨n.typeName, name, s⟩
  /-- The items of an array, if they have a type. -/
  | item {n : SchemaNode} {s : Schema} : Reached owner properties n → IsOf n.schema.type "array" →
    n.schema.typedItem = some s → Reached owner properties ⟨n.owner, n.property, s⟩

mutual

/-- The node of a property and those below it. -/
def nodesAt (owner : Option String) (property : String) : Schema → List SchemaNode
  | ⟨type, title, description, properties, required, items, collections, rbd⟩ =>
    ⟨owner, property, ⟨type, title, description, properties, required, items, collections, rbd⟩⟩ ::
      (if IsOf type "object" then nodesOf (owner.bind (Name.subTypeName · property)) properties
      else if IsOf type "array" then nodesOfItem owner property items
      else [])

/-- The nodes of the items of an array. -/
def nodesOfItem (owner : Option String) (property : String) : Option Schema → List SchemaNode
  | none => []
  | some s => if s.type.isSome then nodesAt owner property s else []

/-- The nodes of the properties of the type `owner`, in the order of a walk. -/
def nodesOf (owner : Option String) : List (String × Schema) → List SchemaNode
  | [] => []
  | (name, s) :: rest => nodesAt owner name s ++ nodesOf owner rest

end

section

variable {owner : Option String} {property : String} {s : Schema} {k : SchemaKind}
  {nullable : Bool}

theorem nodesOf_eq (properties : List (String × Schema)) : nodesOf owner properties =
    properties.flatMap fun p => nodesAt owner p.1 p.2 := by
  induction properties with
  | nil => rfl
  | cons p rest ih => rw [nodesOf, ih, List.flatMap_cons]

/-- The node of a property comes before those below it. -/
theorem nodesAt_eq : nodesAt owner property s = ⟨owner, property, s⟩ ::
    (if IsOf s.type "object" then nodesOf (owner.bind (Name.subTypeName · property)) s.properties
    else if IsOf s.type "array" then nodesOfItem owner property s.items
    else []) := by
  cases s
  rw [nodesAt]

theorem nodesAt_object (h : s.HasKind .object nullable) : nodesAt owner property s =
    ⟨owner, property, s⟩ :: nodesOf (owner.bind (Name.subTypeName · property)) s.properties := by
  rw [nodesAt_eq, if_pos ((h.isOf_iff rfl).mpr rfl)]

theorem nodesAt_array (h : s.HasKind .array nullable) : nodesAt owner property s =
    ⟨owner, property, s⟩ :: nodesOfItem owner property s.items := by
  rw [nodesAt_eq, if_neg (fun ho => absurd ((h.isOf_iff rfl).mp ho) (by decide)),
    if_pos ((h.isOf_iff rfl).mpr rfl)]

theorem nodesOfItem_typed {item : Schema} (h : s.typedItem = some item) :
    nodesOfItem owner property s.items = nodesAt owner property item := by
  obtain ⟨hitems, htype⟩ := Option.filter_eq_some_iff.mp h
  rw [hitems, nodesOfItem, if_pos htype]

theorem nodesOfItem_untyped (h : s.typedItem = none) :
    nodesOfItem owner property s.items = [] := by
  unfold Schema.typedItem at h
  cases hi : s.items with
  | none => rfl
  | some item =>
    rw [hi, Option.filter_eq_none_iff] at h
    rw [nodesOfItem, if_neg (h item rfl)]

/-- Below a schema of any other kind there are no nodes. -/
theorem nodesAt_leaf (h : s.HasKind k nullable) (hk : k ≠ .object) (hk' : k ≠ .array) :
    nodesAt owner property s = [⟨owner, property, s⟩] := by
  have hobject : ¬ IsOf s.type "object" :=
    h.not_isOf (by cases k <;> simp_all [SchemaKind.tags])
  have harray : ¬ IsOf s.type "array" :=
    h.not_isOf (by cases k <;> simp_all [SchemaKind.tags])
  rw [nodesAt_eq, if_neg hobject, if_neg harray]

end

/-! ### The walk meets the nodes that are reached -/

section

variable {owner : Option String} {properties : List (String × Schema)}

mutual

/-- Below a node that is reached all nodes are. -/
theorem Reached.of_mem_nodesAt {owner' : Option String} {property : String} :
    ∀ {s : Schema}, Reached owner properties ⟨owner', property, s⟩ →
      ∀ n ∈ nodesAt owner' property s, Reached owner properties n
  | ⟨type, title, description, ps, required, items, collections, rbd⟩, h, n, hn => by
    rw [nodesAt] at hn
    rcases List.mem_cons.mp hn with rfl | hn
    · exact h
    · split_ifs at hn with hobject harray
      · exact Reached.of_mem_nodesOf (fun name s hs => h.member hobject hs) n hn
      · exact Reached.of_mem_nodesOfItem (fun s hs => h.item harray hs) n hn
      · cases hn

theorem Reached.of_mem_nodesOfItem {owner' : Option String} {property : String} :
    ∀ {items : Option Schema}, (∀ s, items.filter (·.type.isSome) = some s →
        Reached owner properties ⟨owner', property, s⟩) →
      ∀ n ∈ nodesOfItem owner' property items, Reached owner properties n
  | none, _, n, hn => nomatch hn
  | some s, h, n, hn => by
    rw [nodesOfItem] at hn
    split_ifs at hn with hs
    · exact Reached.of_mem_nodesAt (h s (by simp [hs])) n hn
    · cases hn

theorem Reached.of_mem_nodesOf {owner' : Option String} :
    ∀ {ps : List (String × Schema)}, (∀ name s, (name, s) ∈ ps →
        Reached owner properties ⟨owner', name, s⟩) →
      ∀ n ∈ nodesOf owner' ps, Reached owner properties n
  | [], _, n, hn => nomatch hn
  | (name, s) :: rest, h, n, hn => by
    rw [nodesOf] at hn
    rcases List.mem_append.mp hn with hn | hn
    · exact Reached.of_mem_nodesAt (h name s List.mem_cons_self) n hn
    · exact Reached.of_mem_nodesOf (fun name s hs => h name s (List.mem_cons_of_mem _ hs)) n hn

end

/-- With a node that is reached, the walk meets all nodes below it. -/
theorem Reached.nodesAt_subset {n : SchemaNode} (h : Reached owner properties n) :
    nodesAt n.owner n.property n.schema ⊆ nodesOf owner properties := by
  induction h with
  | property hs =>
    intro m hm
    rw [nodesOf_eq]
    exact List.mem_flatMap.mpr ⟨_, hs, hm⟩
  | @member n name s _ hobject hs ih =>
    intro m hm
    refine ih ?_
    rw [nodesAt_eq, if_pos hobject, nodesOf_eq]
    exact List.mem_cons_of_mem _ (List.mem_flatMap.mpr ⟨_, hs, hm⟩)
  | @item n s _ harray hs ih =>
    intro m hm
    refine ih ?_
    have hobject : ¬ IsOf n.schema.type "object" := fun ho => absurd (ho.unique harray) (by decide)
    rw [nodesAt_eq, if_neg hobject, if_pos harray, nodesOfItem_typed hs]
    exact List.mem_cons_of_mem _ hm

/-- The walk lists the nodes that are reached. -/
theorem mem_nodesOf_iff {n : SchemaNode} :
    n ∈ nodesOf owner properties ↔ Reached owner properties n := by
  constructor
  · exact Reached.of_mem_nodesOf (fun _ _ hs => .property hs) n
  · intro h
    refine h.nodesAt_subset ?_
    rw [nodesAt_eq]
    exact List.mem_cons_self

end

end IdentityTypes
