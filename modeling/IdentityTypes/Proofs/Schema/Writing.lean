/-
# Every schema has a layout

The plainest layout of a schema has the members in their declared order, leaves out what the
schema does not have, and has nothing else. It is nested as deep as the schema, and as there
are no numbers in it, it has a text.

Key definitions: `membersOf`, `Schema.toValue`, `Schema.levels`.
Key theorems: `laid_membersOf`, `Schema.writtenAs_toValue`, `Schema.isPlain_toValue`,
`Schema.exists_text`.
-/
import IdentityTypes.Proofs.Json.Reading
import IdentityTypes.Proofs.Json.Writing
import IdentityTypes.Proofs.Schema.Layout

namespace IdentityTypes

open Json

/-! ### Members that are left out -/

/-- The members that there are, with their keys. -/
def membersOf (ps : List (String × Option Value)) : List (String × Value) :=
  ps.filterMap fun p => p.2.map (p.1, ·)

/-- A member is left out, if it may be, or has a value that is written as it may be. -/
def MemberAs (omissible : Prop) (node : Node → Prop) : Option Value → Prop
  | none => omissible
  | some v => node v.toNode

section

variable {key : String} {x : Option Value} {omissible : Prop} {node : Node → Prop}

theorem notGiven_membersOf : ∀ (ps : List (String × Option Value)), key ∉ ps.map (·.1) →
    NotGiven (Value.memberNodes (membersOf ps)) key
  | [], _ => List.forall_mem_nil _
  | (_, none) :: ps, h => notGiven_membersOf ps (List.not_mem_of_not_mem_cons h)
  | (_, some _) :: ps, h => notGiven_cons.mpr ⟨(List.ne_of_not_mem_cons h).symm,
      notGiven_membersOf ps (List.not_mem_of_not_mem_cons h)⟩

theorem tolerates_membersOf (names : List String) : ∀ ps : List (String × Option Value),
    Tolerates names (Value.memberNodes (membersOf ps))
  | [] => List.forall_mem_nil _
  | (_, none) :: ps => tolerates_membersOf names ps
  | (key, some v) :: ps => List.forall_mem_cons.mpr
      ⟨⟨key, rfl, .inr v.tolerable_toNode⟩, tolerates_membersOf names ps⟩

/-- Of members with different keys each is laid as it is. -/
theorem laid_membersOf (h : MemberAs omissible node x) : ∀ {ps : List (String × Option Value)},
    (ps.map (·.1)).Nodup → (key, x) ∈ ps →
      Laid (Value.memberNodes (membersOf ps)) key omissible node
  | (k, y) :: ps, hnodup, hmem => by
    obtain ⟨hk, hnodup⟩ := List.nodup_cons.mp hnodup
    rcases List.mem_cons.mp hmem with he | hmem
    · cases he
      cases x with
      | none => exact .omitted (notGiven_membersOf ps hk) h
      | some v =>
        refine .given (n := v.toNode) ?_ h
        have hnot := notGiven_membersOf ps hk
        show List.filter _ ((some key, v.toNode) :: Value.memberNodes (membersOf ps)) = _
        rw [List.filter_cons_of_pos (by simp),
          List.filter_eq_nil_iff.mpr (by simpa [NotGiven] using hnot)]
    · have hne : k ≠ key := by
        rintro rfl
        exact hk (List.mem_map_of_mem (f := (·.1)) hmem)
      have ih := laid_membersOf h hnodup hmem
      cases y with
      | none => exact ih
      | some w =>
        cases ih with
        | omitted hms hx => exact .omitted (notGiven_cons.mpr ⟨hne, hms⟩) hx
        | given hms hx => exact .given ((givenOnce_cons_ne hne).mpr hms) hx

end

/-! ### The plainest layout -/

/-- A list as a member, unless it is empty. -/
def listMember (vs : List Value) : Option Value := if vs.isEmpty then none else some (.array vs)

/-- A map as a member, unless it is empty. -/
def mapMember (ms : List (String × Value)) : Option Value :=
  if ms.isEmpty then none else some (.object ms)

section

variable {α : Type} {depth : Nat} {f : α → Value} {item : α → Node → Prop} {xs : List α}

theorem memberAs_map {x : Option α} (h : ∀ a ∈ x, item a (f a).toNode) :
    MemberAs (x = none) (orNull item x) (x.map f) := by
  cases x with
  | none => rfl
  | some a => exact h a rfl

theorem memberAs_text (x : Option String) :
    MemberAs (x = none) (orNull textAs x) (x.map .string) :=
  memberAs_map fun _ _ => rfl

theorem memberAs_flag (x : Option Bool) :
    MemberAs (x = none) (orNull (fun b n => n = .bool b) x) (x.map .bool) :=
  memberAs_map fun _ _ => rfl

theorem forall₂_itemNodes (h : ∀ x ∈ xs, item x (f x).toNode) :
    List.Forall₂ item xs (Value.itemNodes (xs.map f)) := by
  induction xs with
  | nil => exact .nil
  | cons x xs ih =>
    obtain ⟨hx, hxs⟩ := List.forall_mem_cons.mp h
    exact .cons hx (ih hxs)

theorem listAs_array (hdepth : depth ≠ 0) (h : ∀ x ∈ xs, item x (f x).toNode) :
    ListAs depth item xs (Value.array (xs.map f)).toNode :=
  ⟨hdepth, _, rfl, forall₂_itemNodes h⟩

theorem memberAs_list (hdepth : xs ≠ [] → depth ≠ 0) (h : ∀ x ∈ xs, item x (f x).toNode) :
    MemberAs (xs = []) (ListAs depth item xs) (listMember (xs.map f)) := by
  cases xs with
  | nil => rfl
  | cons x xs => exact listAs_array (hdepth (List.cons_ne_nil _ _)) h

theorem memberAs_entries {xs : List (String × α)} {ms : List (String × Value)}
    (hdepth : xs ≠ [] → depth ≠ 0)
    (h : List.Forall₂ (fun x m => m.1 = some x.1 ∧ item x.2 m.2) xs (Value.memberNodes ms)) :
    MemberAs (xs = []) (MapAs depth item xs) (mapMember ms) := by
  cases ms with
  | nil =>
    cases h
    rfl
  | cons m ms =>
    have hne : xs ≠ [] := by
      rintro rfl
      cases h
    exact ⟨hdepth hne, _, rfl, h⟩

end

/-- A type as a value. -/
def TypeTag.toValue : TypeTag → Value
  | .single tag => .string tag
  | .union tags => .array (tags.map .string)

/-- A collection as a value. -/
def ResourceCollection.toValue (c : ResourceCollection) : Value :=
  .object [("path", .string c.path)]

namespace Schema

/-- The members of a schema, of which those for its properties and items are given. -/
def parts (s : Schema) (properties items : Option Value) : List (String × Option Value) :=
  [("type", s.type.map TypeTag.toValue), ("title", s.title.map .string),
    ("description", s.description.map .string), ("properties", properties),
    ("required", listMember (s.required.map .string)), ("items", items),
    ("resourceCollection", listMember (s.collections.map ResourceCollection.toValue)),
    ("returnByDefault", s.returnByDefault.map .bool)]

mutual

/-- A schema as a value that has no more than it needs. -/
def toValue : Schema → Value
  | ⟨type, title, description, properties, required, items, collections, returnByDefault⟩ =>
    .object (membersOf (parts
      ⟨type, title, description, properties, required, items, collections, returnByDefault⟩
      (mapMember (propertyValues properties)) (itemValue items)))

/-- Properties as values. -/
def propertyValues : List (String × Schema) → List (String × Value)
  | [] => []
  | (name, p) :: ps => (name, p.toValue) :: propertyValues ps

/-- The schema of items as a value. -/
def itemValue : Option Schema → Option Value
  | none => none
  | some i => some i.toValue

end

/-- How deep arrays are nested in a type. -/
def typeLevels : Option TypeTag → Nat
  | some (.union _) => 1
  | some (.single _) | none => 0

mutual

/-- How deep arrays and objects are nested in a schema. -/
def levels : Schema → Nat
  | ⟨type, _, _, properties, required, items, collections, _⟩ =>
    max (max (typeLevels type) (if required.isEmpty then 0 else 1))
      (max (if collections.isEmpty then 0 else 2)
        (max (propertyLevels properties) (itemLevels items))) + 1

/-- The same for properties, with the map that they stand in. -/
def propertyLevels : List (String × Schema) → Nat
  | [] => 0
  | (_, p) :: ps => max (p.levels + 1) (propertyLevels ps)

/-- The same for items. -/
def itemLevels : Option Schema → Nat
  | none => 0
  | some i => i.levels

end

section

variable {depth : Nat} {s : Schema} {n : Node} {properties items : Option Value}
  {item property : Schema → Node → Prop}

/-- A schema with a level is an object of which the members have one less. -/
theorem writtenAs_succ : s.WrittenAs (depth + 1) n ↔ ObjectAs (depth + 1) memberNames
    (s.Layout depth (WrittenAs depth) (WrittenAs (depth - 1))) n := by
  cases depth <;> exact Iff.rfl

theorem memberAs_type {type : Option TypeTag} (h : typeLevels type ≤ depth) :
    MemberAs (type = none) (orNull (TypeTag.WrittenAs depth) type) (type.map TypeTag.toValue) := by
  refine memberAs_map fun tag htag => ?_
  cases tag with
  | single tag => rfl
  | union tags =>
    obtain rfl : type = some (.union tags) := htag
    exact listAs_array (Nat.one_le_iff_ne_zero.mp h) fun _ _ => rfl

theorem memberAs_required {required : List String} (h : required ≠ [] → depth ≠ 0) :
    MemberAs (required = []) (RequiredAs depth required) (listMember (required.map .string)) := by
  have hnames : MemberAs (required = []) (ListAs depth textAs required)
      (listMember (required.map .string)) := memberAs_list h fun _ _ => rfl
  cases required with
  | nil => rfl
  | cons name names => exact .names hnames

theorem memberAs_collections {collections : List ResourceCollection}
    (h : collections ≠ [] → 2 ≤ depth) :
    MemberAs (collections = [])
      (ListAs depth (ResourceCollection.WrittenAs (depth - 1)) collections)
      (listMember (collections.map ResourceCollection.toValue)) := by
  refine memberAs_list (fun hne => by have := h hne; omega) fun c hc => ?_
  have := h (List.ne_nil_of_mem hc)
  exact ⟨by omega, _, rfl, List.forall_mem_singleton.mpr ⟨_, rfl, .inr rfl⟩, .given rfl rfl⟩

theorem nodup_parts (s : Schema) (properties items : Option Value) :
    ((s.parts properties items).map (·.1)).Nodup :=
  (by decide : memberNames.Nodup)

/-- The members are a layout, if those for the properties and items are. -/
theorem layout_parts (htype : typeLevels s.type ≤ depth) (hrequired : s.required ≠ [] → depth ≠ 0)
    (hcollections : s.collections ≠ [] → 2 ≤ depth)
    (hproperties : MemberAs (s.properties = []) (MapAs depth property s.properties) properties)
    (hitems : MemberAs (s.items = none) (orNull item s.items) items) :
    s.Layout depth item property (Value.memberNodes (membersOf (s.parts properties items))) where
  type := laid_membersOf (memberAs_type htype) (nodup_parts ..) (by simp [parts])
  title := laid_membersOf (memberAs_text s.title) (nodup_parts ..) (by simp [parts])
  description := laid_membersOf (memberAs_text s.description) (nodup_parts ..) (by simp [parts])
  properties := laid_membersOf hproperties (nodup_parts ..) (by simp [parts])
  required := laid_membersOf (memberAs_required hrequired) (nodup_parts ..) (by simp [parts])
  items := laid_membersOf hitems (nodup_parts ..) (by simp [parts])
  collections := laid_membersOf (memberAs_collections hcollections) (nodup_parts ..)
    (by simp [parts])
  returnByDefault := laid_membersOf (memberAs_flag s.returnByDefault) (nodup_parts ..)
    (by simp [parts])

end

mutual

/-- The plainest layout is one. -/
theorem writtenAs_toValue : ∀ {s : Schema} {depth : Nat}, s.levels ≤ depth →
    s.WrittenAs depth s.toValue.toNode
  | ⟨type, title, description, properties, required, items, collections, returnByDefault⟩,
    0, h => by
    simp [levels] at h
  | ⟨type, title, description, properties, required, items, collections, returnByDefault⟩,
    depth + 1, h => by
    simp only [levels, Nat.add_le_add_iff_right, Nat.max_le] at h
    obtain ⟨⟨htype, hrequired⟩, hcollections, hproperties, hitems⟩ := h
    rw [writtenAs_succ, toValue, Value.toNode]
    refine ⟨Nat.succ_ne_zero _, _, rfl, tolerates_membersOf _ _, layout_parts htype
      (fun hne => ?_) (fun hne => ?_)
      (memberAs_entries (fun hne => ?_) (propertiesAs_propertyValues hproperties))
      (itemAs_itemValue hitems)⟩
    · simpa [hne, Nat.one_le_iff_ne_zero] using hrequired
    · simpa [hne] using hcollections
    · obtain ⟨p, ps, rfl⟩ := List.exists_cons_of_ne_nil hne
      have := (Nat.max_le.mp hproperties).1
      omega

theorem propertiesAs_propertyValues : ∀ {ps : List (String × Schema)} {depth : Nat},
    propertyLevels ps ≤ depth →
      List.Forall₂ (fun p m => m.1 = some p.1 ∧ p.2.WrittenAs (depth - 1) m.2) ps
        (Value.memberNodes (propertyValues ps))
  | [], _, _ => .nil
  | (name, p) :: ps, depth, h => by
    obtain ⟨hp, hps⟩ := Nat.max_le.mp h
    exact .cons ⟨rfl, writtenAs_toValue (Nat.le_sub_of_add_le hp)⟩
      (propertiesAs_propertyValues hps)

theorem itemAs_itemValue : ∀ {item : Option Schema} {depth : Nat}, itemLevels item ≤ depth →
    MemberAs (item = none) (orNull (WrittenAs depth) item) (itemValue item)
  | none, _, _ => rfl
  | some i, _, h => writtenAs_toValue (s := i) h

end

/-! ### The text of it -/

section

variable {α : Type} {f : α → Value}

theorem isPlain_map {x : Option α} (h : ∀ a, ∀ t ∈ (f a).tokens, t.isPlain = true) :
    ∀ v ∈ x.map f, ∀ t ∈ v.tokens, t.isPlain = true := by
  intro v hv
  obtain ⟨a, -, rfl⟩ := Option.map_eq_some_iff.mp hv
  exact h a

theorem isPlain_listMember {xs : List α} (h : ∀ a, ∀ t ∈ (f a).tokens, t.isPlain = true) :
    ∀ v ∈ listMember (xs.map f), ∀ t ∈ v.tokens, t.isPlain = true := by
  cases xs with
  | nil => exact nofun
  | cons x xs =>
    rintro v ⟨⟩
    exact isPlain_array (List.forall_mem_map.mpr fun a _ => h a)

end

theorem isPlain_mapMember {ms : List (String × Value)}
    (h : ∀ m ∈ ms, ∀ t ∈ m.2.tokens, t.isPlain = true) :
    ∀ v ∈ mapMember ms, ∀ t ∈ v.tokens, t.isPlain = true := by
  cases ms with
  | nil => exact nofun
  | cons m ms =>
    rintro v ⟨⟩
    exact isPlain_object h

theorem isPlain_membersOf {ps : List (String × Option Value)}
    (h : ∀ p ∈ ps, ∀ v ∈ p.2, ∀ t ∈ v.tokens, t.isPlain = true) :
    ∀ m ∈ membersOf ps, ∀ t ∈ m.2.tokens, t.isPlain = true := by
  intro m hm
  obtain ⟨p, hp, hsome⟩ := List.mem_filterMap.mp hm
  obtain ⟨v, hv, rfl⟩ := Option.map_eq_some_iff.mp hsome
  exact h p hp v hv

theorem isPlain_string (s : String) : ∀ t ∈ (Value.string s).tokens, t.isPlain = true :=
  List.forall_mem_singleton.mpr rfl

theorem isPlain_type (tag : TypeTag) : ∀ t ∈ tag.toValue.tokens, t.isPlain = true := by
  cases tag with
  | single tag => exact isPlain_string tag
  | union tags => exact isPlain_array (List.forall_mem_map.mpr fun tag _ => isPlain_string tag)

mutual

theorem isPlain_toValue : ∀ s : Schema, ∀ t ∈ s.toValue.tokens, t.isPlain = true
  | ⟨type, title, description, properties, required, items, collections, returnByDefault⟩ => by
    rw [toValue]
    refine isPlain_object (isPlain_membersOf ?_)
    simp only [parts, List.forall_mem_cons]
    exact ⟨isPlain_map isPlain_type, isPlain_map isPlain_string, isPlain_map isPlain_string,
      isPlain_mapMember (isPlain_propertyValues properties), isPlain_listMember isPlain_string,
      isPlain_itemValue items,
      isPlain_listMember fun c => isPlain_object (List.forall_mem_singleton.mpr (isPlain_string _)),
      isPlain_map fun _ => List.forall_mem_singleton.mpr rfl, List.forall_mem_nil _⟩

theorem isPlain_propertyValues : ∀ ps : List (String × Schema),
    ∀ m ∈ propertyValues ps, ∀ t ∈ m.2.tokens, t.isPlain = true
  | [] => List.forall_mem_nil _
  | (_, p) :: ps => List.forall_mem_cons.mpr ⟨isPlain_toValue p, isPlain_propertyValues ps⟩

theorem isPlain_itemValue : ∀ item : Option Schema,
    ∀ v ∈ itemValue item, ∀ t ∈ v.tokens, t.isPlain = true
  | none => nofun
  | some i => fun v hv => by
    obtain rfl : i.toValue = v := Option.some.inj hv
    exact isPlain_toValue i

end

/-- Every schema has a layout, and the layout a text, where there are levels enough. -/
theorem exists_text {s : Schema} {depth : Nat} (h : s.levels ≤ depth) :
    ∃ n text, s.WrittenAs depth n ∧ n.Spells text :=
  ⟨_, _, writtenAs_toValue h, (Value.spells_text (isPlain_toValue s)).toNode⟩

end Schema

end IdentityTypes
