/-
# Statements that inference keeps

What can be said of everything inferred from a schema is proved rule by rule: one
case for each way in which a type is inferred, and two for the list of the
properties of an object. `InferenceInvariant` lists the cases; a statement that has
them all holds of every type and of every list of properties that is inferred,
however deep the schema is nested.

Key definitions: `Schema.HasKind`, `InferenceInvariant`.
Key theorems: `InferenceInvariant.type`, `InferenceInvariant.properties`.
-/
import IdentityTypes.Inference
import IdentityTypes.Proofs.Outcomes
import Mathlib.Data.List.Basic

namespace IdentityTypes

theorem nameOrError_eq_ok {name : Option String} {n : String} :
    nameOrError name = .ok n ↔ name = some n := by
  cases name <;> simp [nameOrError]

/-! ### The kind of a schema -/

/-- The kinds whose values have no parts. -/
def SchemaKind.primitive? : SchemaKind → Option Primitive
  | .boolean => some .boolean
  | .number => some .number
  | .string => some .string
  | _ => none

namespace Schema

/-- The type is a tag of the kind `k`, alone or, where null is admitted, with null. -/
def HasKind (s : Schema) (k : SchemaKind) (nullable : Bool) : Prop :=
  ∃ tag, SchemaKind.ofTag? tag = some k ∧
    s.type = some (if nullable then .union [tag, "null"] else .single tag)

/-- The schema of the items, if they have one with a type. -/
def typedItem (s : Schema) : Option Schema := s.items.filter (·.type.isSome)

end Schema

theorem effectiveType_eq_ok {type : Option TypeTag} {property tag : String} {nullable : Bool} :
    effectiveType type property = .ok (tag, nullable) ↔
      type = some (if nullable then .union [tag, "null"] else .single tag) := by
  constructor
  · intro h
    unfold effectiveType at h
    split at h
    · cases h
    · cases h; rfl
    · rename_i other
      by_cases hn : other = "null"
      · subst hn; cases h; rfl
      · rw [if_neg hn] at h; cases h
    · cases h
  · rintro rfl
    cases nullable <;> rfl

/-! ### The rules of inference -/

/-- Statements on what is inferred, `T` for the type of a property and `P` for the
properties of an object, that are true where a rule of inference is applied if they
are true of the parts. A property and its owner are given by their names. -/
structure InferenceInvariant (family : Family) (kind : ValueKind)
    (T : Schema → String → String → Inferred Descriptor → Prop)
    (P : List String → List (String × Schema) → String → Inferred (List Property) → Prop) :
    Prop where
  primitive : ∀ {s property owner k nullable p}, s.HasKind k nullable → k.primitive? = some p →
    T s property owner (.plain ⟨.primitive p, [], nullable⟩)
  openMap : ∀ {s property owner nullable}, s.HasKind .object nullable → s.properties = [] →
    T s property owner (.plain ⟨.openMap kind, [], nullable⟩)
  object : ∀ {s property owner nullable name inner}, s.HasKind .object nullable →
    s.properties ≠ [] → Name.subTypeName owner property = some name →
    P s.required s.properties name inner →
    T s property owner ⟨⟨.subType name, [], nullable⟩,
      inner.subTypes ++ [⟨property, name, owner, inner.value⟩], inner.warnings⟩
  openArray : ∀ {s property owner nullable}, s.HasKind .array nullable → s.typedItem = none →
    T s property owner (.plain ⟨.openArray kind, [], nullable⟩)
  array : ∀ {s property owner nullable item x}, s.HasKind .array nullable →
    s.typedItem = some item → T item property owner x →
    T s property owner (x.map fun d => d.arrayOf.withNullable nullable)
  reference : ∀ {s property owner nullable t ts}, family = .managed →
    s.HasKind .relationship nullable → targetNames s.collections = .ok (t :: ts) →
    T s property owner (.plain ⟨.reference ⟨t, ts⟩, [], nullable⟩)
  unresolved : ∀ {s property owner nullable}, family = .managed →
    s.HasKind .relationship nullable → targetNames s.collections = .ok [] →
    T s property owner
      ⟨⟨.openMap kind, [], nullable⟩, [], [⟨owner, property, s.collections.map (·.path)⟩]⟩
  nil : ∀ {required owner}, P required [] owner (.plain [])
  cons : ∀ {required name s rest owner x others}, T s name owner x →
    P required rest owner others →
    P required ((name, s) :: rest) owner
      (.cons (x.map (describe family name (required.contains name) s)) others)

namespace InferenceInvariant

variable {family : Family} {kind : ValueKind}
  {T : Schema → String → String → Inferred Descriptor → Prop}
  {P : List String → List (String × Schema) → String → Inferred (List Property) → Prop}

theorem relationship (H : InferenceInvariant family kind T P) {s : Schema} {nullable : Bool}
    {property owner : String} {x : Inferred Descriptor} (hs : s.HasKind .relationship nullable)
    (h : inferRelationship family kind property owner s.collections = .ok x) :
    T s property owner (x.map (·.withNullable nullable)) := by
  unfold inferRelationship at h
  cases family with
  | system => cases h
  | managed =>
    obtain ⟨names, hn, h⟩ := bind_eq_ok.mp h
    cases names with
    | nil => cases h; exact H.unresolved rfl hs hn
    | cons t ts => cases h; exact H.reference rfl hs hn

mutual

/-- What all rules keep is true of every type inferred. -/
theorem type (H : InferenceInvariant family kind T P) (property owner : String) :
    ∀ (s : Schema) {x : Inferred Descriptor},
      inferType family kind property owner s = .ok x → T s property owner x
  | ⟨type, title, description, properties, required, items, collections, rbd⟩, x, h => by
    unfold inferType at h
    obtain ⟨⟨tag, nullable⟩, htype, h⟩ := bind_eq_ok.mp h
    have htype := effectiveType_eq_ok.mp htype
    have hkind : ∀ k, SchemaKind.ofTag? tag = some k → Schema.HasKind
        ⟨type, title, description, properties, required, items, collections, rbd⟩ k nullable :=
      fun k hk => ⟨tag, hk, htype⟩
    simp only at h
    split at h
    · cases h; exact H.primitive (hkind _ ‹_›) rfl
    · cases h; exact H.primitive (hkind _ ‹_›) rfl
    · cases h; exact H.primitive (hkind _ ‹_›) rfl
    · split at h
      · rename_i he
        cases h; exact H.openMap (hkind _ ‹_›) (List.isEmpty_iff.mp he)
      · rename_i he
        obtain ⟨name, hname, h⟩ := bind_eq_ok.mp h
        obtain ⟨inner, hinner, h⟩ := bind_eq_ok.mp h
        cases h
        exact H.object (hkind _ ‹_›) (fun hp => he (List.isEmpty_iff.mpr hp))
          (nameOrError_eq_ok.mp hname) (H.properties name required properties hinner)
    · obtain ⟨y, hy, h⟩ := bind_eq_ok.mp h
      cases h
      rcases H.items property owner items hy with ⟨hi, rfl⟩ | ⟨item, z, hi, hz, rfl⟩
      · exact H.openArray (hkind _ ‹_›) hi
      · exact H.array (hkind _ ‹_›) hi hz
    · obtain ⟨y, hy, h⟩ := bind_eq_ok.mp h
      cases h
      exact H.relationship (hkind _ ‹_›) hy
    · cases h

/-- The items of an array have no type, or one of which the statement is true. -/
theorem items (H : InferenceInvariant family kind T P) (property owner : String) :
    ∀ (items : Option Schema) {x : Inferred Descriptor},
      inferItems family kind property owner items = .ok x →
      (items.filter (·.type.isSome) = none ∧ x = .plain (.single (.openArray kind))) ∨
        ∃ item y, items.filter (·.type.isSome) = some item ∧ T item property owner y ∧
          x = y.map Descriptor.arrayOf
  | none, x, h => by
    cases h; exact Or.inl ⟨rfl, rfl⟩
  | some s, x, h => by
    unfold inferItems at h
    by_cases ht : s.type.isSome
    · rw [if_pos ht] at h
      obtain ⟨y, hy, rfl⟩ := map_eq_ok.mp h
      exact Or.inr ⟨s, y, by simp [ht], H.type property owner s hy, rfl⟩
    · rw [if_neg ht] at h
      cases h; exact Or.inl ⟨by simpa using ht, rfl⟩

/-- What all rules keep is true of every list of properties inferred. -/
theorem properties (H : InferenceInvariant family kind T P) (owner : String)
    (required : List String) : ∀ (properties : List (String × Schema))
      {x : Inferred (List Property)},
      inferProperties family kind owner required properties = .ok x → P required properties owner x
  | [], x, h => by
    cases h; exact H.nil
  | (name, s) :: rest, x, h => by
    unfold inferProperties at h
    obtain ⟨y, hy, h⟩ := bind_eq_ok.mp h
    obtain ⟨others, hothers, h⟩ := bind_eq_ok.mp h
    cases h
    exact H.cons (H.type name owner s hy) (H.properties owner required rest hothers)

end

end InferenceInvariant

end IdentityTypes
