/-
# Arrays of arrays

The items of an array may be arrays again. From a schema one gets through the items of
arrays, one inside of the other, down to the first schema that is no array whose items have
a type (`ItemChain`). All that is inferred of the first schema is inferred of the last one:
the type of the first is that of the last with as many arrays around it as were passed, and
sub types and warnings are the same. Of the tags of the schemas passed only those of the
first say whether null is admitted, since each array drops what its items say about it.

Arrays are put around each expression of a type, and no rule makes more than one
(`exists_single_of_inferType`).

Key definitions: `TypeExpr.arrays`, `Schema.arrayItem`, `Schema.isUnion`, `ItemChain`,
`ArraysCompose`.
Key theorems: `exists_itemChain`, `ItemChain.unique`, `ItemChain.inferType_eq`,
`exists_single_of_inferType`, `arrays_compose`.
-/
import IdentityTypes.Proofs.Inference.Rules
import IdentityTypes.Proofs.Inference.Walk
import IdentityTypes.TypeScript.TypeText

namespace IdentityTypes

/-! ### The chain of items -/

/-- The expression with `n` arrays around it. -/
def TypeExpr.arrays (e : TypeExpr) : Nat → TypeExpr
  | 0 => e
  | n + 1 => .array (e.arrays n)

/-- The schema of the items, if the schema is an array and they have a type. -/
def Schema.arrayItem (s : Schema) : Option Schema :=
  if IsOf s.type "array" then s.typedItem else none

/-- The type with `n` arrays around each of its expressions. -/
def Descriptor.arrays (d : Descriptor) : Nat → Descriptor
  | 0 => d
  | n + 1 => (d.arrays n).arrayOf

theorem Descriptor.types_arrays (d : Descriptor) (n : Nat) :
    (d.arrays n).types = d.types.map (·.arrays n) := by
  induction n with
  | zero => exact (List.map_id _).symm
  | succ n ih =>
    rw [arrays, types_arrayOf, ih, List.map_map]
    rfl

/-- Whether the type of a schema is a list of tags. -/
def Schema.isUnion (s : Schema) : Bool :=
  match s.type with
  | some (.union _) => true
  | _ => false

/-- From a schema down to the last one inside of it: the arrays that are passed stand in the
list, each with the next one for its items, and the last schema is no array whose items have a
type. -/
inductive ItemChain : Schema → List Schema → Schema → Prop
  | last {s : Schema} : s.arrayItem = none → ItemChain s [] s
  | array {s item last : Schema} {outer : List Schema} : s.arrayItem = some item →
    ItemChain item outer last → ItemChain s (s :: outer) last

section

variable {s item last : Schema} {outer : List Schema} {k : SchemaKind} {nullable : Bool}

/-- An array whose items have a type. -/
theorem Schema.arrayItem_eq_some : s.arrayItem = some item ↔
    (∃ nullable, s.HasKind .array nullable) ∧ s.typedItem = some item := by
  unfold arrayItem
  by_cases h : IsOf s.type "array"
  · obtain ⟨nullable, htype⟩ := isOf_iff.mp h
    rw [if_pos h]
    exact ⟨fun hi => ⟨⟨nullable, "array", rfl, htype⟩, hi⟩, fun hi => hi.2⟩
  · rw [if_neg h]
    refine ⟨nofun, fun hi => ?_⟩
    obtain ⟨⟨nullable, hk⟩, -⟩ := hi
    exact absurd ((hk.isOf_iff rfl).mpr rfl) h

mutual

/-- Every chain of items ends. -/
theorem exists_itemChain : ∀ s : Schema, ∃ outer last, ItemChain s outer last
  | ⟨type, title, description, properties, required, items, collections, rbd⟩ => by
    cases h : Schema.arrayItem
        ⟨type, title, description, properties, required, items, collections, rbd⟩ with
    | none => exact ⟨[], _, .last h⟩
    | some item =>
      have hitems : items = some item :=
        (Option.filter_eq_some_iff.mp (Schema.arrayItem_eq_some.mp h).2).1
      obtain ⟨outer, last, hlast⟩ := exists_itemChain_of_items items hitems
      exact ⟨_, last, .array h hlast⟩

theorem exists_itemChain_of_items : ∀ (items : Option Schema) {item : Schema},
    items = some item → ∃ outer last, ItemChain item outer last
  | none, _, h => nomatch h
  | some s, item, h => by
    obtain rfl : s = item := Option.some.inj h
    exact exists_itemChain s

end

namespace ItemChain

/-- There is one chain of items only. -/
theorem unique (h : ItemChain s outer last) {outer' : List Schema} {last' : Schema}
    (h' : ItemChain s outer' last') : outer' = outer ∧ last' = last := by
  induction h generalizing outer' with
  | last hnone =>
    cases h' with
    | last => exact ⟨rfl, rfl⟩
    | array hsome => rw [hnone] at hsome; cases hsome
  | array hsome _ ih =>
    cases h' with
    | last hnone => rw [hnone] at hsome; cases hsome
    | array hsome' hrest =>
      obtain rfl := Option.some.inj (hsome.symm.trans hsome')
      obtain ⟨rfl, rfl⟩ := ih hrest
      exact ⟨rfl, rfl⟩

/-- The last schema has no items to go on with. -/
theorem arrayItem_last (h : ItemChain s outer last) : last.arrayItem = none := by
  induction h with
  | last hnone => exact hnone
  | array _ _ ih => exact ih

end ItemChain

end

/-! ### What is inferred along the chain -/

section

variable {family : Family} {kind : ValueKind} {property owner : String}
  {s item last : Schema} {outer : List Schema} {k : SchemaKind} {nullable : Bool}

theorem isUnion_of_effectiveType {tag : String}
    (h : effectiveType s.type property = .ok (tag, nullable)) : s.isUnion = nullable := by
  unfold Schema.isUnion
  rw [effectiveType_eq_ok.mp h]
  cases nullable <;> rfl

theorem Schema.HasKind.isUnion_eq (h : s.HasKind k nullable) : s.isUnion = nullable := by
  obtain ⟨tag, -, htype⟩ := effectiveType_of_hasKind "" h
  exact isUnion_of_effectiveType htype

/-- A type has one expression. Null is admitted by unions, and an array is inferred of nothing
but an array whose items have a type. -/
theorem union_invariant (family : Family) (kind : ValueKind) :
    InferenceInvariant family kind
      (fun s _ _ x => x.value.nullable = s.isUnion ∧ x.value.others = [] ∧
        (s.arrayItem = none → ∀ item, x.value.first ≠ .array item))
      (fun _ _ _ _ => True) where
  primitive h _ := ⟨h.isUnion_eq.symm, rfl, nofun⟩
  openMap h _ := ⟨h.isUnion_eq.symm, rfl, nofun⟩
  object h _ _ _ := ⟨h.isUnion_eq.symm, rfl, nofun⟩
  openArray h _ := ⟨h.isUnion_eq.symm, rfl, nofun⟩
  array h hi hitem := by
    refine ⟨h.isUnion_eq.symm, List.map_eq_nil_iff.mpr hitem.2.1, fun hnone => ?_⟩
    rw [Schema.arrayItem_eq_some.mpr ⟨⟨_, h⟩, hi⟩] at hnone
    cases hnone
  reference _ h _ := ⟨h.isUnion_eq.symm, rfl, nofun⟩
  unresolved _ h _ := ⟨h.isUnion_eq.symm, rfl, nofun⟩
  nil := trivial
  cons _ _ := trivial

/-- Whatever is inferred of a schema has one expression, which is no array unless the schema
is an array whose items have a type. -/
theorem exists_single_of_inferType {x : Inferred Descriptor}
    (h : inferType family kind property owner s = .ok x) :
    ∃ e, x.value = ⟨e, [], s.isUnion⟩ ∧ (s.arrayItem = none → ∀ item, e ≠ .array item) := by
  obtain ⟨hnullable, hothers, harray⟩ := (union_invariant family kind).type property owner s h
  exact ⟨x.value.first, by rw [← hnullable, ← hothers], harray⟩

theorem inferItems_typed (h : s.typedItem = some item) :
    inferItems family kind property owner s.items =
      (inferType family kind property owner item).map (·.map Descriptor.arrayOf) := by
  obtain ⟨hitems, htype⟩ := Option.filter_eq_some_iff.mp h
  rw [hitems, inferItems, if_pos htype]

/-- One array is put around the type of the items, and what they say of null is dropped. -/
theorem inferType_arrayItem (h : s.arrayItem = some item) :
    inferType family kind property owner s =
      (inferType family kind property owner item).map
        (.map fun d => d.arrayOf.withNullable s.isUnion) := by
  obtain ⟨⟨nullable, hk⟩, hitem⟩ := Schema.arrayItem_eq_some.mp h
  rw [inferType_array hk, inferItems_typed hitem, bind_map, hk.isUnion_eq]
  cases inferType family kind property owner item <;> rfl

/-- All that is inferred of the first schema of a chain is inferred of the last one. -/
theorem ItemChain.inferType_eq (h : ItemChain s outer last) :
    inferType family kind property owner s =
      (inferType family kind property owner last).map
        (.map fun d => (d.arrays outer.length).withNullable s.isUnion) := by
  induction h with
  | @last s hnone =>
    cases hs : inferType family kind property owner s with
    | error e => rfl
    | ok x =>
      have hnullable := ((union_invariant family kind).type property owner s hs).1
      rw [← hnullable]
      rfl
  | array hitem _ ih =>
    rw [inferType_arrayItem hitem, ih, map_map]
    rfl

end

/-! ### The text of arrays -/

theorem TypeExpr.text_arrays (e : TypeExpr) (n : Nat) :
    (e.arrays n).text = e.text ++ String.join (List.replicate n "[]") := by
  induction n with
  | zero => simp [arrays]
  | succ n ih =>
    have hlast : String.join (List.replicate (n + 1) "[]") =
        String.join (List.replicate n "[]") ++ "[]" := by
      rw [List.replicate_succ', String.join_append]
      simp
    have hone : (e.arrays (n + 1)).text = (e.arrays n).text ++ "[]" := rfl
    rw [hone, ih, hlast, String.append_assoc]

/-! ### Arrays compose -/

/-- What is inferred of a schema, where the arrays `outer` lead to the schema `last`. -/
structure ArraysCompose (family : Family) (kind : ValueKind) (property owner : String)
    (s : Schema) (outer : List Schema) (last : Schema) : Prop where
  chain : ItemChain s outer last
  unique : ∀ {outer' last'}, ItemChain s outer' last' → outer' = outer ∧ last' = last
  /-- The two schemas are refused for the same reason, if at all. -/
  error_iff : ∀ e, inferType family kind property owner s = .error e ↔
    inferType family kind property owner last = .error e
  /-- If they are accepted, each has a type of one expression. That of the first is that of
  the last, which is no array of items with a type, with an array around it for each schema
  passed. The type admits null exactly if the tags of the first schema are a list, and is
  written so. -/
  ok : ∀ x, inferType family kind property owner s = .ok x →
    ∃ y e, inferType family kind property owner last = .ok y ∧
      y.value.types = [e] ∧ (∀ item, e ≠ .array item) ∧
      x.value.types = [e.arrays outer.length] ∧
      x.value.nullable = s.isUnion ∧
      x.subTypes = y.subTypes ∧ x.warnings = y.warnings ∧
      x.value.text = e.text ++ String.join (List.replicate outer.length "[]") ++
        (if s.isUnion then " | null" else "")

/-- **Arrays compose.** Every schema leads through the items of arrays to a last schema, on
which its type depends: with as many arrays around it as are passed, and with null exactly if
the first schema has it, whatever the schemas below say. -/
theorem arrays_compose (family : Family) (kind : ValueKind) (property owner : String)
    (s : Schema) : ∃ outer last, ArraysCompose family kind property owner s outer last := by
  obtain ⟨outer, last, hchain⟩ := exists_itemChain s
  have heq : inferType family kind property owner s =
      (inferType family kind property owner last).map
        (.map fun d => (d.arrays outer.length).withNullable s.isUnion) := hchain.inferType_eq
  refine ⟨outer, last, hchain, hchain.unique, fun e => ?_, fun x hx => ?_⟩
  · rw [heq]
    cases inferType family kind property owner last <;> simp [Except.map]
  · rw [hx] at heq
    obtain ⟨y, hy, rfl⟩ := map_eq_ok.mp heq.symm
    obtain ⟨e, hvalue, hcore⟩ := exists_single_of_inferType hy
    have htypes : ((y.value.arrays outer.length).withNullable s.isUnion).types =
        [e.arrays outer.length] := by
      rw [hvalue]
      exact Descriptor.types_arrays _ _
    refine ⟨y, e, hy, by rw [hvalue]; rfl, hcore hchain.arrayItem_last, htypes, rfl, rfl, rfl, ?_⟩
    simp only [Inferred.map, Descriptor.text, htypes, List.map_singleton,
      String.intercalate_singleton, TypeExpr.text_arrays]
    rfl

/-- An object that may be null, with a link to nothing. -/
def unitSchema : Schema :=
  { type := some (.union ["object", "null"]), properties := [
    ("head", { type := some (.single "relationship") })] }

/-- An array around it that may be null. -/
def unitsSchema : Schema :=
  { type := some (.union ["array", "null"]), items := some unitSchema }

/-- An array around that. -/
def nestedUnits : Schema := { type := some (.single "array"), items := some unitsSchema }

theorem arrays_compose_units :
    ArraysCompose .managed .any "units" "ManagedUser" nestedUnits [nestedUnits, unitsSchema]
        unitSchema ∧
      ∃ x y, inferType .managed .any "units" "ManagedUser" nestedUnits = .ok x ∧
        inferType .managed .any "units" "ManagedUser" unitSchema = .ok y ∧
        x.value.text = "SubManagedUserUnits[][]" ∧
        y.value.text = "SubManagedUserUnits | null" ∧
        x.subTypes = y.subTypes ∧ x.warnings = y.warnings ∧ y.warnings.length = 1 := by
  have hchain : ItemChain nestedUnits [nestedUnits, unitsSchema] unitSchema :=
    .array rfl (.array rfl (.last rfl))
  obtain ⟨outer, last, h⟩ := arrays_compose .managed .any "units" "ManagedUser" nestedUnits
  obtain ⟨rfl, rfl⟩ := h.unique hchain
  have hx : (inferType .managed .any "units" "ManagedUser" nestedUnits).toOption.map
      (fun x => (x.value.text, x.warnings.length)) = some ("SubManagedUserUnits[][]", 1) := by
    decide +kernel
  have hy : (inferType .managed .any "units" "ManagedUser" unitSchema).toOption.map
      (fun y => y.value.text) = some "SubManagedUserUnits | null" := by
    decide +kernel
  obtain ⟨x, hx, htext⟩ := toOption_map_eq_some.mp hx
  obtain ⟨htext, hlength⟩ := Prod.mk.inj htext
  obtain ⟨y, e, hy', -, -, -, -, hsub, hwarn, -⟩ := h.ok x hx
  obtain ⟨z, hz, hztext⟩ := toOption_map_eq_some.mp hy
  obtain rfl := Except.ok.inj (hy'.symm.trans hz)
  exact ⟨h, x, y, hx, hy', htext, hztext, hsub, hwarn, hwarn ▸ hlength⟩

end IdentityTypes
