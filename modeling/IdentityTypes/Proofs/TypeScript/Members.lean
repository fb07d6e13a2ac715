/-
# The members of declared types

A declared type has a member for each property of the schema that it is declared for, and
the schemas that are read have no two properties of one name. The type of a resource has one
member more, `_tag`, and so do the keys that reads return by default. A property may well be
called so too, and nothing keeps the two apart: then, and only then, a name stands twice.

Key definitions: `Declaration.keys`, `ObjectType.keys`, `TagIsFree`.
Key theorems: `Reached.namesDiffer`, `build_propertyNames`, `forall_keys_iff`,
`nodup_keys_iff`.
-/
import IdentityTypes.Proofs.Inference.Mirror
import IdentityTypes.Proofs.Schema.Distinct
import IdentityTypes.Proofs.TypeScript.ReadBack

namespace IdentityTypes

/-! ### Properties have the names that schemas give them -/

/-- The names of the properties of a schema. -/
def Schema.propertyNames (s : Schema) : List String := s.properties.map (·.1)

/-- The names of the properties of a declared type. -/
def propertyNames (properties : List Property) : List String := properties.map (·.name)

theorem propertyNames_of_entries {ps : List Property} {s : Schema} (h : entriesOf ps = s.entries) :
    propertyNames ps = s.propertyNames := by
  have hnames := congrArg (List.map Prod.fst) h
  simp only [entriesOf, Schema.entries, List.map_map] at hnames
  exact hnames

/-- Where names differ in a schema, they do in all schemas that are met in it. -/
theorem Reached.namesDiffer {owner : Option String} {properties : List (String × Schema)}
    (h : ∀ p ∈ properties, p.2.NamesDiffer) {n : SchemaNode} (hn : Reached owner properties n) :
    n.schema.NamesDiffer := by
  induction hn with
  | property hs => exact h _ hs
  | member _ _ hs ih =>
    obtain ⟨-, hproperties, -⟩ := ih
    exact hproperties _ hs
  | item _ _ hs ih =>
    obtain ⟨-, -, hitems⟩ := ih
    exact hitems _ (Option.filter_eq_some_iff.mp hs).1

theorem Schema.NamesDiffer.nodup {s : Schema} (h : s.NamesDiffer) : s.propertyNames.Nodup := by
  obtain ⟨hnames, -, -⟩ := h
  exact hnames

/-- Sub types have properties of different names, if the nodes have that they mirror. -/
theorem Mirrors.nodup_propertyNames {walk : List SchemaNode} {subTypes : List SubType}
    (h : Mirrors walk subTypes) (hwalk : ∀ n ∈ walk, n.schema.NamesDiffer) :
    ∀ t ∈ subTypes, (propertyNames t.properties).Nodup := by
  intro t ht
  have hmem := h.mem_iff.mp (List.mem_map_of_mem ht)
  obtain ⟨n, hn, houtline⟩ := List.mem_map.mp hmem
  have hentries : entriesOf t.properties = n.schema.entries :=
    (congrArg Outline.entries houtline).symm
  rw [propertyNames_of_entries hentries]
  exact (hwalk n (List.mem_filter.mp hn).1).nodup

section

variable {s : Settings} {objects : List ManagedObject} {connectors : List Connector} {c : Catalog}

/-- A resource has the properties of its object. -/
theorem build_propertyNames (h : build s objects connectors = .ok c) :
    (c.managed.map fun r => propertyNames r.properties).Perm
        (objects.map fun o => o.schema.propertyNames) ∧
      (c.system.map fun r => propertyNames r.properties).Perm
        ((objectTypesOf connectors).map fun t => t.2.2.propertyNames) := by
  obtain ⟨⟨hmanaged, -⟩, hsystem, -⟩ := build_mirror h
  have hmanaged := hmanaged.map fun shape => shape.2.2.map (·.1)
  have hsystem := hsystem.map fun shape => shape.2.2.2.map (·.1)
  simp only [List.map_map, Function.comp_def, ManagedResource.shape, ManagedObject.shape,
    SystemResource.shape, objectTypeShape, entriesOf, Schema.entries] at hmanaged hsystem
  exact ⟨hmanaged, hsystem⟩

/-- The schemas of a configuration that is read have no two properties of one name, and so
sub types have none. -/
theorem build_nodup_propertyNames (hobjects : ∀ o ∈ objects, o.schema.NamesDiffer)
    (htypes : ∀ k ∈ connectors, ∀ t ∈ k.objectTypes, t.2.NamesDiffer)
    (h : build s objects connectors = .ok c) :
    (∀ t ∈ c.managedSubTypes, (propertyNames t.properties).Nodup) ∧
      ∀ t ∈ c.systemSubTypes, (propertyNames t.properties).Nodup := by
  obtain ⟨⟨-, hmanaged⟩, -, hsystem⟩ := build_mirror h
  refine ⟨hmanaged.nodup_propertyNames fun n hn => ?_, hsystem.nodup_propertyNames fun n hn => ?_⟩
  · obtain ⟨o, ho, hn⟩ := mem_managedNodes_iff.mp hn
    obtain ⟨-, hproperties, -⟩ := hobjects o ho
    exact hn.namesDiffer hproperties
  · obtain ⟨k, hk, t, ht, hn⟩ := mem_systemNodes_iff.mp hn
    obtain ⟨-, hproperties, -⟩ := htypes k hk t ht
    exact hn.namesDiffer hproperties

end

namespace TypeScript

/-! ### The keys of a declaration -/

/-- The names of the members that a declaration gives a type. -/
def Declaration.keys : Declaration → List String
  | .object _ tag properties => tag.toList.map (fun _ => tagName) ++ propertyNames properties
  | .pick _ _ keys => keys

/-- The keys in what a line says. -/
def Item.keys : Item → List String
  | .tag _ => [tagName]
  | .field f => [f.name]
  | .pick p => p.keys
  | _ => []

/-- The names of the members of an object type that is read. -/
def ObjectType.keys (t : ObjectType) : List String :=
  t.path.toList.map (fun _ => tagName) ++ t.fields.map (·.name)

/-- The keys of a declaration are those that its lines have, without their quotes. -/
theorem flatMap_keys_items (d : Declaration) : d.items.flatMap Item.keys = d.keys := by
  cases d with
  | object name tag properties =>
    have hfields : (properties.map fun p => Item.field (Field.of p)).flatMap Item.keys =
        propertyNames properties := by
      rw [List.flatMap_map, propertyNames, List.map_eq_flatMap]
      rfl
    cases tag <;>
      simp [Declaration.items, Declaration.keys, Item.keys, List.flatMap_cons, hfields]
  | pick name source keys => exact List.append_nil keys

variable {c : Catalog}

theorem forall_declarations_iff {P : Declaration → Prop} : (∀ d ∈ declarations c, P d) ↔
    (∀ r ∈ c.managed, ∀ d ∈ managedDeclarations r, P d) ∧
      (∀ t ∈ c.managedSubTypes, P (subTypeDeclaration t)) ∧
        (∀ r ∈ c.system, P (systemDeclaration r)) ∧
          ∀ t ∈ c.systemSubTypes, P (subTypeDeclaration t) := by
  simp only [declarations, List.forall_mem_append, List.forall_mem_flatMap, List.forall_mem_map]

theorem keys_type? (name : String) (tag : Option String) (properties : List Property) :
    (ObjectType.mk name tag (properties.map Field.of)).keys =
      (Declaration.object name tag properties).keys := by
  rw [ObjectType.keys, Declaration.keys, List.map_map]
  rfl

/-- What is said of the keys of all declarations can be said of the object types and of the
choices of keys among them. -/
theorem forall_keys_iff {P : List String → Prop} (ds : List Declaration) :
    (∀ d ∈ ds, P d.keys) ↔ (∀ t ∈ ds.filterMap Declaration.type?, P t.keys) ∧
      ∀ p ∈ ds.filterMap Declaration.pick?, P p.keys := by
  simp only [List.forall_mem_filterMap, ← forall₂_and]
  refine forall₂_congr fun d _ => ?_
  cases d with
  | object name tag properties => simp [Declaration.type?, Declaration.pick?, keys_type?]
  | pick name source keys => simp [Declaration.type?, Declaration.pick?, Declaration.keys]

/-- All names in the declarations of a resource differ exactly if the properties differ, and
none is called like the member that holds the path. -/
theorem nodup_managedDeclarations_iff {r : ManagedResource} :
    (∀ d ∈ managedDeclarations r, d.keys.Nodup) ↔
      tagName ∉ propertyNames r.properties ∧ (propertyNames r.properties).Nodup := by
  have hobject : (Declaration.object r.typeName (some r.path) r.properties).keys =
      tagName :: propertyNames r.properties := rfl
  have hpick : (defaultKeys r.properties).Sublist (tagName :: propertyNames r.properties) :=
    (List.filter_sublist.map _).cons_cons _
  rw [managedDeclarations, List.forall_mem_cons, List.forall_mem_singleton, hobject,
    ← List.nodup_cons]
  exact and_iff_left_of_imp fun h => hpick.nodup h

theorem nodup_systemDeclaration_iff {r : SystemResource} :
    (systemDeclaration r).keys.Nodup ↔
      tagName ∉ propertyNames r.properties ∧ (propertyNames r.properties).Nodup :=
  List.nodup_cons

/-- No managed object and no object type has a property that is called like the member that
holds the path of a resource. -/
def TagIsFree (objects : List ManagedObject) (connectors : List Connector) : Prop :=
  (∀ o ∈ objects, tagName ∉ o.schema.propertyNames) ∧
    ∀ k ∈ connectors, ∀ t ∈ k.objectTypes, tagName ∉ t.2.propertyNames

instance (objects : List ManagedObject) (connectors : List Connector) :
    Decidable (TagIsFree objects connectors) := inferInstanceAs (Decidable (_ ∧ _))

/-- **A member has its name for itself unless a property takes that of the tag.** In the module
of a configuration that is read, the keys of each declared type and of what reads return by
default differ exactly if no managed object and no object type has a property `_tag` of its
own. Sub types have members of different names in any case. The keys are those that the
lines of the declarations have, and those that are read from the text where the names of
types are identifiers. -/
theorem nodup_keys_iff {s : Settings} {text : String} {objects : List ManagedObject}
    {connectors : List Connector} (hobjects : readManaged text = .ok objects)
    (htypes : ∀ k ∈ connectors, ∃ text, readObjectTypes text = .ok k.objectTypes)
    (h : build s objects connectors = .ok c) :
    ((∀ d ∈ declarations c, d.keys.Nodup) ↔ TagIsFree objects connectors) ∧
      (∀ family, ∀ t ∈ c.subTypesOf family, (subTypeDeclaration t).keys.Nodup) ∧
      (∀ d ∈ declarations c, d.IsReadable → (readLines d.lines).flatMap Item.keys = d.keys) ∧
      (IsReadable c → ∀ runtimeModule,
        ((∀ t ∈ (read (render runtimeModule c)).types, t.keys.Nodup) ∧
            ∀ p ∈ (read (render runtimeModule c)).picks, p.keys.Nodup) ↔
          TagIsFree objects connectors) := by
  have hobjects := namesDiffer_of_readManaged hobjects
  have htypes : ∀ k ∈ connectors, ∀ t ∈ k.objectTypes, t.2.NamesDiffer := fun k hk => by
    obtain ⟨text, htext⟩ := htypes k hk
    exact (namesDiffer_of_readObjectTypes htext).2
  obtain ⟨hmanagedSub, hsystemSub⟩ := build_nodup_propertyNames hobjects htypes h
  obtain ⟨hmanaged, hsystem⟩ := build_propertyNames h
  have hkeys : (∀ d ∈ declarations c, d.keys.Nodup) ↔ TagIsFree objects connectors := by
    have hmanagedIff := forall_of_perm_map hmanaged (P := fun names => tagName ∉ names ∧ names.Nodup)
    have hsystemIff := forall_of_perm_map hsystem (P := fun names => tagName ∉ names ∧ names.Nodup)
    rw [forall_declarations_iff]
    simp only [nodup_managedDeclarations_iff, nodup_systemDeclaration_iff, hmanagedIff, hsystemIff,
      forall_objectTypesOf_iff]
    constructor
    · rintro ⟨hobject, -, htype, -⟩
      exact ⟨fun o ho => (hobject o ho).1, fun k hk t ht => (htype k hk t ht).1⟩
    · rintro ⟨hobject, htype⟩
      exact ⟨fun o ho => ⟨hobject o ho, (hobjects o ho).nodup⟩, hmanagedSub,
        fun k hk t ht => ⟨htype k hk t ht, (htypes k hk t ht).nodup⟩, hsystemSub⟩
  refine ⟨hkeys, ?_, fun d _ hd => ?_, fun hread runtimeModule => ?_⟩
  · rintro (_ | _)
    · exact hmanagedSub
    · exact hsystemSub
  · rw [readLines_declaration hd, flatMap_keys_items]
  · rw [← hkeys, forall_keys_iff, filterMap_type?_declarations, filterMap_pick?_declarations,
      read, items_render hread, run_module]

/-- A document in which a key is given twice, and a property inside an object is called like
the tag. -/
def homeDocument : String :=
  "\x7b\"objects\":[\x7b\"name\":\"user\",\"schema\":\x7b\"properties\":\x7b" ++
    "\"tag\":\x7b\"type\":\"number\"\x7d,\"home\":\x7b\"type\":\"object\",\"properties\":\x7b" ++
    "\"_tag\":\x7b\"type\":\"string\"\x7d,\"\\u0031\":\x7b\"type\":\"string\"\x7d\x7d\x7d," ++
    "\"tag\":\x7b\"type\":\"string\"\x7d\x7d\x7d\x7d]\x7d"

/-- The object types of a connector with one property. -/
def accountDocument : String :=
  "\x7b\"objectTypes\":\x7b\"account\":\x7b\"properties\":\x7b\"__NAME__\":" ++
    "\x7b\"type\":\"string\"\x7d\x7d\x7d\x7d\x7d"

theorem nodup_keys_home : ∃ objects types c, readManaged homeDocument = .ok objects ∧
    readObjectTypes accountDocument = .ok types ∧ build {} objects [⟨"ldap", types⟩] = .ok c ∧
    (declarations c).map Declaration.keys = [["_tag", "tag", "home"], ["_tag", "tag", "home"],
      ["_tag", "1"], ["_tag", "__NAME__"]] ∧
    (∀ d ∈ declarations c, d.keys.Nodup) ∧
    ∀ t ∈ (read (render "idm-ts" c)).types, t.keys.Nodup := by
  have h : ((readManaged homeDocument).toOption.bind fun objects =>
      (readObjectTypes accountDocument).toOption.bind fun types =>
        (build {} objects [⟨"ldap", types⟩]).toOption.map fun c =>
          ((declarations c).map Declaration.keys,
            decide (TagIsFree objects [⟨"ldap", types⟩]), decide (IsReadable c))) =
      some ([["_tag", "tag", "home"], ["_tag", "tag", "home"], ["_tag", "1"],
        ["_tag", "__NAME__"]], true, true) := by
    decide +kernel
  obtain ⟨objects, hobjects, h⟩ := toOption_bind_eq_some.mp h
  obtain ⟨types, htypes, h⟩ := toOption_bind_eq_some.mp h
  obtain ⟨c, hc, h⟩ := toOption_map_eq_some.mp h
  simp only [Prod.mk.injEq, decide_eq_true_eq] at h
  obtain ⟨hkeys, hfree, hread⟩ := h
  obtain ⟨hnodup, -, -, htext⟩ := nodup_keys_iff hobjects
    (List.forall_mem_singleton.mpr ⟨accountDocument, htypes⟩) hc
  exact ⟨objects, types, c, hobjects, htypes, hc, hkeys, hnodup.mpr hfree,
    ((htext hread "idm-ts").mpr hfree).1⟩

/-- A document of a managed object with a property that is called like the tag. -/
def tagDocument : String :=
  "\x7b\"objects\":[\x7b\"name\":\"user\",\"schema\":\x7b\"properties\":\x7b\"_tag\":" ++
    "\x7b\"type\":\"string\"\x7d\x7d\x7d\x7d]\x7d"

/-- The type of the object has two members `_tag`, and reads return this key twice. -/
theorem keys_tag_twice : ∃ objects c, readManaged tagDocument = .ok objects ∧
    build {} objects [] = .ok c ∧
    (∃ t ∈ (read (render "idm-ts" c)).types, t.keys = ["_tag", "_tag"] ∧ ¬ t.keys.Nodup) ∧
    ∃ p ∈ (read (render "idm-ts" c)).picks, p.keys = ["_tag", "_tag"] ∧ ¬ p.keys.Nodup := by
  have h : ((readManaged tagDocument).toOption.bind fun objects =>
      (build {} objects []).toOption.map fun c =>
        (decide (∃ t ∈ (outline c).types, t.keys = ["_tag", "_tag"] ∧ ¬ t.keys.Nodup),
          decide (∃ p ∈ (outline c).picks, p.keys = ["_tag", "_tag"] ∧ ¬ p.keys.Nodup),
          decide (IsReadable c))) = some (true, true, true) := by
    decide +kernel
  obtain ⟨objects, hobjects, h⟩ := toOption_bind_eq_some.mp h
  obtain ⟨c, hc, h⟩ := toOption_map_eq_some.mp h
  simp only [Prod.mk.injEq, decide_eq_true_eq] at h
  obtain ⟨htypes, hpicks, hread⟩ := h
  refine ⟨objects, c, hobjects, hc, ?_⟩
  rw [read, items_render hread, run_module]
  exact ⟨htypes, hpicks⟩

end TypeScript

end IdentityTypes
