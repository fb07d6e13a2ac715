/-
# Schemas are read as they are written

A schema is got back from every layout of it, and so are the documents with the schemas of
the configuration. Whatever the order of the members, the reader has at any time the schema
as far as the members that it has read (`Schema.sofar`); the schemas inside are read by
recursion over the levels that are left.

Key definitions: `Schema.sofar`, `ManagedObject.sofar`.
Key theorems: `Schema.Layout.settled`, `Schema.WrittenAs.read`, `ManagedAs.read`,
`ObjectTypesAs.read`.
-/
import IdentityTypes.Proofs.Schema.Writing

namespace IdentityTypes

open Json Record

/-! ### Texts -/

section

variable {depth : Nat} {texts : List String} {n : Node}

theorem completeItems_texts {ns : List Node} (h : List.Forall₂ textAs texts ns) :
    completeItems depth ns = some (texts.map .string) := by
  induction h with
  | nil => rfl
  | cons hn _ ih =>
    cases hn
    rw [completeItems, ih]
    rfl

/-- An array of texts is complete where there is a level for it. -/
theorem complete_texts (h : ListAs depth textAs texts n) :
    n.complete depth = some (.array (texts.map .string)) := by
  obtain ⟨hdepth, ns, rfl, hns⟩ := h
  obtain ⟨depth, rfl⟩ := Nat.exists_eq_add_one_of_ne_zero hdepth
  rw [Node.complete, if_pos rfl, completeItems_texts hns]
  rfl

theorem textsOf_map (texts : List String) : textsOf (texts.map .string) = some texts := by
  induction texts with
  | nil => rfl
  | cons t ts ih =>
    rw [List.map_cons, textsOf, ih]
    rfl

theorem namesOf_map (names : List String) : namesOf (names.map .string) = .ok names := by
  induction names with
  | nil => rfl
  | cons name names ih =>
    rw [List.map_cons, namesOf, ih]
    rfl

theorem read_textAs {text : String} (h : textAs text n) : n ≠ .null ∧ n.readString = .ok text := by
  cases h
  exact ⟨nofun, rfl⟩

/-! ### Parts of a schema -/

theorem TypeTag.WrittenAs.read {tag : TypeTag} (h : tag.WrittenAs depth n) :
    n ≠ .null ∧ readTypeTag depth n = .ok tag := by
  cases tag with
  | single tag =>
    cases h
    exact ⟨nofun, rfl⟩
  | union tags =>
    have hcomplete := complete_texts h
    obtain ⟨-, ns, rfl, -⟩ := h
    refine ⟨nofun, ?_⟩
    rw [readTypeTag, hcomplete]
    simp only [typeTagOf, textsOf_map]

theorem RequiredAs.read {names : List String} (h : RequiredAs depth names n) :
    readRequired depth n = .ok names := by
  cases h with
  | names h =>
    rw [readRequired, complete_texts h]
    exact namesOf_map names
  | flag b => rfl
  | null => rfl

/-- A collection as far as the members of these names go. -/
def ResourceCollection.sofar (c : ResourceCollection) (seen : List String) :
    ResourceCollection where
  path := known seen "path" c.path ""

theorem ResourceCollection.WrittenAs.read {c : ResourceCollection} (h : c.WrittenAs depth n) :
    ResourceCollection.record.read depth n = .ok c := by
  obtain ⟨ms, hpath, hread⟩ := ObjectAs.read ResourceCollection.record c.sofar h
    rfl rfl fun ms hpath => List.forall_mem_singleton.mpr <|
      hpath.settled False.elim (fun _ hn => (read_textAs hn).2) fun seen => by simp [sofar, known]
  rw [hread, sofar, known_of_laid (by decide) hpath False.elim]

end

/-! ### Schemas -/

namespace Schema

/-- A schema as far as the members of these names go. -/
def sofar (s : Schema) (seen : List String) : Schema where
  type := known seen "type" s.type none
  title := known seen "title" s.title none
  description := known seen "description" s.description none
  properties := known seen "properties" s.properties []
  required := known seen "required" s.required []
  items := known seen "items" s.items none
  collections := known seen "resourceCollection" s.collections []
  returnByDefault := known seen "returnByDefault" s.returnByDefault none

section

variable {depth : Nat} {item property : Schema → Node → Prop}
  {readItem readProperty : Node → Except Fault Schema} {s : Schema}
  {ms : List (Option String × Node)} {n : Node}

/-- Every member of a schema takes it one name further, if the schemas inside are read. -/
theorem Layout.settled (h : s.Layout depth item property ms)
    (hnames : (s.properties.map (·.1)).Nodup)
    (hitem : ∀ i ∈ s.items, ∀ n, item i n → n ≠ .null ∧ readItem n = .ok i)
    (hproperty : ∀ p ∈ s.properties, ∀ n, property p.2 n → readProperty n = .ok p.2) :
    ∀ f ∈ (record depth readItem readProperty).fields, f.Settled s.sofar ms := by
  have hoptional : ∀ {p : Prop}, p → Absence.optional ≠ .mandatory := fun _ => by decide
  have hdefaulted : ∀ {p : Prop}, p → Absence.defaulted ≠ .mandatory := fun _ => by decide
  simp only [record, List.forall_mem_cons]
  refine ⟨?type, ?title, ?description, ?properties, ?required, ?items, ?collections,
    ?returnByDefault, List.forall_mem_nil _⟩
  case type =>
    exact h.type.settled hoptional (fun _ hn => readNullable_orNull hn fun _ _ h => h.read)
      fun seen => by simp [sofar, known]
  case title =>
    exact h.title.settled hoptional
      (fun _ hn => readNullable_orNull hn fun _ _ h => read_textAs h)
      fun seen => by simp [sofar, known]
  case description =>
    exact h.description.settled hoptional
      (fun _ hn => readNullable_orNull hn fun _ _ h => read_textAs h)
      fun seen => by simp [sofar, known]
  case properties =>
    exact h.properties.settled hdefaulted (fun _ hn => hn.readMap hnames hproperty)
      fun seen => by simp [sofar, known]
  case required =>
    exact h.required.settled hdefaulted (fun _ hn => hn.read) fun seen => by simp [sofar, known]
  case items =>
    exact h.items.settled hoptional
      (fun _ hn => readNullable_orNull hn fun i hi h => hitem i hi _ h)
      fun seen => by simp [sofar, known]
  case collections =>
    exact h.collections.settled hdefaulted (fun _ hn => hn.readList fun _ _ _ hc => hc.read)
      fun seen => by simp [sofar, known]
  case returnByDefault =>
    exact h.returnByDefault.settled hoptional
      (fun _ hn => readNullable_orNull hn fun b _ h => by subst h; exact ⟨nofun, rfl⟩)
      fun seen => by simp [sofar, known]

/-- In the end the schema is known. -/
theorem Layout.sofar_eq (h : s.Layout depth item property ms) :
    s.sofar ((record depth readItem readProperty).namesIn ms) = s := by
  have hname : ∀ name ∈ memberNames,
      name ∈ (record depth readItem readProperty).fields.map (·.name) := fun _ h => h
  simp only [sofar, known_of_laid (hname "type" (by decide)) h.type id,
    known_of_laid (hname "title" (by decide)) h.title id,
    known_of_laid (hname "description" (by decide)) h.description id,
    known_of_laid (hname "properties" (by decide)) h.properties id,
    known_of_laid (hname "required" (by decide)) h.required id,
    known_of_laid (hname "items" (by decide)) h.items id,
    known_of_laid (hname "resourceCollection" (by decide)) h.collections id,
    known_of_laid (hname "returnByDefault" (by decide)) h.returnByDefault id]
  cases s
  rfl

/-- A schema is read from its object, if the schemas inside are. -/
theorem read_layout {levels : Nat}
    (h : ObjectAs levels memberNames (s.Layout depth item property) n)
    (hnames : (s.properties.map (·.1)).Nodup)
    (hitem : ∀ i ∈ s.items, ∀ n, item i n → n ≠ .null ∧ readItem n = .ok i)
    (hproperty : ∀ p ∈ s.properties, ∀ n, property p.2 n → readProperty n = .ok p.2) :
    (record depth readItem readProperty).read levels n = .ok s := by
  obtain ⟨ms, hlayout, hread⟩ := ObjectAs.read (record depth readItem readProperty) s.sofar h
    rfl rfl fun _ hlayout => hlayout.settled hnames hitem hproperty
  rw [hread, hlayout.sofar_eq]

end

/-- A schema is read from whatever it is written as. -/
theorem WrittenAs.read : ∀ {depth : Nat} {s : Schema} {n : Node}, s.NamesDiffer →
    s.WrittenAs depth n → n ≠ .null ∧ Schema.read depth n = .ok s
  | 0, _, _, _, h => h.elim
  | 1, s, n, .mk hnames _ _, h => by
    refine ⟨h.ne_null, ?_⟩
    rw [Schema.read]
    exact read_layout h hnames (fun _ _ _ hn => hn.elim) fun _ _ _ hn => hn.elim
  | depth + 2, s, n, .mk hnames hproperties hitems, h => by
    refine ⟨h.ne_null, ?_⟩
    rw [Schema.read]
    exact read_layout h hnames (fun i hi _ hn => read (hitems i hi) hn)
      fun p hp _ hn => (read (hproperties p hp) hn).2

end Schema

/-! ### Documents -/

section

variable {depth : Nat} {n : Node}

/-- A managed object as far as the members of these names go. -/
def ManagedObject.sofar (o : ManagedObject) (seen : List String) : ManagedObject where
  name := known seen "name" o.name ""
  schema := known seen "schema" o.schema {}

theorem ManagedObject.WrittenAs.read {o : ManagedObject} (hnames : o.schema.NamesDiffer)
    (h : o.WrittenAs depth n) : (ManagedObject.record depth).read depth n = .ok o := by
  obtain ⟨ms, ⟨hname, hschema⟩, hread⟩ := ObjectAs.read (ManagedObject.record depth)
    o.sofar h rfl rfl fun ms ⟨hname, hschema⟩ => List.forall_mem_cons.mpr
      ⟨hname.settled False.elim (fun _ hn => (read_textAs hn).2) fun seen => by
          simp [sofar, known],
        List.forall_mem_singleton.mpr <| hschema.settled False.elim
          (fun _ hn => (hn.read hnames).2) fun seen => by simp [sofar, known]⟩
  have hnames : ∀ key ∈ ["name", "schema"],
      key ∈ (ManagedObject.record depth).fields.map (·.name) := fun _ h => h
  rw [hread, sofar, known_of_laid (hnames "name" (by decide)) hname False.elim,
    known_of_laid (hnames "schema" (by decide)) hschema False.elim]

/-- The managed objects are read from every text of a document with them. -/
theorem ManagedAs.read {objects : List ManagedObject} {text : String}
    (hnames : ∀ o ∈ objects, o.schema.NamesDiffer) (h : ManagedAs maxDepth objects n)
    (hspells : n.Spells text) : readManaged text = .ok objects := by
  refine readText_eq_ok ?_ hspells
  obtain ⟨ms, hobjects, hread⟩ := ObjectAs.read (managedRecord maxDepth)
    (fun seen => known seen "objects" objects []) h rfl rfl fun ms hobjects =>
      List.forall_mem_singleton.mpr <| hobjects.settled False.elim
        (fun _ hn => hn.readList fun o ho _ hn => hn.read (hnames o ho))
        fun seen => by simp [known]
  have hname : "objects" ∈ (managedRecord maxDepth).fields.map (·.name) := List.mem_singleton_self _
  rw [hread, known_of_laid hname hobjects False.elim]

/-- The object types of a connector are read from every text of a document with them. -/
theorem ObjectTypesAs.read {types : List (String × Schema)} {text : String}
    (hdiffer : (types.map (·.1)).Nodup) (hnames : ∀ t ∈ types, t.2.NamesDiffer)
    (h : ObjectTypesAs maxDepth types n) (hspells : n.Spells text) :
    readObjectTypes text = .ok types := by
  refine readText_eq_ok ?_ hspells
  obtain ⟨ms, htypes, hread⟩ := ObjectAs.read (objectTypesRecord maxDepth)
    (fun seen => known seen "objectTypes" types []) h rfl rfl fun ms htypes =>
      List.forall_mem_singleton.mpr <| htypes.settled False.elim
        (fun _ hn => hn.readMap hdiffer fun t ht _ hn => (hn.read (hnames t ht)).2)
        fun seen => by simp [known]
  have hname : "objectTypes" ∈ (objectTypesRecord maxDepth).fields.map (·.name) :=
    List.mem_singleton_self _
  rw [hread, known_of_laid hname htypes False.elim]

end

end IdentityTypes
