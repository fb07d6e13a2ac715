/-
# Reading the module back

The text of the module tells which types it declares, with their properties, what reads
return by default, and which accessors there are. It is read line by line with the
declaration that has been begun and the family of the accessors in mind. What is read is
written down here from the catalog alone, without titles and descriptions, and so these
have no part in it; nor has the module that is imported.

Key definitions: `Outline`, `outline`, `Reading`, `Reading.step`, `read`.
Key theorems: `Reading.run_declarations`, `Reading.run_entries`, `run_module`,
`read_render`.
-/
import IdentityTypes.Proofs.TypeScript.Reader

namespace IdentityTypes.TypeScript

/-! ### What a module declares -/

/-- An object type: its name, the path if it is that of a resource, and the properties in
order. -/
structure ObjectType where
  name : String
  path : Option String
  fields : List Field
  deriving DecidableEq, Repr

/-- What a module declares, in order. -/
structure Outline where
  types : List ObjectType := []
  picks : List Pick := []
  managed : List Entry := []
  system : List Entry := []
  deriving DecidableEq, Repr

/-- The object type of a managed object. -/
def managedType (r : ManagedResource) : ObjectType :=
  ⟨r.typeName, some ("managed/" ++ r.name), r.properties.map Field.of⟩

/-- The object type of an object of a connector. -/
def systemType (r : SystemResource) : ObjectType :=
  ⟨r.typeName, some ("system/" ++ r.fullName), r.properties.map Field.of⟩

/-- The object type of a sub type. -/
def subTypeType (s : SubType) : ObjectType := ⟨s.typeName, none, s.properties.map Field.of⟩

/-- What reads of a managed object return by default: all but the properties that are said
not to be returned. -/
def managedPick (r : ManagedResource) : Pick :=
  ⟨r.typeName ++ "Defaults", r.typeName,
    "_tag" :: (r.properties.filter fun p => p.returnByDefault != some false).map (·.name)⟩

/-- What the module of a catalog declares. -/
def outline (c : Catalog) : Outline where
  types := c.managed.map managedType ++ (c.managedSubTypes.map subTypeType ++
    (c.system.map systemType ++ c.systemSubTypes.map subTypeType))
  picks := c.managed.map managedPick
  managed := c.managed.map fun r =>
    ⟨r.name, r.typeName, r.typeName ++ "Defaults", "managed/" ++ r.name⟩
  system := c.system.map fun r => ⟨r.valueName, r.typeName, r.typeName, "system/" ++ r.fullName⟩

/-- The outline with some more accessors of a family. -/
def Outline.add (o : Outline) (es : List Entry) : Family → Outline
  | .managed => { o with managed := o.managed ++ es }
  | .system => { o with system := o.system ++ es }

/-! ### The reader -/

/-- What is read so far: with the object type that has been begun, and the family that
accessors belong to. -/
structure Reading where
  outline : Outline := {}
  begun : Option ObjectType := none
  family : Family := .managed

namespace Reading

/-- Reads one more item. -/
def step (r : Reading) : Item → Reading
  | .opening name => { r with begun := some ⟨name, none, []⟩ }
  | .tag path => { r with begun := r.begun.map fun t => { t with path := some path } }
  | .field f => { r with begun := r.begun.map fun t => { t with fields := t.fields ++ [f] } }
  | .closing => { r with
      outline := { r.outline with types := r.outline.types ++ r.begun.toList }
      begun := none }
  | .pick p => { r with outline := { r.outline with picks := r.outline.picks ++ [p] } }
  | .group family => { r with family }
  | .entry e => { r with outline := r.outline.add [e] r.family }

/-- Reads some items. -/
def run (r : Reading) (is : List Item) : Reading := is.foldl step r

end Reading

/-- Reads a module, line by line. -/
def read (text : String) : Outline := (Reading.run {} (items text)).outline

/-! ### Every declaration is read -/

/-- The object type that a declaration is. -/
def Declaration.type? : Declaration → Option ObjectType
  | .object name tag properties => some ⟨name, tag, properties.map Field.of⟩
  | .pick _ _ _ => none

/-- The choice of keys that a declaration is. -/
def Declaration.pick? : Declaration → Option Pick
  | .object _ _ _ => none
  | .pick name source keys => some ⟨name, source, keys⟩

namespace Reading

variable {r : Reading}

theorem run_append (is js : List Item) : r.run (is ++ js) = (r.run is).run js :=
  List.foldl_append

theorem run_cons (i : Item) (is : List Item) : r.run (i :: is) = (r.step i).run is := rfl

/-- Properties are added to the object type that has been begun. -/
theorem run_fields (ps : List Property) : ∀ {r : Reading} {t : ObjectType}, r.begun = some t →
    r.run (ps.map fun p => .field (Field.of p)) =
      { r with begun := some { t with fields := t.fields ++ ps.map Field.of } } := by
  induction ps with
  | nil =>
    intro r t ht
    rw [List.map_nil, List.map_nil, List.append_nil, ← ht]
    rfl
  | cons p ps ih =>
    intro r t ht
    rw [List.map_cons, run_cons, step, ht, Option.map_some, ih rfl]
    simp

/-- The items of a declaration leave the declaration behind, and nothing begun. -/
theorem run_declaration (d : Declaration) (hr : r.begun = none) :
    r.run d.items = { r with outline := { r.outline with
      types := r.outline.types ++ d.type?.toList
      picks := r.outline.picks ++ d.pick?.toList } } := by
  obtain ⟨o, begun, family⟩ := r
  subst hr
  cases d with
  | object name tag properties =>
    have htag : (step ⟨o, none, family⟩ (.opening name)).run (tag.toList.map .tag) =
        ⟨o, some ⟨name, tag, []⟩, family⟩ := by
      cases tag <;> rfl
    rw [Declaration.items, run_cons, run_append, htag, run_append, run_fields properties rfl,
      run_cons]
    simp [step, run, Declaration.type?, Declaration.pick?]
  | pick name source keys => simp [Declaration.items, run, step, Declaration.type?,
      Declaration.pick?]

/-- All declarations are read, one after the other. -/
theorem run_declarations : ∀ (ds : List Declaration) {r : Reading}, r.begun = none →
    r.run (ds.flatMap Declaration.items) = { r with outline := { r.outline with
      types := r.outline.types ++ ds.filterMap Declaration.type?
      picks := r.outline.picks ++ ds.filterMap Declaration.pick? } }
  | [], r, _ => by simp [run]
  | d :: ds, ⟨o, none, family⟩, _ => by
    rw [List.flatMap_cons, run_append, run_declaration d rfl, run_declarations ds rfl]
    cases d <;> simp [List.filterMap_cons, Declaration.type?, Declaration.pick?]

/-- All accessors of a family are read, one after the other. -/
theorem run_entries : ∀ (es : List Entry) {r : Reading},
    r.run (es.map .entry) = { r with outline := r.outline.add es r.family }
  | [], ⟨o, begun, family⟩ => by cases family <;> simp [run, Outline.add]
  | e :: es, ⟨o, begun, family⟩ => by
    rw [List.map_cons, run_cons, step, run_entries es]
    cases family <;> simp [Outline.add]

end Reading

/-! ### The module is read back -/

variable {c : Catalog}

theorem defaultKeys_eq (ps : List Property) : defaultKeys ps =
    "_tag" :: (ps.filter fun p => p.returnByDefault != some false).map (·.name) := by
  have hkeep : ∀ p : Property, p.returnByDefault.getD true = (p.returnByDefault != some false) := by
    intro p
    match p.returnByDefault with
    | none => rfl
    | some true => rfl
    | some false => rfl
  simp only [defaultKeys, tagName, hkeep]

theorem filterMap_type?_declarations (c : Catalog) :
    (declarations c).filterMap Declaration.type? = (outline c).types := by
  have hmanaged : ∀ r, (managedDeclarations r).filterMap Declaration.type? = [managedType r] :=
    fun r => rfl
  have hsystem : Declaration.type? ∘ systemDeclaration = some ∘ systemType := rfl
  have hsubType : Declaration.type? ∘ subTypeDeclaration = some ∘ subTypeType := rfl
  simp only [declarations, outline, List.filterMap_append, List.filterMap_flatMap, hmanaged,
    List.filterMap_map, hsystem, hsubType, List.filterMap_eq_map, ← List.map_eq_flatMap]

theorem filterMap_pick?_declarations (c : Catalog) :
    (declarations c).filterMap Declaration.pick? = (outline c).picks := by
  have hmanaged : ∀ r, (managedDeclarations r).filterMap Declaration.pick? = [managedPick r] := by
    intro r
    rw [managedPick, ← defaultKeys_eq]
    rfl
  have hsystem : Declaration.pick? ∘ systemDeclaration = fun _ => none := rfl
  have hsubType : Declaration.pick? ∘ subTypeDeclaration = fun _ => none := rfl
  simp only [declarations, outline, List.filterMap_append, List.filterMap_flatMap, hmanaged,
    List.filterMap_map, hsystem, hsubType, ← List.map_eq_flatMap]
  simp

/-- The items of the module are read as what it declares. -/
theorem run_module (c : Catalog) :
    (Reading.run {} ((declarations c).flatMap Declaration.items ++ accessorItems c)).outline =
      outline c := by
  rw [Reading.run_append, Reading.run_declarations _ rfl, filterMap_type?_declarations,
    filterMap_pick?_declarations, accessorItems, Reading.run_cons, Reading.run_append,
    Reading.run_entries, Reading.run_cons, Reading.run_append, Reading.run_entries,
    Reading.run_cons]
  simp [Reading.run, Reading.step, Outline.add, outline, managedEntries, systemEntries,
    defaultsName, ManagedResource.path, SystemResource.path]

/-- **The module can be read back.** Whatever properties, titles, descriptions and resources
are called, and whatever module is imported: where the names of types are identifiers, the
text of the module declares what the outline of the catalog says. -/
theorem read_render (h : IsReadable c) (runtimeModule : String) :
    read (render runtimeModule c) = outline c := by
  rw [read, items_render h, run_module]

/-- A catalog whose texts look like the lines of a module: a property is called like the end
and the beginning of a declaration, its title ends a comment, and its description holds
lines of other declarations. -/
def misleadingCatalog : Catalog where
  managed := [⟨"user\"),", "ManagedUser", [
    { name := "\x7d;\nexport type Other = \x7b"
      type := .single (.primitive .string)
      required := false
      title := "*/\n\x7d;\nexport type Other = \x7b"
      description := "  readonly _tag?: \"managed/other\";\r\n    other: idmObject<A, B>(\"c\"),"
      returnByDefault := some false },
    { name := "name?: number"
      type := ⟨.array (.subType "SubManagedUserName"), [.primitive .number], true⟩
      required := true
      title := "  name: string;"
      description := ""
      returnByDefault := some true }]⟩]
  managedSubTypes := [⟨"name", "SubManagedUserName", "ManagedUser", []⟩]
  system := [⟨"crm", "contact", "\"),\n  user: idmObject", "crmContact", "SystemCrmContact", [
    { name := "phone"
      type := .single (.array (.subType "SubSystemCrmContactPhone"))
      required := true
      title := "", description := "\x7d;", returnByDefault := none }]⟩]
  systemSubTypes := [⟨"phone", "SubSystemCrmContactPhone", "SystemCrmContact", [
    { name := "_tag"
      type := ⟨.reference ⟨"ManagedUser", []⟩, [], true⟩
      required := false
      title := "export type SystemCrmContact = \x7b", description := "", returnByDefault := none }]⟩]
  warnings := []

theorem read_render_misleading :
    read (render "\";\nexport type Other = \x7b" misleadingCatalog) =
      { types := [
          ⟨"ManagedUser", some "managed/user\"),", [
            ⟨"\x7d;\nexport type Other = \x7b", true, "string"⟩,
            ⟨"name?: number", false, "SubManagedUserName[] | number | null"⟩]⟩,
          ⟨"SubManagedUserName", none, []⟩,
          ⟨"SystemCrmContact", some "system/\"),\n  user: idmObject", [
            ⟨"phone", false, "SubSystemCrmContactPhone[]"⟩]⟩,
          ⟨"SubSystemCrmContactPhone", none, [
            ⟨"_tag", true, "ReferenceType<ManagedUser> | null"⟩]⟩]
        picks := [⟨"ManagedUserDefaults", "ManagedUser", ["_tag", "name?: number"]⟩]
        managed := [⟨"user\"),", "ManagedUser", "ManagedUserDefaults", "managed/user\"),"⟩]
        system := [⟨"crmContact", "SystemCrmContact", "SystemCrmContact",
          "system/\"),\n  user: idmObject"⟩] } :=
  (read_render (by decide) _).trans (by decide)

end IdentityTypes.TypeScript
