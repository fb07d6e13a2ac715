/-
# What the module imports

The module imports the function that makes accessors if it has an accessor, and the type of
references if the type of a property is one. What it imports is decided by a look at the
catalog, and what it uses shows in the lines after that: both are read from the text here,
and one is found to follow from the other. Properties are those of all four kinds of
declarations, and references count inside of arrays too, since a type with a reference, and
only such a type, has `ReferenceType<` in its text.

Key definitions: `Import`, `readImport`, `importLines`, `MentionsReference`, `ImportsUsed`.
Key theorems: `importLines_render`, `TypeExpr.mentionsReference_iff`, `imports_used`.
-/
import IdentityTypes.Proofs.TypeScript.Exports
import IdentityTypes.Proofs.TypeScript.ReadBack
import IdentityTypes.Proofs.TypeScript.Types

namespace IdentityTypes

open TypeScript

/-! ### References in the text of types -/

/-- The text of a reference begins somewhere in the text. -/
def MentionsReference (text : String) : Prop := "ReferenceType<".toList <:+: text.toList

instance (text : String) : Decidable (MentionsReference text) :=
  inferInstanceAs (Decidable (_ <:+: _))

/-- A word stands in a text already without what is added, if what it ends with does not
stand there. -/
theorem infix_append_iff {α : Type} (word : List α) {as bs : List α} {x : α} (hx : x ∉ bs) :
    word ++ [x] <:+: as ++ bs ↔ word ++ [x] <:+: as := by
  refine ⟨?_, fun h => h.trans (List.prefix_append as bs).isInfix⟩
  rintro ⟨before, after, h⟩
  rcases List.append_eq_append_iff.mp h with ⟨more, has, -⟩ | ⟨more, hword, hbs⟩
  · exact ⟨before, more, has.symm⟩
  · rcases List.eq_nil_or_concat more with rfl | ⟨init, last, rfl⟩
    · exact ⟨before, [], by simpa using hword⟩
    · -- What is left over of the word ends as it does, and stands in what is added.
      rw [List.concat_eq_append, ← List.append_assoc, ← List.append_assoc] at hword
      obtain rfl : x = last := by simpa using (List.append_inj' hword rfl).2
      exact absurd (hbs ▸ by simp) hx

/-- A word stands in one of two texts if it stands in both with a character between them
that it lacks. -/
theorem infix_append_cons_iff {α : Type} {word as bs : List α} {x : α} (hx : x ∉ word) :
    word <:+: as ++ x :: bs ↔ word <:+: as ∨ word <:+: bs := by
  constructor
  · rintro ⟨before, after, h⟩
    rcases List.append_eq_append_iff.mp h with ⟨more, has, -⟩ | ⟨more, hword, hbs⟩
    · exact .inl ⟨before, more, has.symm⟩
    · rcases List.cons_eq_append_iff.mp hbs with ⟨rfl, -⟩ | ⟨more, rfl, rfl⟩
      · exact .inl ⟨before, [], by simpa using hword⟩
      · -- The character stands before the word, as it is not in it.
        rcases List.append_eq_append_iff.mp hword with ⟨_, -, rfl⟩ | ⟨front, -, hword⟩
        · exact absurd (by simp) hx
        · rcases List.cons_eq_append_iff.mp hword with ⟨-, rfl⟩ | ⟨front, -, rfl⟩
          · exact absurd (by simp) hx
          · exact .inr ⟨front, after, rfl⟩
  · rintro (h | h)
    · exact h.trans (List.prefix_append as _).isInfix
    · exact h.trans ((List.suffix_cons x bs).trans (List.suffix_append as _)).isInfix

theorem mentionsReference_append {text added : String} (h : '<' ∉ added.toList) :
    MentionsReference (text ++ added) ↔ MentionsReference text := by
  rw [MentionsReference, String.toList_append]
  exact infix_append_iff "ReferenceType".toList h

theorem mentionsReference_append_bar {text text' : String} :
    MentionsReference (text ++ " | " ++ text') ↔
      MentionsReference text ∨ MentionsReference text' := by
  have hlist : (text ++ " | " ++ text').toList = (text ++ " |").toList ++ ' ' :: text'.toList := by
    simp
  rw [MentionsReference, hlist, infix_append_cons_iff (by decide)]
  exact or_congr_left (mentionsReference_append (by decide))

/-- References are mentioned by types that are one of several if one of these does. -/
theorem mentionsReference_intercalate : ∀ {texts : List String},
    MentionsReference (" | ".intercalate texts) ↔ ∃ text ∈ texts, MentionsReference text
  | [] => by decide
  | [text] => by simp
  | text :: text' :: texts => by
    rw [String.intercalate_cons_cons, mentionsReference_append_bar,
      mentionsReference_intercalate]
    exact (List.exists_mem_cons_iff _ _ _).symm

theorem not_mentionsReference {text : String} (h : '<' ∉ text.toList) : ¬ MentionsReference text :=
  fun hmention => h (hmention.mem (by decide))

/-- Where names are identifiers, references show in the text of an expression. -/
theorem TypeExpr.mentionsReference_iff {e : TypeExpr}
    (h : ∀ n ∈ e.names, isIdentifier n = true) :
    MentionsReference e.text ↔ e.usesReference = true := by
  induction e with
  | primitive p => cases p <;> decide +kernel
  | array item ih =>
    have hmarks : '<' ∉ "[]".toList := by decide
    rw [text_array, mentionsReference_append hmarks, ih h, usesReference]
  | openMap kind => cases kind <;> decide +kernel
  | openArray kind => cases kind <;> decide +kernel
  | reference ts =>
    refine iff_of_true ?_ rfl
    rw [text_reference, String.append_assoc, MentionsReference, String.toList_append]
    exact (List.prefix_append _ _).isInfix
  | subType n =>
    refine iff_of_false (not_mentionsReference fun hmem => ?_) nofun
    exact absurd (all_isIdentifierPart (h n (List.mem_singleton.mpr rfl)) '<' hmem) (by decide)

theorem Descriptor.mentionsReference_iff {d : Descriptor}
    (h : ∀ n ∈ d.names, isIdentifier n = true) :
    MentionsReference d.text ↔ d.types.any TypeExpr.usesReference = true := by
  have hnull : '<' ∉ (if d.nullable then " | null" else "").toList := by
    cases d.nullable <;> decide
  have hexpr : ∀ e ∈ d.types, (MentionsReference e.text ↔ e.usesReference = true) :=
    fun e he => TypeExpr.mentionsReference_iff (List.forall_mem_flatMap.mp h e he)
  rw [Descriptor.text, mentionsReference_append hnull, mentionsReference_intercalate,
    List.any_eq_true]
  simp only [List.mem_map, exists_exists_and_eq_and]
  exact exists_congr fun e => and_congr_right (hexpr e)

namespace TypeScript

open Text

/-! ### Imports in the text -/

/-- A line that imports names from a module. -/
structure Import where
  names : List String
  source : String
  deriving DecidableEq, Repr

/-- What a line imports, if it imports anything. -/
def readImport (cs : List Char) : Option Import := do
  let cs ← skip "import \x7b " cs
  let (names, cs) ← readNames ", " cs
  let cs ← skip " \x7d from " cs
  let (source, cs) ← Json.readLiteral cs
  if cs = ";".toList then some ⟨names, source⟩ else none

/-- What the lines of a text import. -/
def importLines (text : String) : List Import := (linesOf text).filterMap readImport

/-- The names that a text imports. -/
def importedNames (text : String) : List String := (importLines text).flatMap (·.names)

theorem readImport_importLine {names : List String} (hne : names ≠ [])
    (hnames : ∀ n ∈ names, isIdentifier n = true) (source : String) :
    readImport ("import \x7b " ++ ", ".intercalate names ++ " \x7d from " ++ Json.quote source ++
      ";").toList = some ⟨names, source⟩ := by
  have hstops : ∀ cs, Stops (" \x7d from ".toList ++ cs) := fun cs =>
    stops_append " \x7d from " (by decide) (by decide)
  have hread : ∀ cs, readNames ", " ((", ".intercalate names).toList ++
      (" \x7d from ".toList ++ cs)) = some (names, " \x7d from ".toList ++ cs) := fun cs =>
    readNames_intercalate (by decide) (by decide) (hstops cs) rfl hnames hne
  simp only [String.toList_append, List.append_assoc]
  rw [readImport, skip_append]
  simp only [Option.bind_eq_bind, Option.bind_some, hread, skip_append, Json.readLiteral_quote,
    if_true]

/-- A line that begins with another letter imports nothing. -/
theorem readImport_eq_none {cs : List Char} (h : cs.head? ≠ some 'i') : readImport cs = none := by
  have hskip : skip "import \x7b " cs = none := by
    rw [Option.eq_none_iff_forall_ne_some]
    intro rest hrest
    rw [skip_eq_some.mp hrest] at h
    exact h rfl
  rw [readImport, hskip]
  rfl

variable {c : Catalog}

theorem readImport_of_mem_modelLines {l : String} (h : l ∈ modelLines c) :
    readImport l.toList = none := by
  refine readImport_eq_none ?_
  obtain ⟨d, -, hl⟩ := List.mem_flatMap.mp h
  obtain ⟨rest, more, hlines, hmore⟩ := d.lines_eq
  rw [hlines] at hl
  rcases List.mem_cons.mp hl with rfl | hl
  · simp
  · intro he
    exact absurd (he ▸ hmore l hl) (by decide)

theorem readImport_of_mem_accessorLines {l : String} (h : l ∈ accessorLines c) :
    readImport l.toList = none := by
  refine readImport_eq_none ?_
  rcases mem_accessorLines.mp h with h | ⟨e, -, rfl⟩
  · have hframe : ∀ l ∈ accessorFrame, l.toList.head? ≠ some 'i' := by decide
    exact hframe l h
  · unfold Entry.line
    simp

theorem isIdentifier_of_mem_imports : ∀ n ∈ imports c, isIdentifier n = true := by
  unfold imports
  split_ifs <;> decide

/-- What some lines import. -/
def importsIn (lines : List String) : List Import := lines.filterMap fun l => readImport l.toList

theorem importsIn_append (lines lines' : List String) :
    importsIn (lines ++ lines') = importsIn lines ++ importsIn lines' := List.filterMap_append

/-- What the header imports is what its line says. -/
theorem importsIn_headerLines (runtimeModule : String) (c : Catalog) :
    importsIn (headerLines runtimeModule c) =
      if imports c = [] then [] else [⟨imports c, runtimeModule⟩] := by
  have hfirst : importsIn ["// Generated by idm-ts-gen, do not edit."] = [] := rfl
  have hlast : importsIn [""] = [] := rfl
  have hnames := isIdentifier_of_mem_imports (c := c)
  rw [headerLines, ← List.singleton_append, importsIn_append, hfirst, List.nil_append,
    importsIn_append, hlast, List.append_nil]
  cases himports : imports c with
  | nil => rfl
  | cons n names =>
    rw [himports] at hnames
    have hread := readImport_importLine (List.cons_ne_nil n names) hnames runtimeModule
    rw [if_neg (List.cons_ne_nil n names)]
    exact List.filterMap_cons_some hread

/-- The text of the module has the one import that its header makes, if it makes one. -/
theorem importLines_render (h : IsReadable c) (runtimeModule : String) :
    importLines (render runtimeModule c) =
      if imports c = [] then [] else [⟨imports c, runtimeModule⟩] := by
  have hbreak : ∀ n ∈ typeNames c, NoBreak n := fun n hn => noBreak_of_isIdentifier (h n hn)
  have hmodels : importsIn (modelLines c) = [] :=
    List.filterMap_eq_nil_iff.mpr fun _ => readImport_of_mem_modelLines
  have haccessors : importsIn (accessorLines c) = [] :=
    List.filterMap_eq_nil_iff.mpr fun _ => readImport_of_mem_accessorLines
  have hlines : importLines (render runtimeModule c) = importsIn (lines runtimeModule c) := by
    rw [importLines, linesOf_render hbreak, List.filterMap_map]
    rfl
  rw [hlines, lines, importsIn_append, importsIn_append, hmodels, haccessors,
    importsIn_headerLines, List.append_nil, List.append_nil]

/-! ### What is used -/

/-- There is an accessor in the module. -/
def Outline.HasAccessor (o : Outline) : Prop := o.managed ≠ [] ∨ o.system ≠ []

/-- The text of the type of a property in the module mentions references. -/
def Outline.HasReference (o : Outline) : Prop :=
  ∃ t ∈ o.types, ∃ f ∈ t.fields, MentionsReference f.type

/-- The type of a property of a declaration mentions references when it is written. -/
def HasReference (c : Catalog) : Prop :=
  ∃ d ∈ c.declared, ∃ p ∈ d.properties, MentionsReference p.type.text

/-- The object type that is written for a declaration. -/
def objectType : Declared → ObjectType
  | .managed r => managedType r
  | .system r => systemType r
  | .subType _ s => subTypeType s

theorem types_outline (c : Catalog) : (outline c).types = c.declared.map objectType := by
  simp only [outline, Catalog.declared, Catalog.declaredOf, Catalog.resourcesOf,
    Catalog.subTypesOf, List.map_append, List.map_map, List.append_assoc]
  rfl

theorem fields_objectType (d : Declared) : (objectType d).fields = d.properties.map Field.of := by
  cases d <;> rfl

theorem hasReference_outline (c : Catalog) : (outline c).HasReference ↔ HasReference c := by
  simp only [Outline.HasReference, HasReference, types_outline, List.mem_map,
    exists_exists_and_eq_and, fields_objectType, Field.of]

theorem hasAccessor_outline (c : Catalog) :
    (outline c).HasAccessor ↔ c.managed ≠ [] ∨ c.system ≠ [] := by
  simp [Outline.HasAccessor, outline]

/-! ### What is imported -/

/-- The properties that are looked through are those of all declarations. -/
theorem mem_properties {p : Property} :
    p ∈ properties c ↔ ∃ d ∈ c.declared, p ∈ d.properties := by
  have hperm : (properties c).Perm (c.declared.flatMap (·.properties)) := by
    simp only [properties, Catalog.declared, Catalog.declaredOf, Catalog.resourcesOf,
      Catalog.subTypesOf, List.flatMap_append, List.flatMap_map, List.append_assoc,
      Declared.properties]
    exact (List.perm_append_comm_assoc _ _ _).append_left _
  rw [hperm.mem_iff, List.mem_flatMap]

/-- References are looked for in the types of properties, and found where their texts mention
them. -/
theorem any_usesReference_iff (h : IsReadable c) :
    (properties c).any (·.type.types.any TypeExpr.usesReference) = true ↔ HasReference c := by
  have hmention : ∀ d ∈ c.declared, ∀ p ∈ d.properties,
      (p.type.types.any TypeExpr.usesReference = true ↔ MentionsReference p.type.text) := by
    intro d hd p hp
    refine (Descriptor.mentionsReference_iff fun n hn => ?_).symm
    refine h n (List.mem_flatMap.mpr ⟨d, hd, List.mem_cons_of_mem _ ?_⟩)
    exact List.mem_flatMap.mpr ⟨p, hp, hn⟩
  rw [List.any_eq_true]
  constructor
  · rintro ⟨p, hp, huses⟩
    obtain ⟨d, hd, hp⟩ := mem_properties.mp hp
    exact ⟨d, hd, p, hp, (hmention d hd p hp).mp huses⟩
  · rintro ⟨d, hd, p, hp, hmentions⟩
    exact ⟨p, mem_properties.mpr ⟨d, hd, hp⟩, (hmention d hd p hp).mpr hmentions⟩

theorem isEmpty_iff (c : Catalog) :
    (c.managed.isEmpty && c.system.isEmpty) = true ↔ ¬ (c.managed ≠ [] ∨ c.system ≠ []) := by
  simp

/-- Two names can be imported, each where it is used. -/
theorem mem_imports_iff (h : IsReadable c) {n : String} : n ∈ imports c ↔
    n = "idmObject" ∧ (c.managed ≠ [] ∨ c.system ≠ []) ∨
      n = "ReferenceType" ∧ HasReference c := by
  rw [imports, List.mem_append, ← any_usesReference_iff h]
  refine or_congr ?_ ?_
  · split_ifs with hempty
    · simp [(isEmpty_iff c).mp hempty]
    · have hsome := not_not.mp (mt (isEmpty_iff c).mpr hempty)
      simp [hsome]
  · split_ifs with hany
    · simp [hany]
    · simp [hany]

theorem nodup_imports (c : Catalog) : (imports c).Nodup := by
  unfold imports
  split_ifs <;> decide

/-- What is asked of the imports in the text of the module of a catalog. What the text uses
is read from its lines, and is what the catalog has. -/
structure ImportsUsed (runtimeModule : String) (c : Catalog) (text : String) : Prop where
  accessor_iff : "idmObject" ∈ importedNames text ↔ (read text).HasAccessor
  reference_iff : "ReferenceType" ∈ importedNames text ↔ (read text).HasReference
  line_iff : importLines text ≠ [] ↔ (read text).HasAccessor ∨ (read text).HasReference
  /-- There is one line at most, and it imports nothing else and nothing twice. -/
  length_le : (importLines text).length ≤ 1
  imported : ∀ i ∈ importLines text, i.source = runtimeModule ∧ i.names.Nodup ∧
    ∀ n ∈ i.names, n = "idmObject" ∨ n = "ReferenceType"
  hasAccessor_iff : (read text).HasAccessor ↔ c.managed ≠ [] ∨ c.system ≠ []
  hasReference_iff : (read text).HasReference ↔ HasReference c

/-- **The module imports exactly what it uses.** Where the names of types are identifiers, the
text imports the function that makes accessors exactly if an accessor is read from it, and
the type of references exactly if the text of the type of a property mentions it, whichever
declaration the property belongs to and whatever arrays are around it. It has an import line
exactly if it has one or the other. -/
theorem imports_used (h : IsReadable c) (runtimeModule : String) :
    ImportsUsed runtimeModule c (render runtimeModule c) := by
  have hlines := importLines_render h runtimeModule
  have hread := read_render h runtimeModule
  have hnames : importedNames (render runtimeModule c) = imports c := by
    rw [importedNames, hlines]
    split_ifs with hnone
    · exact hnone.symm
    · exact List.append_nil _
  have hline : importLines (render runtimeModule c) ≠ [] ↔ imports c ≠ [] := by
    rw [hlines]
    split_ifs with hnone <;> simp [hnone]
  constructor
  case accessor_iff => simp [hnames, hread, hasAccessor_outline, mem_imports_iff h]
  case reference_iff => simp [hnames, hread, hasReference_outline, mem_imports_iff h]
  case line_iff =>
    rw [hline, hread, hasAccessor_outline, hasReference_outline, ← List.length_pos_iff,
      List.length_pos_iff_exists_mem]
    simp only [mem_imports_iff h, exists_or, exists_and_right, exists_eq, true_and]
  case length_le =>
    rw [hlines]
    split_ifs <;> simp
  case imported =>
    intro i hi
    rw [hlines] at hi
    split_ifs at hi
    · cases hi
    · obtain rfl := List.mem_singleton.mp hi
      refine ⟨rfl, nodup_imports c, fun n hn => ?_⟩
      exact ((mem_imports_iff h).mp hn).imp And.left And.left
  case hasAccessor_iff => rw [hread, hasAccessor_outline]
  case hasReference_iff => rw [hread, hasReference_outline]

/-- An object type of a connector whose sub type has a list of lists of references, besides a
property that is called like a reference. -/
def linkedAccounts : Catalog where
  managed := []
  managedSubTypes := []
  system := [⟨"ldap", "account", "ldap/account", "ldapAccount", "SystemLdapAccount",
    [⟨"ReferenceType<A>", .single (.subType "SubSystemLdapAccountGroups"), true, "", "", none⟩]⟩]
  systemSubTypes := [⟨"groups", "SubSystemLdapAccountGroups", "SystemLdapAccount",
    [⟨"all", ⟨.array (.array (.reference ⟨"ManagedRole", []⟩)), [], true⟩, false, "", "", none⟩]⟩]
  warnings := []

theorem imports_used_linkedAccounts :
    IsReadable linkedAccounts ∧ importLines (render "../idm" linkedAccounts) =
      [⟨["idmObject", "ReferenceType"], "../idm"⟩] ∧
        ImportsUsed "../idm" linkedAccounts (render "../idm" linkedAccounts) := by
  have hreadable : IsReadable linkedAccounts := by decide
  have hlines := importLines_render hreadable "../idm"
  exact ⟨hreadable, hlines, imports_used hreadable "../idm"⟩

end TypeScript

end IdentityTypes
