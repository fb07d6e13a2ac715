/-
# When the names of types are identifiers

The names of types are written as they are, while those of properties are quoted if they
are no identifiers. A name of a type begins with a word that says of which kind it is, so
that it is an identifier if all its characters may stand in one, and these come from the
names of which it is made: that of an object, of a connector and its object type, or of the
properties on the way to an object inside. Case is changed in these names and delimiters
are dropped, but any other character is kept.

Key definitions: `HasParts`, `IsSpelled`, `NamesSpelled`.
Key theorems: `isIdentifier_iff_of_named`, `isReadable_iff`, `namesSpelled_iff`,
`isSpelled_iff_of_ascii`.
-/
import IdentityTypes.Proofs.Catalog.Links
import IdentityTypes.Proofs.Inference.Mirror
import IdentityTypes.Proofs.Name.Casing
import IdentityTypes.Proofs.References
import IdentityTypes.Proofs.TypeScript.ReadBack

namespace IdentityTypes.TypeScript

/-! ### Names -/

/-- All characters may stand in an identifier. -/
def HasParts (name : String) : Prop := ∀ c ∈ name.toList, isIdentifierPart c = true

instance (name : String) : Decidable (HasParts name) :=
  List.decidableBAll (fun c => isIdentifierPart c = true) name.toList

/-- In the name that a type takes from the name, all characters may stand in an identifier. -/
def IsSpelled (name : String) : Prop := ∀ n ∈ Name.typeName name, HasParts n

theorem hasParts_append {a b : String} : HasParts (a ++ b) ↔ HasParts a ∧ HasParts b := by
  simp only [HasParts, String.toList_append, List.forall_mem_append]

theorem isSpelled_iff {name n : String} (h : Name.typeName name = some n) :
    IsSpelled name ↔ HasParts n := by
  simp [IsSpelled, h]

/-- After a word that is an identifier, all that counts are the characters. -/
theorem isIdentifier_append_iff {word rest : String} (h : isIdentifier word = true) :
    isIdentifier (word ++ rest) = true ↔ HasParts rest := by
  constructor
  · exact fun hname => (hasParts_append.mp (all_isIdentifierPart hname)).2
  · intro hrest
    obtain ⟨c, cs, hword, hc, hcs⟩ := isIdentifier_iff.mp h
    refine isIdentifier_iff.mpr ⟨c, cs ++ rest.toList, ?_, hc, ?_⟩
    · rw [String.toList_append, hword, List.cons_append]
    · exact List.forall_mem_append.mpr ⟨hcs, hrest⟩

/-- Whether a letter is small or not makes no difference. -/
theorem isIdentifierPart_toLower {c : Char} (h : Text.isAscii c = true) :
    isIdentifierPart c.toLower = isIdentifierPart c :=
  Name.forall_ascii (P := fun c => isIdentifierPart c.toLower = isIdentifierPart c) (by decide) h

theorem forall_map_toLower_iff {cs : List Char} (h : Name.IsAscii cs) :
    (∀ c ∈ cs.map Char.toLower, isIdentifierPart c = true) ↔
      ∀ c ∈ cs, isIdentifierPart c = true := by
  rw [List.forall_mem_map]
  exact forall₂_congr fun c hc => by rw [isIdentifierPart_toLower (h c hc)]

/-- An ASCII name is spelled if it has delimiters besides the characters of identifiers, and
nothing else. -/
theorem isSpelled_iff_of_ascii {name : String} (h : Name.IsAscii name.toList) : IsSpelled name ↔
    ∀ c ∈ name.toList, Name.isDelimiter c = true ∨ isIdentifierPart c = true := by
  obtain ⟨n, hn⟩ := Name.exists_typeName_of_ascii h
  rw [isSpelled_iff hn]
  obtain ⟨ws, hws, rfl⟩ := Name.typeName_eq_some.mp hn
  obtain ⟨hflat, hascii⟩ := Name.flatten_of_wordsOf h hws
  obtain ⟨hcamel, hlower⟩ := Name.map_toLower_upperCamel hascii
  rw [HasParts, String.toList_ofList, ← forall_map_toLower_iff hcamel, hlower,
    forall_map_toLower_iff hascii, hflat, List.forall_mem_filter]
  refine forall₂_congr fun c _ => ?_
  cases Name.isDelimiter c <;> simp

/-! ### Names of declarations -/

theorem isIdentifier_managedTypeName_iff {object n : String}
    (h : Name.managedTypeName object = some n) : isIdentifier n = true ↔ IsSpelled object := by
  obtain ⟨o, ho, rfl⟩ := Name.managedTypeName_eq_some.mp h
  rw [isIdentifier_append_iff (by decide), isSpelled_iff ho]

theorem isIdentifier_systemTypeName_iff {connector objectType n : String}
    (h : Name.systemTypeName connector objectType = some n) :
    isIdentifier n = true ↔ IsSpelled connector ∧ IsSpelled objectType := by
  obtain ⟨k, t, hk, ht, rfl⟩ := Name.systemTypeName_eq_some.mp h
  rw [String.append_assoc, isIdentifier_append_iff (by decide), hasParts_append, isSpelled_iff hk,
    isSpelled_iff ht]

/-- What a sub type is called begins with `Sub`, be it that the name of its parent does. -/
theorem isIdentifier_subTypeName_iff {parent property n : String}
    (h : Name.subTypeName parent property = some n) :
    isIdentifier n = true ↔ HasParts parent ∧ IsSpelled property := by
  obtain ⟨p, hp, hn⟩ := Name.subTypeName_eq_some.mp h
  rw [isSpelled_iff hp, ← hn]
  split_ifs with hsub
  · obtain ⟨rest, hrest⟩ := hsub
    have hparent : parent = "Sub" ++ String.ofList rest :=
      String.toList_inj.mp (by simp [← hrest])
    rw [hparent, String.append_assoc, isIdentifier_append_iff (by decide), hasParts_append,
      hasParts_append, and_iff_right (by decide : HasParts "Sub")]
  · rw [String.append_assoc, isIdentifier_append_iff (by decide), hasParts_append]

/-- A declaration goes by an identifier if the names are spelled that it is made of. -/
def DeclaredSpelled : Declared → Prop
  | .managed r => IsSpelled r.name
  | .system r => IsSpelled r.connector ∧ IsSpelled r.objectType
  | .subType _ t => HasParts t.parentTypeName ∧ IsSpelled t.declaredName

theorem isIdentifier_iff_of_named {d : Declared} (h : d.IsNamed) :
    isIdentifier d.typeName = true ↔ DeclaredSpelled d := by
  cases d with
  | managed r => exact isIdentifier_managedTypeName_iff h
  | system r => exact isIdentifier_systemTypeName_iff h
  | subType family t => exact isIdentifier_subTypeName_iff h

/-! ### Names in a catalog -/

/-- The names of types in an expression are those that it refers to and that of a sub type. -/
theorem mem_names_iff {n : String} : ∀ {e : TypeExpr},
    n ∈ e.names ↔ n ∈ e.references ∨ e.subTypeName? = some n
  | .primitive _ => by simp [TypeExpr.names, TypeExpr.references, TypeExpr.subTypeName?]
  | .array item => mem_names_iff (e := item)
  | .openMap _ => by simp [TypeExpr.names, TypeExpr.references, TypeExpr.subTypeName?]
  | .openArray _ => by simp [TypeExpr.names, TypeExpr.references, TypeExpr.subTypeName?]
  | .reference _ => by simp [TypeExpr.names, TypeExpr.references, TypeExpr.subTypeName?]
  | .subType name => by simp [TypeExpr.names, TypeExpr.references, TypeExpr.subTypeName?, eq_comm]

variable {s : Settings} {objects : List ManagedObject} {connectors : List Connector} {c : Catalog}

/-- A property holds no sub type but a declared one. -/
theorem exists_subType (h : build s objects connectors = .ok c) {d : Declared} (hd : d ∈ c.declared)
    {p : Property} (hp : p ∈ d.properties) {e : TypeExpr} (he : e ∈ p.type.types) {n : String}
    (hn : e.subTypeName? = some n) : ∃ d' ∈ c.declared, d'.typeName = n := by
  have hlink : (⟨d.typeName, p.name, n⟩ : Link) ∈ d.links :=
    mem_linksFrom.mpr ⟨p, hp, e, he, by rw [TypeExpr.link?, hn]; rfl⟩
  have hmem : (⟨d.typeName, p.name, n⟩ : Link) ∈ (c.subTypesOf d.family).map SubType.link :=
    (build_balanced h d.family).mem_iff.mp
      (List.mem_flatMap.mpr ⟨d, Catalog.mem_declared.mp hd, hlink⟩)
  obtain ⟨t, ht, hlink⟩ := List.mem_map.mp hmem
  exact ⟨.subType d.family t, Catalog.subType_mem_declared.mpr ht, congrArg Link.target hlink⟩

/-- All names of types are identifiers if those of the declarations are and those that are
referred to. -/
theorem isReadable_iff (h : build s objects connectors = .ok c) : IsReadable c ↔
    (∀ d ∈ c.declared, isIdentifier d.typeName = true) ∧
      ∀ n ∈ c.references, isIdentifier n = true := by
  constructor
  · refine fun hread => ⟨fun d hd => hread _ (List.mem_flatMap.mpr ⟨d, hd, List.mem_cons_self⟩),
      fun n hn => ?_⟩
    obtain ⟨d, hd, hn⟩ := List.mem_flatMap.mp hn
    obtain ⟨p, hp, hn⟩ := List.mem_flatMap.mp hn
    obtain ⟨e, he, hn⟩ := List.mem_flatMap.mp hn
    refine hread n (List.mem_flatMap.mpr ⟨d, hd, List.mem_cons_of_mem _ ?_⟩)
    exact List.mem_flatMap.mpr ⟨p, hp, List.mem_flatMap.mpr ⟨e, he, mem_names_iff.mpr (.inl hn)⟩⟩
  · rintro ⟨hdeclared, hreferences⟩ n hn
    obtain ⟨d, hd, hn⟩ := List.mem_flatMap.mp hn
    rcases List.mem_cons.mp hn with rfl | hn
    · exact hdeclared d hd
    · obtain ⟨p, hp, hn⟩ := List.mem_flatMap.mp hn
      obtain ⟨e, he, hn⟩ := List.mem_flatMap.mp hn
      rcases mem_names_iff.mp hn with hn | hn
      · refine hreferences n (List.mem_flatMap.mpr ⟨d, hd, ?_⟩)
        exact List.mem_flatMap.mpr ⟨p, hp, List.mem_flatMap.mpr ⟨e, he, hn⟩⟩
      · obtain ⟨d', hd', rfl⟩ := exists_subType h hd hp he hn
        exact hdeclared d' hd'

/-! ### Names in a configuration -/

/-- The names in a configuration of which names of types are made: those of objects, of
connectors and object types, of properties for which a sub type is declared, and of what
relationships point at. -/
structure NamesSpelled (objects : List ManagedObject) (connectors : List Connector) : Prop where
  objectNames : ∀ o ∈ objects, IsSpelled o.name
  objectTypes : ∀ k ∈ connectors, ∀ t ∈ k.objectTypes, IsSpelled k.name ∧ IsSpelled t.1
  managed : ∀ n, ReachedManaged objects n → n.isDeclared = true → IsSpelled n.property
  system : ∀ n, ReachedSystem connectors n → n.isDeclared = true → IsSpelled n.property
  pointsAt : ∀ n, ReachedManaged objects n → ∀ o ∈ n.pointsAt, IsSpelled o

/-- Where the names on the way to a node are spelled, so is that of the type which has it. -/
theorem hasParts_owner {owner : Option String} {properties : List (String × Schema)}
    (howner : ∀ o ∈ owner, HasParts o)
    (hspelled : ∀ n, Reached owner properties n → n.isDeclared = true → IsSpelled n.property)
    {n : SchemaNode} (hn : Reached owner properties n) : ∀ o ∈ n.owner, HasParts o := by
  induction hn with
  | property _ => exact howner
  | @member n name s hreached hobject hs ih =>
    intro o ho
    obtain ⟨parent, hparent, ho⟩ := Option.bind_eq_some_iff.mp ho
    have hdeclared : n.isDeclared = true := by
      have hne : n.schema.properties ≠ [] := List.ne_nil_of_mem hs
      simpa [SchemaNode.isDeclared, hobject] using hne
    exact all_isIdentifierPart ((isIdentifier_subTypeName_iff ho).mpr
      ⟨ih parent hparent, hspelled n hreached hdeclared⟩)
  | item _ _ _ ih => exact ih

theorem NamesSpelled.hasParts_managed (h : NamesSpelled objects connectors) {n : SchemaNode}
    (hn : ReachedManaged objects n) : ∀ o ∈ n.owner, HasParts o := by
  obtain ⟨o, ho, hn⟩ := hn
  refine hasParts_owner (fun name hname => ?_) (fun m hm => h.managed m ⟨o, ho, hm⟩) hn
  have hidentifier := (isIdentifier_managedTypeName_iff hname).mpr (h.objectNames o ho)
  exact all_isIdentifierPart hidentifier

theorem NamesSpelled.hasParts_system (h : NamesSpelled objects connectors) {n : SchemaNode}
    (hn : ReachedSystem connectors n) : ∀ o ∈ n.owner, HasParts o := by
  obtain ⟨k, hk, t, ht, hn⟩ := hn
  refine hasParts_owner (fun name hname => ?_) (fun m hm => h.system m ⟨k, hk, t, ht, hm⟩) hn
  have hidentifier := (isIdentifier_systemTypeName_iff hname).mpr (h.objectTypes k hk t ht)
  exact all_isIdentifierPart hidentifier

/-- The names of sub types are identifiers exactly if the nodes that they mirror have owners
and properties that are spelled. -/
theorem forall_subType_iff {walk : List SchemaNode} {subTypes : List SubType}
    (h : Mirrors walk subTypes) (family : Family) :
    (∀ t ∈ subTypes, DeclaredSpelled (.subType family t)) ↔
      ∀ n ∈ walk, n.isDeclared = true → (∀ o ∈ n.owner, HasParts o) ∧ IsSpelled n.property := by
  have hall := forall_of_perm_map h
    (P := fun o => (∀ parent ∈ o.owner, HasParts parent) ∧ IsSpelled o.property)
  simp only [List.forall_mem_filter] at hall
  refine Iff.trans (forall₂_congr fun t _ => ?_) hall
  simp [DeclaredSpelled, SubType.outline]

theorem forall_references_iff (h : build s objects connectors = .ok c) :
    (∀ name ∈ c.references, isIdentifier name = true) ↔
      ∀ n, ReachedManaged objects n → ∀ o ∈ n.pointsAt, IsSpelled o := by
  constructor
  · intro hall n hn o ho
    obtain ⟨name, hname, hmade⟩ := exists_reference h hn ho
    exact (isIdentifier_managedTypeName_iff hmade).mp (hall name hname)
  · intro hall name hname
    obtain ⟨n, hn, o, ho, hmade⟩ := (mem_references_iff h).mp hname
    exact (isIdentifier_managedTypeName_iff hmade).mpr (hall n hn o ho)

/-- The declarations of a catalog go by identifiers exactly if the names are spelled that
resources and the types of objects inside are made of. -/
theorem forall_declared_iff (h : build s objects connectors = .ok c) :
    (∀ d ∈ c.declared, isIdentifier d.typeName = true) ↔
      ((∀ o ∈ objects, IsSpelled o.name) ∧
        ∀ n ∈ managedNodes objects, n.isDeclared = true →
          (∀ o ∈ n.owner, HasParts o) ∧ IsSpelled n.property) ∧
      (∀ k ∈ connectors, ∀ t ∈ k.objectTypes, IsSpelled k.name ∧ IsSpelled t.1) ∧
        ∀ n ∈ systemNodes connectors, n.isDeclared = true →
          (∀ o ∈ n.owner, HasParts o) ∧ IsSpelled n.property := by
  obtain ⟨⟨hmanaged, hmanagedSub⟩, hsystem, hsystemSub⟩ := build_mirror h
  have hobjects := forall_of_perm_map hmanaged (P := fun shape => IsSpelled shape.1)
  have htypes := forall_of_perm_map hsystem
    (P := fun shape => IsSpelled shape.1 ∧ IsSpelled shape.2.1)
  have hspelled : (∀ d ∈ c.declared, isIdentifier d.typeName = true) ↔
      ∀ d ∈ c.declared, DeclaredSpelled d :=
    forall₂_congr fun d hd => isIdentifier_iff_of_named (Catalog.isNamed_of_build h hd)
  rw [hspelled, ← forall_subType_iff hmanagedSub .managed, ← forall_subType_iff hsystemSub .system]
  simp only [Catalog.declared, Catalog.declaredOf, Catalog.resourcesOf, Catalog.subTypesOf,
    List.forall_mem_append, List.forall_mem_map]
  exact and_congr (and_congr hobjects Iff.rfl)
    (and_congr (htypes.trans forall_objectTypesOf_iff) Iff.rfl)

/-- **The names of types are identifiers exactly where the names that they are made of are
spelled**, and then the module can be read: a name of an object, a connector or an object
type, of a property that holds an object with properties, or in what a relationship points
at, has no other characters in the name that a type takes from it than those of
identifiers. -/
theorem namesSpelled_iff (h : build s objects connectors = .ok c) :
    (IsReadable c ↔ NamesSpelled objects connectors) ∧
      (NamesSpelled objects connectors → ∀ runtimeModule,
        read (render runtimeModule c) = outline c) := by
  have hiff : IsReadable c ↔ NamesSpelled objects connectors := by
    rw [isReadable_iff h, forall_declared_iff h, forall_references_iff h]
    constructor
    · rintro ⟨⟨⟨hobjects, hmanaged⟩, htypes, hsystem⟩, hpointsAt⟩
      exact ⟨hobjects, htypes,
        fun n hn hdeclared => (hmanaged n (mem_managedNodes_iff.mpr hn) hdeclared).2,
        fun n hn hdeclared => (hsystem n (mem_systemNodes_iff.mpr hn) hdeclared).2, hpointsAt⟩
    · intro hspelled
      refine ⟨⟨⟨hspelled.objectNames, fun n hn hdeclared => ?_⟩, hspelled.objectTypes,
        fun n hn hdeclared => ?_⟩, hspelled.pointsAt⟩
      · have hn := mem_managedNodes_iff.mp hn
        exact ⟨hspelled.hasParts_managed hn, hspelled.managed n hn hdeclared⟩
      · have hn := mem_systemNodes_iff.mp hn
        exact ⟨hspelled.hasParts_system hn, hspelled.system n hn hdeclared⟩
  refine ⟨hiff, fun hspelled runtimeModule => ?_⟩
  rw [read, items_render (hiff.mpr hspelled), run_module]

/-- Objects and connectors whose names have delimiters, digits, and letters that become
letters of ASCII when their case is changed. -/
def spelledObjects : List ManagedObject :=
  [⟨"user-account", { properties := [
      ("home address", { type := some (.single "array"), items := some {
        type := some (.single "object"), properties := [
          ("$geo", { type := some (.single "object"), properties := [
            ("lat.lon", { type := some (.single "string") })] })] } }),
      ("manager", {
        type := some (.single "relationship"), collections := [⟨"managed/\u017fervice"⟩] })] }⟩]

/-- The connectors beside them; the words of one are none. -/
def spelledConnectors : List Connector := [⟨"_", [("__ACCOUNT__", {}), ("2nd", {})]⟩]

theorem namesSpelled_spelledObjects : ∃ c, build {} spelledObjects spelledConnectors = .ok c ∧
    typeNames c = ["ManagedUserAccount", "SubManagedUserAccountHomeAddress", "ManagedService",
      "SubManagedUserAccountHomeAddress", "SubManagedUserAccountHomeAddress$geo",
      "SubManagedUserAccountHomeAddress$geo", "System2Nd", "SystemAccount"] ∧
    NamesSpelled spelledObjects spelledConnectors ∧
    read (render "idm-ts" c) = outline c := by
  have h : (build {} spelledObjects spelledConnectors).toOption.map (fun c =>
      (typeNames c, decide (IsReadable c))) =
      some (["ManagedUserAccount", "SubManagedUserAccountHomeAddress", "ManagedService",
        "SubManagedUserAccountHomeAddress", "SubManagedUserAccountHomeAddress$geo",
        "SubManagedUserAccountHomeAddress$geo", "System2Nd", "SystemAccount"], true) := by
    decide +kernel
  obtain ⟨c, hc, h⟩ := toOption_map_eq_some.mp h
  simp only [Prod.mk.injEq, decide_eq_true_eq] at h
  obtain ⟨hnames, hread⟩ := h
  obtain ⟨hiff, htext⟩ := namesSpelled_iff hc
  exact ⟨c, hc, hnames, hiff.mp hread, htext (hiff.mp hread) "idm-ts"⟩

/-- An object inside, by a name that has a dot. -/
def dottedObjects : List ManagedObject :=
  [⟨"user", { properties := [
      ("home.address", { type := some (.single "object"), properties := [
        ("city", { type := some (.single "string") })] })] }⟩]

/-- The type of the object inside has the dot in its name too, and the line that declares it
is no declaration. -/
theorem home_address_notIdentifier : ∃ c, build {} dottedObjects [] = .ok c ∧
    (∃ t ∈ c.managedSubTypes, t.typeName = "SubManagedUserHome.address" ∧
      isIdentifier t.typeName = false) ∧
    "export type SubManagedUserHome.address = \x7b" ∈ lines "idm-ts" c ∧
    readLine "export type SubManagedUserHome.address = \x7b".toList = none := by
  have h : (build {} dottedObjects []).toOption.map (fun c =>
      (decide (∃ t ∈ c.managedSubTypes, t.typeName = "SubManagedUserHome.address" ∧
          isIdentifier t.typeName = false),
        decide ("export type SubManagedUserHome.address = \x7b" ∈ lines "idm-ts" c))) =
      some (true, true) := by
    decide +kernel
  obtain ⟨c, hc, h⟩ := toOption_map_eq_some.mp h
  simp only [Prod.mk.injEq, decide_eq_true_eq] at h
  exact ⟨c, hc, h.1, h.2, by decide⟩

end IdentityTypes.TypeScript
