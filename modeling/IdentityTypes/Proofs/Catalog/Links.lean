/-
# Sub types and the properties that refer to them

A property that holds an object refers to a sub type by its name. Inference makes
the reference and the declaration at the same time, and so there are as many of the
one as of the other: the links that lead from properties to sub types are, in some
order, those that the sub types themselves state with the name of their property
and of their parent (`Balanced`). In a catalog all names differ, so that each
reference finds one declaration, and each declaration is found by one property.

Key definitions: `TypeExpr.subTypeName?`, `Link`, `Balanced`, `Catalog.members`,
`Catalog.LinkedOnce`.
Key theorems: `balanced_invariant`, `build_balanced`, `linkedOnce_of_build`.
-/
import IdentityTypes.Proofs.Catalog.Names

namespace IdentityTypes

/-! ### Links -/

/-- The sub type that an expression refers to, as it is or as the item of arrays. -/
def TypeExpr.subTypeName? : TypeExpr → Option String
  | .subType name => some name
  | .array item => item.subTypeName?
  | _ => none

/-- The property `property` of the type `owner` refers to the sub type `target`. -/
structure Link where
  owner : String
  property : String
  target : String
  deriving DecidableEq, Repr

/-- The link from an expression in the type of a property. -/
def TypeExpr.link? (owner property : String) (e : TypeExpr) : Option Link :=
  e.subTypeName?.map fun target => ⟨owner, property, target⟩

/-- The links from a property that has the type `d`. -/
def Descriptor.links (owner property : String) (d : Descriptor) : List Link :=
  d.types.filterMap (TypeExpr.link? owner property)

/-- An array has the links of its items. -/
theorem Descriptor.links_arrayOf (owner property : String) (d : Descriptor) (nullable : Bool) :
    (d.arrayOf.withNullable nullable).links owner property = d.links owner property :=
  List.filterMap_map (l := d.types)

/-- The links from the properties of a type. -/
def linksFrom (owner : String) (properties : List Property) : List Link :=
  properties.flatMap fun p => p.type.links owner p.name

/-- The link that should lead to a sub type. -/
def SubType.link (s : SubType) : Link := ⟨s.parentTypeName, s.declaredName, s.typeName⟩

/-- The links from the properties of a sub type. -/
def SubType.links (s : SubType) : List Link := linksFrom s.typeName s.properties

/-- The links from the properties of a declaration. -/
def Declared.links (d : Declared) : List Link := linksFrom d.typeName d.properties

/-- The links given and those from the sub types are the ones that should lead to
the sub types. -/
def Balanced (links : List Link) (subTypes : List SubType) : Prop :=
  (links ++ subTypes.flatMap SubType.links).Perm (subTypes.map SubType.link)

namespace Balanced

variable {links links' : List Link} {subTypes subTypes' : List SubType}

theorem nil : Balanced [] [] := List.Perm.nil

theorem append (h : Balanced links subTypes) (h' : Balanced links' subTypes') :
    Balanced (links ++ links') (subTypes ++ subTypes') := by
  refine List.perm_iff_count.mpr fun l => ?_
  have hl := h.count_eq l
  have hl' := h'.count_eq l
  simp only [List.flatMap_append, List.map_append, List.count_append] at *
  omega

theorem perm (h : Balanced links subTypes) (hl : links.Perm links')
    (hs : subTypes.Perm subTypes') : Balanced links' subTypes' :=
  ((hl.symm.append (hs.symm.flatMap_right _)).trans h).trans (hs.map _)

/-- The sub type of a property comes with the link from the property, and takes the
links from its own properties with it. -/
theorem object {name owner property : String} {properties : List Property}
    (h : Balanced (linksFrom name properties) subTypes) :
    Balanced [⟨owner, property, name⟩] (subTypes ++ [⟨property, name, owner, properties⟩]) := by
  refine List.perm_iff_count.mpr fun l => ?_
  have hl := h.count_eq l
  simp only [List.flatMap_append, List.flatMap_singleton, List.map_append, List.map_singleton,
    List.count_append, SubType.links, SubType.link] at *
  omega

end Balanced

/-! ### Inference keeps the balance -/

/-- Whatever is inferred, the links made and the sub types made are in balance. -/
theorem balanced_invariant (family : Family) (kind : ValueKind) :
    InferenceInvariant family kind
      (fun _ property owner x => Balanced (x.value.links owner property) x.subTypes)
      (fun _ _ owner x => Balanced (linksFrom owner x.value) x.subTypes) where
  primitive _ _ := .nil
  openMap _ _ := .nil
  object _ _ _ h := h.object
  openArray _ _ := .nil
  array _ _ h := by
    rw [Inferred.map, Descriptor.links_arrayOf]
    exact h
  reference _ _ _ := .nil
  unresolved _ _ _ := .nil
  nil := .nil
  cons h hs := h.append hs

/-- The balance of what is inferred of each resource is that of all. -/
theorem balanced_gather {R : Type} (declare : R → Declared) : ∀ {xs : List (Inferred R)},
    (∀ x ∈ xs, Balanced (declare x.value).links x.subTypes) →
    Balanced ((Inferred.gather xs).value.flatMap fun r => (declare r).links)
      (Inferred.gather xs).subTypes
  | [], _ => .nil
  | _ :: _, h => (h _ List.mem_cons_self).append
      (balanced_gather declare fun x hx => h x (List.mem_cons_of_mem _ hx))

theorem managedResources_balanced {kind : ValueKind} {objects : List ManagedObject}
    {set : ResourceSet ManagedResource} (h : managedResources kind objects = .ok set) :
    Balanced (set.resources.flatMap fun r => (Declared.managed r).links) set.subTypes := by
  obtain ⟨xs, hxs, rfl⟩ := managedResources_eq_ok.mp h
  refine (balanced_gather Declared.managed fun x hx => ?_).perm (.refl _) (sortOn_perm _ _).symm
  obtain ⟨o, -, ho⟩ := exists_of_mem_right hxs x hx
  obtain ⟨typeName, properties, -, hp, rfl⟩ := inferManagedObject_eq_ok.mp ho
  exact (balanced_invariant .managed kind).properties _ _ _ hp

theorem systemResources_balanced {kind : ValueKind} {connectors : List Connector}
    {set : ResourceSet SystemResource} (h : systemResources kind connectors = .ok set) :
    Balanced (set.resources.flatMap fun r => (Declared.system r).links) set.subTypes := by
  obtain ⟨xs, hxs, rfl⟩ := systemResources_eq_ok.mp h
  refine (balanced_gather Declared.system fun x hx => ?_).perm
    ((sortOn_perm _ _).symm.flatMap_right _) (sortOn_perm _ _).symm
  obtain ⟨o, -, ho⟩ := exists_of_mem_right hxs x hx
  obtain ⟨typeName, valueName, properties, -, -, hp, rfl⟩ := inferObjectType_eq_ok.mp ho
  exact (balanced_invariant .system kind).properties _ _ _ hp

/-! ### The links of a catalog -/

section Catalog

variable {s : Settings} {objects : List ManagedObject} {connectors : List Connector} {c : Catalog}

/-- In each family of a catalog the links from the declarations are those that
should lead to the sub types. -/
theorem build_balanced (h : build s objects connectors = .ok c) (family : Family) :
    ((c.declaredOf family).flatMap Declared.links).Perm
      ((c.subTypesOf family).map SubType.link) := by
  obtain ⟨managed, system, hm, hs, hc⟩ := build_eq_ok.mp h
  obtain ⟨rfl, -⟩ := Catalog.assemble_eq_ok.mp hc
  have hb : Balanced (((Catalog.sorted managed system).resourcesOf family).flatMap Declared.links)
      ((Catalog.sorted managed system).subTypesOf family) := by
    cases family
    · simp only [Catalog.resourcesOf, List.flatMap_map]
      exact (managedResources_balanced hm).perm ((sortOn_perm _ _).symm.flatMap_right _)
        (sortOn_perm _ _).symm
    · simp only [Catalog.resourcesOf, List.flatMap_map]
      exact (systemResources_balanced hs).perm ((sortOn_perm _ _).symm.flatMap_right _)
        (sortOn_perm _ _).symm
  simp only [Catalog.declaredOf, List.flatMap_append, List.flatMap_map]
  exact hb

/-- A property of a declaration, with an expression of its type. -/
structure Member where
  declared : Declared
  property : Property
  expr : TypeExpr
  deriving DecidableEq, Repr

namespace Member

/-- The sub type that the property refers to. -/
def target? (m : Member) : Option String := m.expr.subTypeName?

/-- The link from the property. -/
def link? (m : Member) : Option Link := m.expr.link? m.declared.typeName m.property.name

theorem link?_eq_some {m : Member} {l : Link} : m.link? = some l ↔
    m.target? = some l.target ∧ m.declared.typeName = l.owner ∧ m.property.name = l.property := by
  obtain ⟨owner, property, target⟩ := l
  simp only [link?, target?, TypeExpr.link?, Option.map_eq_some_iff, Link.mk.injEq]
  constructor
  · rintro ⟨t, ht, ho, hp, rfl⟩
    exact ⟨ht, ho, hp⟩
  · rintro ⟨ht, ho, hp⟩
    exact ⟨target, ht, ho, hp, rfl⟩

theorem map_target_link? (m : Member) : m.link?.map (·.target) = m.target? := by
  simp [link?, target?, TypeExpr.link?, Function.comp_def]

end Member

/-- The properties of all declarations, with the expressions of their types. -/
def Catalog.members (c : Catalog) : List Member :=
  c.declared.flatMap fun d => d.properties.flatMap fun p => p.type.types.map fun e => ⟨d, p, e⟩

theorem mem_members {m : Member} :
    m ∈ c.members ↔ m.declared ∈ c.declared ∧ m.property ∈ m.declared.properties ∧
      m.expr ∈ m.property.type.types := by
  obtain ⟨d, p, e⟩ := m
  simp [Catalog.members, List.mem_flatMap]

theorem links_eq_filterMap_members : c.members.filterMap Member.link? =
    c.declared.flatMap Declared.links := by
  simp only [Catalog.members, List.filterMap_flatMap, List.filterMap_map]
  rfl

theorem mem_linksFrom {owner : String} {properties : List Property} {l : Link} :
    l ∈ linksFrom owner properties ↔
      ∃ p ∈ properties, ∃ e ∈ p.type.types, e.link? owner p.name = some l := by
  simp only [linksFrom, Descriptor.links, List.mem_flatMap, List.mem_filterMap]

/-- Where different elements are mapped to different values, one value comes from
one element only. -/
theorem filter_eq_singleton {α β : Type} {f : α → Option β} {p : α → Bool} {b : β}
    (hp : ∀ x, p x = true ↔ f x = some b) : ∀ {l : List α}, (l.filterMap f).Nodup →
      ∀ {a : α}, a ∈ l → f a = some b → l.filter p = [a]
  | x :: l, h, a, ha, hb => by
    by_cases hx : f x = some b
    · rw [List.filterMap_cons_some hx, List.nodup_cons] at h
      have hl : ∀ y ∈ l, f y ≠ some b := fun y hy hf => h.1 (List.mem_filterMap.mpr ⟨y, hy, hf⟩)
      have hax : a = x := by
        rcases List.mem_cons.mp ha with rfl | ha
        · rfl
        · exact absurd hb (hl a ha)
      rw [List.filter_cons_of_pos ((hp x).mpr hx), hax]
      congr 1
      exact List.filter_eq_nil_iff.mpr fun y hy hpy => hl y hy ((hp y).mp hpy)
    · have ha : a ∈ l := (List.mem_cons.mp ha).resolve_left fun he => hx (he ▸ hb)
      rw [List.filter_cons_of_neg fun hpx => hx ((hp x).mp hpx)]
      refine filter_eq_singleton hp (h.sublist ?_) ha hb
      exact (List.sublist_cons_self x l).filterMap f

/-- No two properties of a catalog refer to the same sub type. -/
theorem targets_nodup (h : build s objects connectors = .ok c) :
    (c.members.filterMap Member.target?).Nodup := by
  have htargets : c.members.filterMap Member.target? =
      (c.declared.flatMap Declared.links).map (·.target) := by
    rw [← links_eq_filterMap_members, List.map_filterMap]
    exact List.filterMap_congr fun m _ => (Member.map_target_link? m).symm
  have hperm : ((c.declared.flatMap Declared.links).map (·.target)).Perm
      ((c.subTypesOf .managed).map (·.typeName) ++ (c.subTypesOf .system).map (·.typeName)) := by
    have := ((build_balanced h .managed).append (build_balanced h .system)).map (·.target)
    simpa [Catalog.declared, SubType.link, Function.comp_def] using this
  have hsub : ∀ family, List.Sublist ((c.subTypesOf family).map (·.typeName))
      ((c.declaredOf family).map (·.typeName)) := by
    intro family
    simp only [Catalog.declaredOf, List.map_append, List.map_map]
    exact List.sublist_append_right _ _
  rw [htargets, hperm.nodup_iff]
  refine (Catalog.nodup_of_build h).sublist ?_
  rw [Catalog.declared, List.map_append]
  exact (hsub .managed).append (hsub .system)

/-- References to sub types and declarations of sub types go together one to one.
`declared_once`: a property that refers to a sub type, whatever arrays are around it,
refers to the one declaration of that name, which is a sub type of the same family
and has the property and its owner for its origin. `referred_once`: to a sub type one
property of the whole catalog refers, with one expression of its type, and this property
is the origin of the sub type. -/
structure Catalog.LinkedOnce (c : Catalog) : Prop where
  declared_once : ∀ m ∈ c.members, ∀ n, m.target? = some n →
    ∃ t ∈ c.subTypesOf m.declared.family,
      c.declared.filter (·.typeName = n) = [.subType m.declared.family t] ∧
        t.parentTypeName = m.declared.typeName ∧ t.declaredName = m.property.name
  referred_once : ∀ family, ∀ t ∈ c.subTypesOf family,
    ∃ m, c.members.filter (·.target? = some t.typeName) = [m] ∧
      m.declared.typeName = t.parentTypeName ∧ m.property.name = t.declaredName

/-- **Sub types and references to them are in bijection**, in every catalog that is
built. -/
theorem linkedOnce_of_build (h : build s objects connectors = .ok c) : c.LinkedOnce where
  declared_once m hm n hn := by
    obtain ⟨hd, hp, he⟩ := mem_members.mp hm
    have hl : m.link? = some ⟨m.declared.typeName, m.property.name, n⟩ :=
      Member.link?_eq_some.mpr ⟨hn, rfl, rfl⟩
    have hmem : (⟨m.declared.typeName, m.property.name, n⟩ : Link) ∈
        (c.declaredOf m.declared.family).flatMap Declared.links :=
      List.mem_flatMap.mpr
        ⟨_, Catalog.mem_declared.mp hd, mem_linksFrom.mpr ⟨_, hp, _, he, hl⟩⟩
    obtain ⟨t, ht, he⟩ := List.mem_map.mp ((build_balanced h _).mem_iff.mp hmem)
    simp only [SubType.link, Link.mk.injEq] at he
    obtain ⟨ho, hq, rfl⟩ := he
    refine ⟨t, ht, ?_, ho, hq⟩
    refine filter_eq_singleton (f := fun d => some d.typeName) (fun d => ?_) ?_
      (Catalog.subType_mem_declared.mpr ht) rfl
    · rw [decide_eq_true_iff, Option.some.injEq]
      exact Iff.rfl
    · have hnames := Catalog.nodup_of_build h
      rwa [← List.filterMap_eq_map] at hnames
  referred_once family t ht := by
    obtain ⟨d, hd, hl⟩ := List.mem_flatMap.mp
      ((build_balanced h family).mem_iff.mpr (List.mem_map_of_mem ht))
    obtain ⟨p, hp, e, he, hl⟩ := mem_linksFrom.mp hl
    obtain ⟨hn, ho, hq⟩ := Member.link?_eq_some (m := ⟨d, p, e⟩).mp hl
    have hd : d ∈ c.declared :=
      Catalog.mem_declared.mpr (Catalog.family_of_mem_declaredOf hd ▸ hd)
    have hm : (⟨d, p, e⟩ : Member) ∈ c.members := mem_members.mpr ⟨hd, hp, he⟩
    refine ⟨⟨d, p, e⟩, filter_eq_singleton (fun m => ?_) (targets_nodup h) hm hn, ho, hq⟩
    rw [decide_eq_true_iff]
    exact Iff.rfl

/-- A user whose address holds coordinates, and whose phones are objects in arrays. -/
def nestedObjects : List ManagedObject :=
  [⟨"user", { properties := [
    ("address", { type := some (.single "object"), properties := [
      ("city", { type := some (.single "string") }),
      ("geo", { type := some (.union ["object", "null"]), properties := [
        ("lat", { type := some (.single "number") })] })] }),
    ("phones", { type := some (.single "array"), items := some {
      type := some (.single "array"), items := some {
        type := some (.single "object"), properties := [
          ("number", { type := some (.single "string") })] } } })] }⟩]

theorem linkedOnce_nestedObjects : ∃ c, build {} nestedObjects [] = .ok c ∧
    c.managedSubTypes.map (·.typeName) =
      ["SubManagedUserAddress", "SubManagedUserAddressGeo", "SubManagedUserPhones"] ∧
    c.LinkedOnce := by
  have h : (build {} nestedObjects []).toOption.map (fun c => c.managedSubTypes.map (·.typeName)) =
      some ["SubManagedUserAddress", "SubManagedUserAddressGeo", "SubManagedUserPhones"] := by
    decide +kernel
  obtain ⟨c, hc, hnames⟩ := toOption_map_eq_some.mp h
  exact ⟨c, hc, hnames, linkedOnce_of_build hc⟩

end Catalog

end IdentityTypes
