/-
# Sub types inside of sub types

The sub types of a family make a forest: from each of them the names of the parents lead up
to one resource, and the properties on the way spell the name of the sub type. An object is
declared after the objects inside of it when its type is inferred. Sorting turns this
around: the name of a sub type goes on from that of its parent, and so it comes later.

What is inferred needs no look at names to have a way up: the sub types below an object come
with ways that end at the object (`ascends_invariant`). That there is only one way, and none
that leads back, is due to the names of a catalog, which are all different.

Key definitions: `SubType.IsIn`, `Nested`, `Ascends`, `pathName`, `Catalog.IsForest`.
Key theorems: `ascends_invariant`, `Ascends.unique`, `Ascends.pathName_eq`,
`Nested.exists_ascends`, `Catalog.isForest`, `subTypes_forest`.
-/
import IdentityTypes.Proofs.Catalog.Families
import Mathlib.Data.List.Nodup
import Mathlib.Logic.Relation

namespace IdentityTypes

/-! ### Parents and ways up -/

/-- Of two sub types in a list, the first is that of a property of the second. -/
structure SubType.IsIn (ts : List SubType) (t p : SubType) : Prop where
  mem : t ∈ ts
  parent_mem : p ∈ ts
  parent_eq : t.parentTypeName = p.typeName

/-- The first sub type is inside of the second, at any depth. -/
def Nested (ts : List SubType) : SubType → SubType → Prop := Relation.TransGen (SubType.IsIn ts)

/-- The way up from a sub type, which it begins with, along its parents in a list. Above the
last one is the type `root`. -/
inductive Ascends (ts : List SubType) (root : String) : SubType → List SubType → Prop
  | top {t} : t ∈ ts → t.parentTypeName = root → Ascends ts root t [t]
  | step {t p l} : t.IsIn ts p → Ascends ts root p l → Ascends ts root t (t :: l)

namespace Ascends

variable {ts ts' : List SubType} {root root' : String} {t p : SubType} {l l' : List SubType}

theorem mem (h : Ascends ts root t l) : t ∈ ts := by
  cases h with
  | top ht _ => exact ht
  | step ht _ => exact ht.mem

theorem exists_cons (h : Ascends ts root t l) : ∃ l', l = t :: l' := by
  cases h with
  | top _ _ => exact ⟨[], rfl⟩
  | step _ _ => exact ⟨_, rfl⟩

theorem mono (hts : ts ⊆ ts') (h : Ascends ts root t l) : Ascends ts' root t l := by
  induction h with
  | top ht hroot => exact .top (hts ht) hroot
  | step ht _ ih => exact .step ⟨hts ht.mem, hts ht.parent_mem, ht.parent_eq⟩ ih

/-- A way up to a sub type goes on to what is above it. -/
theorem under {s : SubType} (hs : s ∈ ts) (h : Ascends ts s.typeName t l) :
    Ascends ts s.parentTypeName t (l ++ [s]) := by
  induction h with
  | top ht hroot => exact .step ⟨ht, hs, hroot⟩ (.top hs rfl)
  | step ht _ ih => exact .step ht ih

/-- There is one way up, if sub types differ by their names and are not named as what is
above them. -/
theorem unique (hnd : (ts.map (·.typeName)).Nodup) (hroot : ∀ s ∈ ts, s.typeName ≠ root)
    (hroot' : ∀ s ∈ ts, s.typeName ≠ root') (h : Ascends ts root t l)
    (h' : Ascends ts root' t l') : root = root' ∧ l = l' := by
  induction h generalizing l' with
  | top _ htop =>
    cases h' with
    | top _ htop' => exact ⟨htop.symm.trans htop', rfl⟩
    | step ht' _ => exact absurd (ht'.parent_eq.symm.trans htop) (hroot _ ht'.parent_mem)
  | step ht _ ih =>
    cases h' with
    | top _ htop' => exact absurd (ht.parent_eq.symm.trans htop') (hroot' _ ht.parent_mem)
    | step ht' h' =>
      obtain rfl := List.inj_on_of_nodup_map hnd ht.parent_mem ht'.parent_mem
        (ht.parent_eq.symm.trans ht'.parent_eq)
      obtain ⟨hr, hl⟩ := ih h'
      exact ⟨hr, congrArg _ hl⟩

end Ascends

/-- The way up from a sub type passes through all that it is nested in. -/
theorem Nested.exists_ascends {ts : List SubType} {root : String} {t p : SubType}
    {l : List SubType} (h : Nested ts t p) (hp : Ascends ts root p l) :
    ∃ between, Ascends ts root t (t :: between ++ l) := by
  induction h using Relation.TransGen.head_induction_on with
  | single ht => exact ⟨[], .step ht hp⟩
  | head ht _ ih =>
    obtain ⟨between, hq⟩ := ih
    exact ⟨_ :: between, .step ht hq⟩

/-! ### Inference -/

/-- From the sub types that are made below a type there are ways up to it, in the order in
which they are made. -/
theorem ascends_invariant (family : Family) (kind : ValueKind) :
    InferenceInvariant family kind
      (fun _ _ owner x => ∀ t ∈ x.subTypes, ∃ l, Ascends x.subTypes owner t l ∧
        l.Sublist x.subTypes)
      (fun _ _ owner x => ∀ t ∈ x.subTypes, ∃ l, Ascends x.subTypes owner t l ∧
        l.Sublist x.subTypes) where
  primitive _ _ := List.forall_mem_nil _
  openMap _ _ := List.forall_mem_nil _
  object := by
    intro s property owner nullable name inner _ _ _ h
    have hlast : (⟨property, name, owner, inner.value⟩ : SubType) ∈
        inner.subTypes ++ [⟨property, name, owner, inner.value⟩] :=
      List.mem_append_right _ List.mem_cons_self
    refine List.forall_mem_append.mpr ⟨fun t ht => ?_, List.forall_mem_singleton.mpr ?_⟩
    · obtain ⟨l, hl, hsub⟩ := h t ht
      have hup := hl.mono (List.subset_append_left _ [⟨property, name, owner, inner.value⟩])
      exact ⟨l ++ [_], hup.under hlast, hsub.append_right _⟩
    · exact ⟨[_], .top hlast rfl, List.sublist_append_right _ _⟩
  openArray _ _ := List.forall_mem_nil _
  array _ _ h := h
  reference _ _ _ := List.forall_mem_nil _
  unresolved _ _ _ := List.forall_mem_nil _
  nil := List.forall_mem_nil _
  cons h hs := by
    refine List.forall_mem_append.mpr ⟨fun t ht => ?_, fun t ht => ?_⟩
    · obtain ⟨l, hl, hsub⟩ := h t ht
      exact ⟨l, hl.mono (List.subset_append_left _ _), hsub.trans (List.sublist_append_left _ _)⟩
    · obtain ⟨l, hl, hsub⟩ := hs t ht
      exact ⟨l, hl.mono (List.subset_append_right _ _), hsub.trans (List.sublist_append_right _ _)⟩

/-- With the results of all resources put together, each way up is still there. -/
theorem ascends_gather {R : Type} (name : R → String) {xs : List (Inferred R)}
    (h : ∀ x ∈ xs, ∀ t ∈ x.subTypes, ∃ l, Ascends x.subTypes (name x.value) t l ∧
      l.Sublist x.subTypes) :
    ∀ t ∈ (Inferred.gather xs).subTypes, ∃ r ∈ (Inferred.gather xs).value, ∃ l,
      Ascends (Inferred.gather xs).subTypes (name r) t l ∧
        l.Sublist (Inferred.gather xs).subTypes := by
  rw [Inferred.gather_value, Inferred.gather_subTypes]
  refine List.forall_mem_flatMap.mpr fun x hx t ht => ?_
  have hsub : x.subTypes.Sublist (xs.flatMap (·.subTypes)) := by
    have hone := (List.singleton_sublist.mpr hx).flatMap (·.subTypes)
    rwa [List.flatMap_singleton] at hone
  obtain ⟨l, hl, hlsub⟩ := h x hx t ht
  exact ⟨x.value, List.mem_map_of_mem hx, l, hl.mono hsub.subset, hlsub.trans hsub⟩

theorem ascends_of_inferManaged {kind : ValueKind} {objects : List ManagedObject}
    {x : Inferred (List ManagedResource)} (h : inferManaged kind objects = .ok x) :
    ∀ t ∈ x.subTypes, ∃ r ∈ x.value, ∃ l, Ascends x.subTypes r.typeName t l ∧
      l.Sublist x.subTypes := by
  rw [inferManaged_eq] at h
  obtain ⟨xs, hxs, rfl⟩ := inferEach_eq_ok.mp h
  refine ascends_gather ManagedResource.typeName fun x hx => ?_
  obtain ⟨o, -, ho⟩ := exists_of_mem_right hxs x hx
  obtain ⟨typeName, properties, -, hp, rfl⟩ := inferManagedObject_eq_ok.mp ho
  exact (ascends_invariant .managed kind).properties _ _ _ hp

theorem ascends_of_inferSystem {kind : ValueKind} {objects : List (String × String × Schema)}
    {x : Inferred (List SystemResource)} (h : inferSystem kind objects = .ok x) :
    ∀ t ∈ x.subTypes, ∃ r ∈ x.value, ∃ l, Ascends x.subTypes r.typeName t l ∧
      l.Sublist x.subTypes := by
  rw [inferSystem_eq] at h
  obtain ⟨xs, hxs, rfl⟩ := inferEach_eq_ok.mp h
  refine ascends_gather SystemResource.typeName fun x hx => ?_
  obtain ⟨o, -, ho⟩ := exists_of_mem_right hxs x hx
  obtain ⟨typeName, valueName, properties, -, -, hp, rfl⟩ := inferObjectType_eq_ok.mp ho
  exact (ascends_invariant .system kind).properties _ _ _ hp

/-! ### Names -/

/-- The name which the properties of the sub types on a path downwards spell, where the
first of them is one of the resource. -/
def pathName (resource : String) (path : List SubType) : Option String :=
  (path.mapM fun t => Name.typeName t.declaredName).map fun words =>
    "Sub" ++ resource ++ String.join words

theorem pathName_append_singleton {resource : String} {path : List SubType} {t : SubType}
    {n word : String} (hn : pathName resource path = some n)
    (hword : Name.typeName t.declaredName = some word) :
    pathName resource (path ++ [t]) = some (n ++ word) := by
  obtain ⟨words, hwords, rfl⟩ := Option.map_eq_some_iff.mp hn
  simp [pathName, hwords, hword, String.append_assoc]

/-- The name of a sub type that has a parent goes on from that of the parent. -/
theorem SubType.IsIn.typeName_eq {ts : List SubType} {family : Family} {t p : SubType}
    (hnamed : ∀ s ∈ ts, (Declared.subType family s).IsNamed) (h : t.IsIn ts p) :
    ∃ word, Name.typeName t.declaredName = some word ∧ t.typeName = p.typeName ++ word := by
  have hparent : "Sub".toList <+: p.typeName.toList :=
    subTypeName_marked_sub (hnamed p h.parent_mem)
  obtain ⟨word, hword, hn⟩ := Name.subTypeName_eq_some.mp (hnamed t h.mem)
  rw [h.parent_eq, if_pos hparent] at hn
  exact ⟨word, hword, hn.symm⟩

/-- The name of a sub type is spelled by the way down to it. -/
theorem Ascends.pathName_eq {ts : List SubType} {family : Family} {root : String} {t : SubType}
    {l : List SubType} (hnamed : ∀ s ∈ ts, (Declared.subType family s).IsNamed)
    (hroot : ¬ Marked "Sub" root) (h : Ascends ts root t l) :
    pathName root l.reverse = some t.typeName := by
  induction h with
  | @top t ht htop =>
    obtain ⟨word, hword, hn⟩ := Name.subTypeName_eq_some.mp (hnamed t ht)
    have hsub : ¬ "Sub".toList <+: root.toList := hroot
    rw [htop, if_neg hsub] at hn
    simp [pathName, hword, hn]
  | step ht _ ih =>
    obtain ⟨word, hword, hn⟩ := ht.typeName_eq hnamed
    rw [List.reverse_cons, hn]
    exact pathName_append_singleton ih hword

/-- A name comes before those that go on from it. -/
theorem Nested.typeName_le {ts : List SubType} {family : Family} {t p : SubType}
    (hnamed : ∀ s ∈ ts, (Declared.subType family s).IsNamed) (h : Nested ts t p) :
    p.typeName ≤ t.typeName := by
  have hone : ∀ {a b}, SubType.IsIn ts a b → b.typeName ≤ a.typeName := by
    intro a b hab
    obtain ⟨word, -, hn⟩ := hab.typeName_eq hnamed
    have hprefix : b.typeName.toList <+: a.typeName.toList := by
      rw [hn, String.toList_append]
      exact List.prefix_append _ _
    exact not_lt.mp fun hlt => hprefix.le (String.lt_iff_toList_lt.mp hlt)
  induction h with
  | single ht => exact hone ht
  | tail _ hq ih => exact (hone hq).trans ih

/-! ### The two orders -/

/-- Where ways up stand in the order in which sub types are made, what is nested stands
before what it is nested in: the way up that stands there is the only one, and so it passes
the outer sub type. -/
theorem Nested.sublist_accumulated {ts accumulated : List SubType} {t p : SubType}
    (hnd : (ts.map (·.typeName)).Nodup)
    (hup : ∀ t ∈ ts, ∃ root l, (∀ s ∈ ts, s.typeName ≠ root) ∧ Ascends ts root t l ∧
      l.Sublist accumulated)
    (h : Nested ts t p) : [t, p].Sublist accumulated := by
  have hp : p ∈ ts := by
    cases h with
    | single h => exact h.parent_mem
    | tail _ h => exact h.parent_mem
  obtain ⟨root, l, hroot, hl, -⟩ := hup p hp
  obtain ⟨between, ht⟩ := h.exists_ascends hl
  obtain ⟨root', l', hroot', hl', hsub⟩ := hup t ht.mem
  obtain ⟨-, rfl⟩ := ht.unique hnd hroot hroot' hl'
  obtain ⟨above, rfl⟩ := hl.exists_cons
  refine List.Sublist.trans (List.Sublist.cons_cons t ?_) hsub
  exact List.singleton_sublist.mpr (List.mem_append_right between List.mem_cons_self)

/-- Of two elements of a list, one stands before the other. -/
theorem pair_sublist_or {α : Type} {a b : α} (hne : a ≠ b) : ∀ {l : List α}, a ∈ l → b ∈ l →
    [a, b].Sublist l ∨ [b, a].Sublist l
  | c :: l, ha, hb => by
    by_cases hac : a = c
    · subst hac
      have hbl : b ∈ l := (List.mem_cons.mp hb).resolve_left (Ne.symm hne)
      exact .inl ((List.singleton_sublist.mpr hbl).cons_cons a)
    · have hal : a ∈ l := (List.mem_cons.mp ha).resolve_left hac
      by_cases hbc : b = c
      · subst hbc
        exact .inr ((List.singleton_sublist.mpr hal).cons_cons b)
      · have hbl : b ∈ l := (List.mem_cons.mp hb).resolve_left hbc
        exact (pair_sublist_or hne hal hbl).imp (.cons c) (.cons c)

/-- In a list sorted by names that differ, the lesser name stands first. -/
theorem sublist_of_typeName_le {ts : List SubType} {t p : SubType}
    (hnd : (ts.map (·.typeName)).Nodup) (hsorted : ts.Pairwise fun a b => a.typeName ≤ b.typeName)
    (hp : p ∈ ts) (ht : t ∈ ts) (hne : p ≠ t) (hle : p.typeName ≤ t.typeName) :
    [p, t].Sublist ts := by
  refine (pair_sublist_or hne hp ht).resolve_right fun hwrong => hne ?_
  have hge := List.pairwise_iff_forall_sublist.mp hsorted hwrong
  exact List.inj_on_of_nodup_map hnd hp ht (le_antisymm hle hge)

/-! ### The forests of a catalog -/

/-- The sub types of a family make a forest that grows from its resources. `accumulated` are
the sub types in the order in which they are made. -/
structure Catalog.IsForest (c : Catalog) (family : Family) (accumulated : List SubType) :
    Prop where
  /-- The sub types are those that are made, each of them once. -/
  perm : (c.subTypesOf family).Perm accumulated
  nodup : (c.subTypesOf family).Nodup
  /-- From each sub type there is a way up to a resource, which spells its name. -/
  exists_ascends : ∀ t ∈ c.subTypesOf family, ∃ r ∈ c.resourcesOf family, ∃ l,
    Ascends (c.subTypesOf family) r.typeName t l ∧ pathName r.typeName l.reverse = some t.typeName
  /-- There is no other way up. -/
  unique : ∀ {t}, ∀ r ∈ c.resourcesOf family, ∀ r' ∈ c.resourcesOf family, ∀ {l l'},
    Ascends (c.subTypesOf family) r.typeName t l →
      Ascends (c.subTypesOf family) r'.typeName t l' → r = r' ∧ l = l'
  /-- Where sub types are made, those inside of one come before it. -/
  inner_before : ∀ {t p}, Nested (c.subTypesOf family) t p → [t, p].Sublist accumulated
  /-- In the catalog they come after it. -/
  inner_after : ∀ {t p}, Nested (c.subTypesOf family) t p → [p, t].Sublist (c.subTypesOf family)

namespace Catalog

variable {c : Catalog} {family : Family}

/-- Names of resources do not look like those of sub types. -/
theorem not_marked_sub {d : Declared} (hd : d ∈ c.resourcesOf family) (h : d.IsNamed) :
    ¬ Marked "Sub" d.typeName := by
  have hmark : Marked family.mark d.typeName := by
    cases family <;> obtain ⟨r, -, rfl⟩ := List.mem_map.mp hd
    · obtain ⟨object, -, hn⟩ := Name.managedTypeName_eq_some.mp h
      rw [Declared.typeName, ← hn]
      exact marked_append "Managed" object
    · obtain ⟨connector, objectType, -, -, hn⟩ := Name.systemTypeName_eq_some.mp h
      rw [Declared.typeName, ← hn]
      exact (marked_append "System" connector).append objectType
  intro hsub
  have hboth := List.prefix_or_prefix_of_prefix hsub hmark
  cases family <;> exact absurd hboth (by decide)

theorem nodup_declaredOf (h : (c.declared.map (·.typeName)).Nodup) (family : Family) :
    ((c.declaredOf family).map (·.typeName)).Nodup := by
  rw [declared, List.map_append] at h
  obtain ⟨hm, hs, -⟩ := List.nodup_append.mp h
  cases family
  · exact hm
  · exact hs

/-- No sub type is named as a resource is. -/
theorem typeName_ne_of_mem (h : ((c.declaredOf family).map (·.typeName)).Nodup) {r : Declared}
    (hr : r ∈ c.resourcesOf family) {t : SubType} (ht : t ∈ c.subTypesOf family) :
    t.typeName ≠ r.typeName := by
  rw [declaredOf, List.map_append] at h
  have hdiff := (List.nodup_append.mp h).2.2 _ (List.mem_map_of_mem hr) _
    (List.mem_map_of_mem (List.mem_map_of_mem ht))
  exact Ne.symm hdiff

/-- Sub types that have ways up in the order in which they are made, and that are sorted by
names made for them, all different, are a forest. -/
theorem isForest {accumulated : List SubType} (hnames : (c.declared.map (·.typeName)).Nodup)
    (hnamed : ∀ d ∈ c.declaredOf family, d.IsNamed)
    (hsorted : c.subTypesOf family = sortOn (·.typeName) accumulated)
    (h : ∀ t ∈ accumulated, ∃ r ∈ c.resourcesOf family, ∃ l,
      Ascends accumulated r.typeName t l ∧ l.Sublist accumulated) :
    c.IsForest family accumulated := by
  have hperm : (c.subTypesOf family).Perm accumulated := hsorted ▸ sortOn_perm _ _
  have hnd : ((c.subTypesOf family).map (·.typeName)).Nodup := (nodup_kinds hnames).2.2 family
  have hndr := nodup_declaredOf hnames family
  have hnamedt : ∀ s ∈ c.subTypesOf family, (Declared.subType family s).IsNamed := fun s hs =>
    hnamed _ (List.mem_append_right _ (List.mem_map_of_mem hs))
  have hroot : ∀ r ∈ c.resourcesOf family, ∀ s ∈ c.subTypesOf family,
      s.typeName ≠ r.typeName := fun r hr s hs => typeName_ne_of_mem hndr hr hs
  have hup : ∀ t ∈ c.subTypesOf family, ∃ r ∈ c.resourcesOf family, ∃ l,
      Ascends (c.subTypesOf family) r.typeName t l ∧ l.Sublist accumulated := by
    intro t ht
    obtain ⟨r, hr, l, hl, hsub⟩ := h t (hperm.mem_iff.mp ht)
    exact ⟨r, hr, l, hl.mono hperm.symm.subset, hsub⟩
  have hbefore : ∀ {t p}, Nested (c.subTypesOf family) t p → [t, p].Sublist accumulated := by
    refine fun htp => htp.sublist_accumulated hnd fun t ht => ?_
    obtain ⟨r, hr, l, hl⟩ := hup t ht
    exact ⟨r.typeName, l, hroot r hr, hl⟩
  constructor
  case perm => exact hperm
  case nodup => exact List.Nodup.of_map _ hnd
  case exists_ascends =>
    intro t ht
    obtain ⟨r, hr, l, hl, -⟩ := hup t ht
    have hnr := not_marked_sub hr (hnamed r (List.mem_append_left _ hr))
    exact ⟨r, hr, l, hl, hl.pathName_eq hnamedt hnr⟩
  case unique =>
    intro t r hr r' hr' l l' hl hl'
    obtain ⟨he, hll⟩ := hl.unique hnd (hroot r hr) (hroot r' hr') hl'
    exact ⟨List.inj_on_of_nodup_map hndr (List.mem_append_left _ hr)
      (List.mem_append_left _ hr') he, hll⟩
  case inner_before => exact hbefore
  case inner_after =>
    intro t p htp
    have hsub := hbefore htp
    have hne : p ≠ t := by
      rintro rfl
      exact List.nodup_iff_sublist.mp (hperm.nodup_iff.mp (List.Nodup.of_map _ hnd)) _ hsub
    have hmem : ∀ {s}, s ∈ [t, p] → s ∈ c.subTypesOf family := fun hs =>
      hperm.mem_iff.mpr (hsub.subset hs)
    exact sublist_of_typeName_le hnd (hsorted ▸ sortOn_sorted _) (hmem (by simp)) (hmem (by simp))
      hne (htp.typeName_le hnamedt)

end Catalog

/-- **Sub types make a forest that their names spell.** In each family of a catalog that is
built there is one way up from each sub type, to a resource of the family, and the names of
the properties on it make the name of the sub type, with the name of the resource and one
`Sub` before them. Inference makes sub types after those inside of them, and the catalog has
them in front. -/
theorem subTypes_forest {s : Settings} {objects : List ManagedObject}
    {connectors : List Connector} {c : Catalog} (h : build s objects connectors = .ok c) :
    ∃ managed system,
      inferManaged s.managedKind (sortOn (·.name) objects) = .ok managed ∧
        inferSystem s.connectorKind (objectTypesOf connectors) = .ok system ∧
        c.IsForest .managed managed.subTypes ∧ c.IsForest .system system.subTypes := by
  have hnames := Catalog.nodup_of_build h
  have hnamed : ∀ family, ∀ d ∈ c.declaredOf family, d.IsNamed := by
    intro family d hd
    refine Catalog.isNamed_of_build h (Catalog.mem_declared.mpr ?_)
    rwa [Catalog.family_of_mem_declaredOf hd]
  obtain ⟨managed, system, hm, hs, hc⟩ := build_eq_ok.mp h
  obtain ⟨rfl, -⟩ := Catalog.assemble_eq_ok.mp hc
  obtain ⟨x, hx, hm⟩ := bind_eq_ok.mp hm
  obtain ⟨y, hy, hs⟩ := bind_eq_ok.mp hs
  cases hm
  cases hs
  refine ⟨x, y, hx, hy, Catalog.isForest hnames (hnamed .managed) ?_ fun t ht => ?_,
    Catalog.isForest hnames (hnamed .system) ?_ fun t ht => ?_⟩
  · exact sortOn_of_sorted (sortOn_sorted x.subTypes)
  · obtain ⟨r, hr, l, hl⟩ := ascends_of_inferManaged hx t ht
    exact ⟨.managed r, List.mem_map_of_mem (mem_sortOn.mpr hr), l, hl⟩
  · exact sortOn_of_sorted (sortOn_sorted y.subTypes)
  · obtain ⟨r, hr, l, hl⟩ := ascends_of_inferSystem hy t ht
    exact ⟨.system r, List.mem_map_of_mem (mem_sortOn.mpr (mem_sortOn.mpr hr)), l, hl⟩

/-- A user with an address that holds coordinates, and a connector with aliases in arrays. -/
def nestedTypes : List ManagedObject × List Connector :=
  ([⟨"user", { properties := [
      ("sub_address", { type := some (.single "object"), properties := [
        ("geo", { type := some (.union ["object", "null"]), properties := [
          ("lat", { type := some (.single "number") })] })] })] }⟩],
    [⟨"ldap", [("account", { properties := [
      ("name", { type := some (.single "object"), properties := [
        ("aliases", { type := some (.single "array"), items := some {
          type := some (.single "array"), items := some {
            type := some (.single "object"), properties := [
              ("text", { type := some (.single "string") })] } } })] })] })]⟩])

theorem subTypes_forest_nestedTypes : ∃ c managed system,
    build {} nestedTypes.1 nestedTypes.2 = .ok c ∧
      managed.map (·.typeName) = ["SubManagedUserSubAddressGeo", "SubManagedUserSubAddress"] ∧
      system.map (·.typeName) = ["SubSystemLdapAccountNameAliases", "SubSystemLdapAccountName"] ∧
      c.IsForest .managed managed ∧ c.IsForest .system system := by
  have hbuild : (build {} nestedTypes.1 nestedTypes.2).toOption.map
      (fun c => c.managedSubTypes.map (·.typeName)) =
      some ["SubManagedUserSubAddress", "SubManagedUserSubAddressGeo"] := by
    decide +kernel
  have hmanaged : (inferManaged .unknown (sortOn (·.name) nestedTypes.1)).toOption.map
      (fun x => x.subTypes.map (·.typeName)) =
      some ["SubManagedUserSubAddressGeo", "SubManagedUserSubAddress"] := by
    decide +kernel
  have hsystem : (inferSystem .unknown (objectTypesOf nestedTypes.2)).toOption.map
      (fun x => x.subTypes.map (·.typeName)) =
      some ["SubSystemLdapAccountNameAliases", "SubSystemLdapAccountName"] := by
    decide +kernel
  obtain ⟨c, hc, -⟩ := toOption_map_eq_some.mp hbuild
  obtain ⟨x, hx, hxn⟩ := toOption_map_eq_some.mp hmanaged
  obtain ⟨y, hy, hyn⟩ := toOption_map_eq_some.mp hsystem
  obtain ⟨x', y', hx', hy', hm, hs⟩ := subTypes_forest hc
  cases hx.symm.trans hx'
  cases hy.symm.trans hy'
  exact ⟨c, x.subTypes, y.subTypes, hc, hxn, hyn, hm, hs⟩

end IdentityTypes
