/-
# The two families in a catalog

All names of a catalog are compared with one another, but they fall into four kinds that
begin differently: `Managed` and `System` for resources, `SubManaged` and `SubSystem` for
the sub types of the two families. The name of a sub type goes on from that of its owner
at any depth, and so the beginning of a resource's name is passed on to everything inside
it. Names of different kinds are different, and a collision is one inside of a kind
(`firstCollision_filter`): what is given for one family cannot disturb the other.

Key definitions: `Marked`, `Family.mark`, `Catalog.kinds`, `Catalog.FamiliesIndependent`.
Key theorems: `subTypes_marked_invariant`, `firstCollision_filter`,
`Catalog.exists_kind_of_firstCollision`, `Catalog.families_independent`.
-/
import IdentityTypes.Proofs.Catalog.Names
import Mathlib.Data.List.Flatten

namespace IdentityTypes

/-! ### How names begin -/

/-- The name begins with the mark. -/
def Marked (mark name : String) : Prop := mark.toList <+: name.toList

instance (mark name : String) : Decidable (Marked mark name) :=
  inferInstanceAs (Decidable (_ <+: _))

/-- How the names of the resources of a family begin. -/
def Family.mark : Family → String
  | .managed => "Managed"
  | .system => "System"

/-- How the names of the sub types of a family begin. -/
def Family.subMark (family : Family) : String := "Sub" ++ family.mark

/-- How the names of the four kinds begin. -/
def marks : List String := ["Managed", "System", "SubManaged", "SubSystem"]

/-- No name begins with two of the marks. -/
theorem Marked.unique {m m' name : String} (hm : m ∈ marks) (hm' : m' ∈ marks)
    (h : Marked m name) (h' : Marked m' name) : m = m' := by
  have hne : ∀ a ∈ marks, ∀ b ∈ marks, a.toList <+: b.toList → a = b := by decide
  rcases List.prefix_or_prefix_of_prefix h h' with hp | hp
  · exact hne m hm m' hm' hp
  · exact (hne m' hm' m hm hp).symm

theorem marked_append (m rest : String) : Marked m (m ++ rest) := by
  rw [Marked, String.toList_append]
  exact List.prefix_append _ _

theorem Marked.append {m name : String} (h : Marked m name) (rest : String) :
    Marked m (name ++ rest) := by
  rw [Marked, String.toList_append]
  exact h.trans (List.prefix_append _ _)

/-- The name of a sub type begins with `Sub`, whatever owner it has. -/
theorem subTypeName_marked_sub {owner property name : String}
    (h : Name.subTypeName owner property = some name) : Marked "Sub" name := by
  obtain ⟨p, -, hn⟩ := Name.subTypeName_eq_some.mp h
  rw [← hn]
  by_cases hsub : "Sub".toList <+: owner.toList
  · rw [if_pos hsub]
    exact Marked.append hsub p
  · rw [if_neg hsub]
    exact (marked_append "Sub" owner).append p

/-- In a name that begins with the mark of a family the owner of a sub type is seen. -/
theorem subTypeName_marked {family : Family} {owner property name : String}
    (ho : Marked family.mark owner ∨ Marked family.subMark owner)
    (h : Name.subTypeName owner property = some name) : Marked family.subMark name := by
  obtain ⟨p, -, hn⟩ := Name.subTypeName_eq_some.mp h
  rcases ho with ho | ho
  · have hsub : ¬ "Sub".toList <+: owner.toList := by
      intro hsub
      have hboth := List.prefix_or_prefix_of_prefix hsub ho
      cases family <;> exact absurd hboth (by decide)
    have hmark : Marked family.subMark ("Sub" ++ owner) := by
      rw [Marked, Family.subMark, String.toList_append, String.toList_append]
      exact (List.prefix_append_right_inj _).mpr ho
    rw [if_neg hsub] at hn
    exact hn ▸ hmark.append p
  · have hsub : "Sub".toList <+: owner.toList := by
      refine List.IsPrefix.trans ?_ ho
      rw [Family.subMark, String.toList_append]
      exact List.prefix_append _ _
    rw [if_pos hsub] at hn
    exact hn ▸ ho.append p

/-- Below an owner that shows its family all sub types do. -/
theorem subTypes_marked_invariant (family : Family) (kind : ValueKind) :
    InferenceInvariant family kind
      (fun _ _ owner x => Marked family.mark owner ∨ Marked family.subMark owner →
        ∀ t ∈ x.subTypes, Marked family.subMark t.typeName)
      (fun _ _ owner x => Marked family.mark owner ∨ Marked family.subMark owner →
        ∀ t ∈ x.subTypes, Marked family.subMark t.typeName) where
  primitive _ _ _ := List.forall_mem_nil _
  openMap _ _ _ := List.forall_mem_nil _
  object _ _ hname h ho := by
    have hmark := subTypeName_marked ho hname
    exact List.forall_mem_append.mpr ⟨h (.inr hmark), List.forall_mem_singleton.mpr hmark⟩
  openArray _ _ _ := List.forall_mem_nil _
  array _ _ h := h
  reference _ _ _ _ := List.forall_mem_nil _
  unresolved _ _ _ _ := List.forall_mem_nil _
  nil _ := List.forall_mem_nil _
  cons h hs ho := List.forall_mem_append.mpr ⟨h ho, hs ho⟩

/-! ### The names of what is built -/

theorem marked_of_managedResources {kind : ValueKind} {objects : List ManagedObject}
    {set : ResourceSet ManagedResource} (h : managedResources kind objects = .ok set) :
    (∀ r ∈ set.resources, Marked "Managed" r.typeName) ∧
      ∀ t ∈ set.subTypes, Marked "SubManaged" t.typeName := by
  refine forall_of_managedResources h fun hn hp => ?_
  obtain ⟨object, -, rfl⟩ := Name.managedTypeName_eq_some.mp hn
  have hmark := marked_append "Managed" object
  exact ⟨hmark, (subTypes_marked_invariant .managed kind).properties _ _ _ hp (.inl hmark)⟩

theorem marked_of_systemResources {kind : ValueKind} {connectors : List Connector}
    {set : ResourceSet SystemResource} (h : systemResources kind connectors = .ok set) :
    (∀ r ∈ set.resources, Marked "System" r.typeName) ∧
      ∀ t ∈ set.subTypes, Marked "SubSystem" t.typeName := by
  refine forall_of_systemResources h fun hn hp => ?_
  obtain ⟨connector, objectType, -, -, rfl⟩ := Name.systemTypeName_eq_some.mp hn
  have hmark := (marked_append "System" connector).append objectType
  exact ⟨hmark, (subTypes_marked_invariant .system kind).properties _ _ _ hp (.inl hmark)⟩

/-! ### Collisions of some names only -/

theorem flatMap_filter {α β : Type} {p : α → Bool} {f : α → List β} : ∀ l : List α,
    (l.filter p).flatMap f = l.flatMap fun a => if p a then f a else []
  | [] => rfl
  | a :: l => by
    by_cases ha : p a = true
    · rw [List.filter_cons_of_pos ha, List.flatMap_cons, List.flatMap_cons, if_pos ha,
        flatMap_filter l]
    · rw [List.filter_cons_of_neg ha, List.flatMap_cons, if_neg ha, List.nil_append,
        flatMap_filter l]

section

variable {e : Collision}

/-- A name that is kept is found where it was found before. -/
theorem lookup_filter {keep : String → Bool} {name : String} (h : keep name = true) :
    ∀ l : List (String × String), (l.filter fun p => keep p.1).lookup name = l.lookup name
  | [] => rfl
  | (n, o) :: l => by
    by_cases hn : name = n
    · subst hn
      simp [h]
    · have hb : (name == n) = false := by simpa using hn
      by_cases hk : keep n = true
      · simp [hk, List.lookup_cons, hb, lookup_filter h l]
      · simp [hk, List.lookup_cons, hb, lookup_filter h l]

/-- The first collision is still found where names that it does not have are left out. -/
theorem firstCollision_filter (keep : String → Bool) : ∀ {seen l : List (String × String)},
    firstCollision seen l = some e → keep e.name = true →
    firstCollision (seen.filter fun p => keep p.1) (l.filter fun p => keep p.1) = some e
  | seen, (name, origin) :: rest, h, he => by
    unfold firstCollision at h
    cases hs : seen.lookup name with
    | some first =>
      rw [hs] at h
      cases h
      rw [List.filter_cons, if_pos he, firstCollision, lookup_filter he, hs]
    | none =>
      rw [hs] at h
      have hrest := firstCollision_filter keep h he
      by_cases hk : keep name = true
      · rw [List.filter_cons, if_pos hk] at hrest ⊢
        rwa [firstCollision, lookup_filter hk, hs]
      · rw [List.filter_cons, if_neg hk] at hrest ⊢
        exact hrest

/-- The two declarations of a collision stand in the list one after the other. -/
theorem sublist_of_firstCollision {l : List (String × String)}
    (h : firstCollision [] l = some e) :
    [(e.name, e.first), (e.name, e.second)].Sublist l := by
  obtain ⟨before, after, rfl, -, hfirst⟩ := exists_of_firstCollision h
  rw [List.append_nil] at hfirst
  exact (List.singleton_sublist.mpr hfirst).append
    (List.singleton_sublist.mpr List.mem_cons_self)

end

/-! ### The four kinds of a catalog -/

namespace Catalog

/-- The declarations of each kind, with the mark of their names. -/
def kinds (c : Catalog) : List (String × List (String × String)) :=
  [("Managed", c.managed.map fun r => (r.typeName, r.path)),
    ("System", c.system.map fun r => (r.typeName, r.path)),
    ("SubManaged", c.managedSubTypes.map fun s => (s.typeName, s.origin)),
    ("SubSystem", c.systemSubTypes.map fun s => (s.typeName, s.origin))]

theorem origins_eq (c : Catalog) : c.origins = c.kinds.flatMap (·.2) := by
  simp [origins, kinds]

/-- All names have the mark of their kind. -/
def IsMarked (c : Catalog) : Prop := ∀ k ∈ c.kinds, ∀ p ∈ k.2, Marked k.1 p.1

/-- The declarations whose names have some of the marks are those of some of the kinds. -/
theorem filter_origins {c : Catalog} (h : c.IsMarked) {ms : List String}
    (hms : ∀ m ∈ ms, m ∈ marks) :
    (c.origins.filter fun p => ∃ m ∈ ms, Marked m p.1) =
      (c.kinds.filter (·.1 ∈ ms)).flatMap (·.2) := by
  have hkinds : ∀ k ∈ c.kinds, k.1 ∈ marks := by simp [kinds, marks]
  have hkind : ∀ k ∈ c.kinds, (k.2.filter fun p => ∃ m ∈ ms, Marked m p.1) =
      if decide (k.1 ∈ ms) then k.2 else [] := by
    intro k hk
    split
    · rename_i hm
      refine List.filter_eq_self.mpr fun p hp => decide_eq_true ?_
      exact ⟨k.1, of_decide_eq_true hm, h k hk p hp⟩
    · rename_i hm
      refine List.filter_eq_nil_iff.mpr fun p hp hmark => hm ?_
      obtain ⟨m, hmem, hmark⟩ := of_decide_eq_true hmark
      rw [(h k hk p hp).unique (hkinds k hk) (hms m hmem) hmark]
      exact decide_eq_true hmem
  rw [origins_eq, List.filter_flatMap, List.flatMap_congr hkind, flatMap_filter]

/-- A collision is one between two declarations of a kind. -/
theorem exists_kind_of_firstCollision {c : Catalog} (h : c.IsMarked) {e : Collision}
    (he : firstCollision [] c.origins = some e) :
    ∃ k ∈ c.kinds, Marked k.1 e.name ∧ firstCollision [] k.2 = some e := by
  have hmem : (e.name, e.second) ∈ c.origins :=
    (sublist_of_firstCollision he).subset (by simp)
  rw [origins_eq] at hmem
  obtain ⟨k, hk, hp⟩ := List.mem_flatMap.mp hmem
  have hmark : Marked k.1 e.name := h k hk _ hp
  have hms : ∀ m ∈ [k.1], m ∈ marks := by
    rw [List.forall_mem_singleton]
    revert k
    simp [kinds, marks]
  have hone : (c.kinds.filter (·.1 ∈ [k.1])).flatMap (·.2) = k.2 := by
    revert k
    simp [kinds]
  have hfilter := firstCollision_filter (fun n => ∃ m ∈ [k.1], Marked m n) he (by simpa)
  rw [filter_origins h hms, hone] at hfilter
  exact ⟨k, hk, hmark, hfilter⟩

variable {managed : ResourceSet ManagedResource} {system : ResourceSet SystemResource}

theorem assemble_eq_error {e : Collision} : assemble managed system = .error e ↔
    firstCollision [] (sorted managed system).origins = some e := by
  unfold assemble
  simp only
  cases firstCollision [] (sorted managed system).origins <;> simp

/-- All names that are made from a configuration have the mark of their kind. -/
theorem isMarked_sorted {kind kind' : ValueKind} {objects : List ManagedObject}
    {connectors : List Connector} (hm : managedResources kind objects = .ok managed)
    (hs : systemResources kind' connectors = .ok system) : (sorted managed system).IsMarked := by
  obtain ⟨hmr, hmt⟩ := marked_of_managedResources hm
  obtain ⟨hsr, hst⟩ := marked_of_systemResources hs
  simp only [IsMarked, kinds, sorted, List.forall_mem_cons, List.forall_mem_map, mem_sortOn]
  exact ⟨hmr, hsr, hmt, hst, List.forall_mem_nil _⟩

/-- The declarations of managed objects alone are those of two kinds. -/
theorem origins_managed (system : ResourceSet SystemResource) :
    (sorted managed .empty).origins =
      ((sorted managed system).kinds.filter (·.1 ∈ ["Managed", "SubManaged"])).flatMap (·.2) := by
  simp [origins, kinds, sorted, ResourceSet.empty, sortOn]

/-- The declarations of connectors alone are those of the other two kinds. -/
theorem origins_system (managed : ResourceSet ManagedResource) :
    (sorted .empty system).origins =
      ((sorted managed system).kinds.filter (·.1 ∈ ["System", "SubSystem"])).flatMap (·.2) := by
  simp [origins, kinds, sorted, ResourceSet.empty, sortOn]

/-- A collision is found in the declarations of its family alone. -/
theorem error_of_family (h : (sorted managed system).IsMarked) {e : Collision}
    (he : assemble managed system = .error e) :
    assemble managed .empty = .error e ∨ assemble .empty system = .error e := by
  rw [assemble_eq_error] at he
  rw [assemble_eq_error, assemble_eq_error, origins_managed system, origins_system managed]
  obtain ⟨k, hk, hmark, -⟩ := exists_kind_of_firstCollision h he
  -- Leaving out the other family keeps every name with one of the two marks of this one.
  have hkeep : ∀ ms : List String, (∀ m ∈ ms, m ∈ marks) → k.1 ∈ ms →
      firstCollision [] (((sorted managed system).kinds.filter (·.1 ∈ ms)).flatMap (·.2)) =
        some e := by
    intro ms hms hmem
    have hfilter := firstCollision_filter (fun n => ∃ m ∈ ms, Marked m n) he
      (decide_eq_true ⟨k.1, hmem, hmark⟩)
    rwa [filter_origins h hms] at hfilter
  have hfamily : k.1 ∈ ["Managed", "SubManaged"] ∨ k.1 ∈ ["System", "SubSystem"] := by
    revert k
    simp [kinds]
  exact hfamily.imp (hkeep _ (by decide)) (hkeep _ (by decide))

/-- There is a catalog exactly if all names that are compared differ. -/
theorem exists_assemble_eq_ok : (∃ c, assemble managed system = .ok c) ↔
    ((sorted managed system).origins.map (·.1)).Nodup := by
  rw [← (map_typeName_declared_perm _).nodup_iff]
  constructor
  · rintro ⟨c, hc⟩
    obtain ⟨rfl, hnd⟩ := assemble_eq_ok.mp hc
    exact hnd
  · exact fun hnd => ⟨_, assemble_eq_ok.mpr ⟨rfl, hnd⟩⟩

/-- Where there is a catalog, there is one of each family alone. -/
theorem exists_of_exists_assemble (h : ∃ c, assemble managed system = .ok c) :
    (∃ c, assemble managed .empty = .ok c) ∧ ∃ c, assemble .empty system = .ok c := by
  rw [exists_assemble_eq_ok, origins_eq] at h
  rw [exists_assemble_eq_ok, exists_assemble_eq_ok, origins_managed system, origins_system managed]
  have hpart : ∀ p : String × List (String × String) → Bool,
      ((((sorted managed system).kinds.filter p).flatMap (·.2)).map (·.1)).Nodup := fun p =>
    h.sublist ((List.filter_sublist.flatMap _).map _)
  exact ⟨hpart _, hpart _⟩

/-- The two families of a catalog do not disturb one another. -/
structure FamiliesIndependent (managed : ResourceSet ManagedResource)
    (system : ResourceSet SystemResource) : Prop where
  /-- There is a catalog exactly if there is one of each family alone. -/
  exists_iff : (∃ c, assemble managed system = .ok c) ↔
    (∃ c, assemble managed .empty = .ok c) ∧ ∃ c, assemble .empty system = .ok c
  /-- The catalog is made of those of the two families. -/
  parts : ∀ {c cm cs}, assemble managed system = .ok c → assemble managed .empty = .ok cm →
    assemble .empty system = .ok cs →
      c = ⟨cm.managed, cm.managedSubTypes, cs.system, cs.systemSubTypes,
        cm.warnings ++ cs.warnings⟩
  /-- A collision is one of two declarations of the same kind. -/
  same_kind : ∀ {e}, assemble managed system = .error e → ∃ k ∈ (sorted managed system).kinds,
    [(e.name, e.first), (e.name, e.second)].Sublist k.2
  /-- Where managed objects do not collide with one another, what is in collision are two
  resources or two sub types of connectors. -/
  only_system : ∀ {e cm}, assemble managed .empty = .ok cm → assemble managed system = .error e →
    assemble .empty system = .error e

/-- **The families are independent.** The resources of managed objects and those of
connectors, as they are inferred from any configuration, make a catalog exactly if they do
so apart, and then the one that the two catalogs have together; all collisions are inside
of a kind of one family. -/
theorem families_independent {kind kind' : ValueKind} {objects : List ManagedObject}
    {connectors : List Connector} (hm : managedResources kind objects = .ok managed)
    (hs : systemResources kind' connectors = .ok system) : FamiliesIndependent managed system where
  exists_iff := by
    refine ⟨exists_of_exists_assemble, ?_⟩
    rintro ⟨⟨cm, hcm⟩, cs, hcs⟩
    cases hc : assemble managed system with
    | ok c => exact ⟨c, rfl⟩
    | error e =>
      rcases error_of_family (isMarked_sorted hm hs) hc with he | he
      · rw [hcm] at he; cases he
      · rw [hcs] at he; cases he
  parts hc hcm hcs := by
    rw [(assemble_eq_ok.mp hc).1, (assemble_eq_ok.mp hcm).1, (assemble_eq_ok.mp hcs).1]
    simp [sorted, ResourceSet.empty]
  same_kind he := by
    obtain ⟨k, hk, -, hcollision⟩ := exists_kind_of_firstCollision (isMarked_sorted hm hs)
      (assemble_eq_error.mp he)
    exact ⟨k, hk, sublist_of_firstCollision hcollision⟩
  only_system hcm he := by
    refine (error_of_family (isMarked_sorted hm hs) he).resolve_left fun hm => ?_
    rw [hcm] at hm
    cases hm

/-- Managed objects whose names look like those of connectors. -/
def lookalikeObjects : List ManagedObject :=
  [⟨"system_ldap_account", {}⟩, ⟨"user", { properties := [
    ("sub_system", { type := some (.single "object"), properties := [
      ("city", { type := some (.single "string") })] })] }⟩]

/-- A connector named as the managed family, two of whose object types collide. -/
def collidingConnectors : List Connector :=
  [⟨"managed", [("user", {}), ("crew_member", {})]⟩, ⟨"managed_crew", [("member", {})]⟩]

theorem families_independent_lookalike : ∃ managed system e,
    managedResources .unknown lookalikeObjects = .ok managed ∧
      systemResources .unknown collidingConnectors = .ok system ∧
      (∃ c, assemble managed .empty = .ok c) ∧ assemble managed system = .error e ∧
      assemble .empty system = .error e ∧
      e = ⟨"SystemManagedCrewMember", "system/managed/crew_member", "system/managed_crew/member"⟩ ∧
      ∃ k ∈ (sorted managed system).kinds,
        [(e.name, e.first), (e.name, e.second)].Sublist k.2 := by
  have h : (managedResources .unknown lookalikeObjects >>= fun managed =>
      systemResources .unknown collidingConnectors >>= fun system =>
        .ok ((assemble managed .empty).isOk, assemble managed system)) =
      .ok (true, .error ⟨"SystemManagedCrewMember", "system/managed/crew_member",
        "system/managed_crew/member"⟩) := by
    decide +kernel
  obtain ⟨managed, hm, h⟩ := bind_eq_ok.mp h
  obtain ⟨system, hs, h⟩ := bind_eq_ok.mp h
  obtain ⟨hok, he⟩ := Prod.mk.inj (Except.ok.inj h)
  have hind := families_independent hm hs
  cases hcm : assemble managed .empty with
  | error e => rw [hcm] at hok; cases hok
  | ok cm =>
    exact ⟨managed, system, _, hm, hs, ⟨cm, hcm⟩, he, hind.only_system hcm he, rfl,
      hind.same_kind he⟩

end Catalog

end IdentityTypes
