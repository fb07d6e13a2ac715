/-
# Catalogs of any declarations

Two sets of resources make a catalog exactly if no two of their declarations have the same
name, whatever order they come in and whoever has made them. The catalog then holds all of
them and nothing else, in ascending order. Otherwise the first collision is reported: the
first declaration whose name stands before it, and the one that has this name there.

The search for a collision keeps the names that it has met. Up to the first collision
these are all different, and so the origin kept for a name is that of the only declaration
that has it (`exists_of_firstCollision`).

Key definitions: `Catalog.compared`, `Catalog.Arranges`, `Collision.IsFirstOf`.
Key theorems: `Catalog.isFirstOf_of_firstCollision`,
`Catalog.assemble_arranges_or_collides`.
-/
import IdentityTypes.Proofs.Catalog.Names

namespace IdentityTypes

/-! ### The first collision -/

/-- Where the declaration comes from. -/
def Declared.origin : Declared → String
  | managed r => r.path
  | system r => r.path
  | subType _ s => s.origin

/-- The collision is the first one in a list of declarations: those before the second one
of the two all have different names, and the first one is among them. -/
def Collision.IsFirstOf (e : Collision) (ds : List Declared) : Prop :=
  ∃ before first between second after, ds = before ++ first :: between ++ second :: after ∧
    ((before ++ first :: between).map (·.typeName)).Nodup ∧ first.typeName = second.typeName ∧
    e = ⟨second.typeName, first.origin, second.origin⟩

namespace Catalog

variable {managed : ResourceSet ManagedResource} {system : ResourceSet SystemResource}

/-- The declarations in the order in which their names are compared: the resources of both
families, then the sub types of both. -/
def compared (c : Catalog) : List Declared :=
  c.managed.map .managed ++ (c.system.map .system ++
    (c.managedSubTypes.map (.subType .managed) ++ c.systemSubTypes.map (.subType .system)))

theorem origins_eq_map_compared (c : Catalog) :
    c.origins = c.compared.map fun d => (d.typeName, d.origin) := by
  simp only [origins, compared, List.map_append, List.map_map, Function.comp_def,
    Declared.typeName, Declared.origin]

theorem isFirstOf_of_firstCollision {c : Catalog} {e : Collision}
    (h : firstCollision [] c.origins = some e) : e.IsFirstOf c.compared := by
  obtain ⟨before, after, horigins, hnone, hfirst⟩ := exists_of_firstCollision h
  rw [List.append_nil] at hfirst
  obtain ⟨hnodup, -⟩ := firstCollision_eq_none.mp hnone
  rw [origins_eq_map_compared, List.map_eq_append_iff] at horigins
  obtain ⟨met, rest, hcompared, rfl, hrest⟩ := horigins
  obtain ⟨second, unmet, rfl, hsecond, -⟩ := List.map_eq_cons_iff.mp hrest
  obtain ⟨first, hmem, horigin⟩ := List.mem_map.mp hfirst
  obtain ⟨earlier, between, rfl⟩ := List.append_of_mem hmem
  obtain ⟨hname, hfirst⟩ := Prod.mk.inj horigin
  obtain ⟨hname', hsecond⟩ := Prod.mk.inj hsecond
  refine ⟨earlier, first, between, second, unmet, hcompared, ?_, hname.trans hname'.symm, ?_⟩
  · rwa [List.map_map] at hnodup
  · rw [hname', hfirst, hsecond]

/-! ### Catalogs -/

/-- The names of all declarations of two families. -/
def givenNames (managed : ResourceSet ManagedResource) (system : ResourceSet SystemResource) :
    List String :=
  managed.resources.map (·.typeName) ++ system.resources.map (·.typeName) ++
    managed.subTypes.map (·.typeName) ++ system.subTypes.map (·.typeName)

/-- The catalog holds what two families declare, each kind of declarations in ascending
order and those that are equal in it in the order given, and the warnings of both. -/
structure Arranges (c : Catalog) (managed : ResourceSet ManagedResource)
    (system : ResourceSet SystemResource) : Prop where
  sorts_managed : SortsTo (·.name) managed.resources c.managed
  sorts_managedSubTypes : SortsTo (·.typeName) managed.subTypes c.managedSubTypes
  sorts_system : SortsTo (·.fullName) system.resources c.system
  sorts_systemSubTypes : SortsTo (·.typeName) system.subTypes c.systemSubTypes
  warnings_eq : c.warnings = managed.warnings ++ system.warnings

theorem sorted_arranges (managed : ResourceSet ManagedResource)
    (system : ResourceSet SystemResource) : (sorted managed system).Arranges managed system where
  sorts_managed := sortOn_sortsTo _
  sorts_managedSubTypes := sortOn_sortsTo _
  sorts_system := sortOn_sortsTo _
  sorts_systemSubTypes := sortOn_sortsTo _
  warnings_eq := rfl

/-- Nothing is lost where a catalog arranges the declarations, and nothing added. -/
theorem Arranges.perm {c : Catalog} (h : c.Arranges managed system) :
    c.managed.Perm managed.resources ∧ c.managedSubTypes.Perm managed.subTypes ∧
      c.system.Perm system.resources ∧ c.systemSubTypes.Perm system.subTypes :=
  ⟨h.sorts_managed.perm, h.sorts_managedSubTypes.perm, h.sorts_system.perm,
    h.sorts_systemSubTypes.perm⟩

theorem Arranges.map_typeName_perm {c : Catalog} (h : c.Arranges managed system) :
    (c.compared.map (·.typeName)).Perm (givenNames managed system) := by
  obtain ⟨hm, hmt, hs, hst⟩ := h.perm
  simp only [compared, givenNames, List.map_append, List.map_map, Function.comp_def,
    Declared.typeName, List.append_assoc]
  exact (hm.map _).append ((hs.map _).append ((hmt.map _).append (hst.map _)))

/-- **Any two sets of resources make a catalog, or a collision of two names is reported.**
There is a catalog exactly if all names that are given differ. It has all that is given, in
ascending order. If there is none, the collision is the first one in the order of this
catalog, with the two declarations it is between. -/
theorem assemble_arranges_or_collides (managed : ResourceSet ManagedResource)
    (system : ResourceSet SystemResource) :
    ∃ c : Catalog, c.Arranges managed system ∧
      ((∃ c', assemble managed system = .ok c') ↔ (givenNames managed system).Nodup) ∧
      (∀ c', assemble managed system = .ok c' → c' = c) ∧
      ∀ e, assemble managed system = .error e → e.IsFirstOf c.compared := by
  have harranges := sorted_arranges managed system
  have hnames : firstCollision [] (sorted managed system).origins = none ↔
      (givenNames managed system).Nodup := by
    rw [firstCollision_eq_none, ← harranges.map_typeName_perm.nodup_iff, origins_eq_map_compared,
      List.map_map]
    simp [Function.comp_def]
  refine ⟨sorted managed system, harranges, ?_⟩
  unfold assemble
  simp only
  cases he : firstCollision [] (sorted managed system).origins with
  | none =>
    refine ⟨iff_of_true ⟨_, rfl⟩ (hnames.mp he), fun c hc => (Except.ok.inj hc).symm, nofun⟩
  | some e =>
    refine ⟨iff_of_false nofun fun h => ?_, nofun, fun e' he' => ?_⟩
    · rw [hnames.mpr h] at he
      cases he
    · cases he'
      exact isFirstOf_of_firstCollision he

/-- Of three declarations with one name the two that are compared first are reported. -/
example : assemble ⟨[⟨"b", "X", []⟩, ⟨"a", "X", []⟩], [], []⟩
    ⟨[⟨"c", "o", "c/o", "cO", "X", []⟩], [], []⟩ = .error ⟨"X", "managed/a", "managed/b"⟩ := by
  decide

/-- Resources are in the order of their full names, whatever their connectors are. -/
example : assemble .empty
    ⟨[⟨"a", "o", "z", "aO", "X", []⟩, ⟨"b", "o", "y", "bO", "Y", []⟩], [], []⟩ =
      .ok ⟨[], [], [⟨"b", "o", "y", "bO", "Y", []⟩, ⟨"a", "o", "z", "aO", "X", []⟩], [], []⟩ := by
  decide

end Catalog

end IdentityTypes
