/-
# The types that the module exports

A declaration exports one type, and its first line says so. The names of the
catalog all differ, but the module exports more than these: to each managed object
belongs the type of what reads return by default, and its name, with `Defaults` at
the end, is not compared with the others. It cannot be that of an object of a
connector or of a sub type, which begin with another letter, but another managed
object may well be called so.

Key definitions: `exports`, `exportedNames`.
Key theorems: `exportedNames_render`, `exports_perm`, `nodup_exports_iff`.
-/
import IdentityTypes.Proofs.TypeScript.Lines
import Mathlib.Data.List.Nodup

namespace IdentityTypes.TypeScript

open Text

/-- The name of the type that the declaration exports. -/
def Declaration.name : Declaration → String
  | .object name _ _ => name
  | .pick name _ _ => name

/-- The names of the types that the module exports, in order. -/
def exports (c : Catalog) : List String := (declarations c).map Declaration.name

/-! ### Exports in the text -/

/-- The name of the type that a line exports: what follows `export type`, up to the
next space. -/
def exportedName? (line : String) : Option String :=
  (dropStart? "export type " line).map fun rest =>
    String.ofList (rest.toList.takeWhile (· ≠ ' '))

/-- The names of the types that a text exports. -/
def exportedNames (text : String) : List String :=
  (linesOf text).filterMap fun line => exportedName? (String.ofList line)

/-- The name can be read in one piece. -/
def IsLegible (name : String) : Prop := NoBreak name ∧ ' ' ∉ name.toList

instance (name : String) : Decidable (IsLegible name) := inferInstanceAs (Decidable (_ ∧ _))

theorem exportedName?_export {name rest : String} (h : ' ' ∉ name.toList)
    (hrest : rest.toList.head? = some ' ') :
    exportedName? ("export type " ++ (name ++ rest)) = some name := by
  obtain ⟨cs, hcs⟩ := List.head?_eq_some_iff.mp hrest
  have hdrop : dropStart? "export type " ("export type " ++ (name ++ rest)) = some (name ++ rest) :=
    dropStart?_eq_some.mpr rfl
  have hname : ∀ c ∈ name.toList, decide (c ≠ ' ') = true :=
    fun c hc => decide_eq_true fun he => h (he ▸ hc)
  have hread : (name.toList ++ rest.toList).takeWhile (· ≠ ' ') = name.toList := by
    rw [List.takeWhile_append_of_pos hname, hcs, List.takeWhile_cons_of_neg (by decide),
      List.append_nil]
  rw [exportedName?, hdrop, Option.map_some, String.toList_append, hread, String.ofList_toList]

/-- A line that begins with another letter exports no type. -/
theorem exportedName?_eq_none {line : String} (h : line.toList.head? ≠ some 'e') :
    exportedName? line = none := by
  rw [exportedName?, Option.map_eq_none_iff, Option.eq_none_iff_forall_ne_some]
  intro rest hrest
  rw [dropStart?_eq_some.mp hrest, String.toList_append] at h
  exact h rfl

theorem head?_of_mem_docLines {p : Property} {l : String} (h : l ∈ docLines p) :
    l.toList.head? = some ' ' := by
  unfold docLines at h
  split at h
  · cases h
  · simp only [List.cons_append, List.mem_cons, List.mem_append, List.mem_map, List.not_mem_nil,
      or_false] at h
    rcases h with rfl | ⟨line, -, rfl⟩ | rfl
    · rfl
    · unfold commentLine
      split
      · rfl
      · simp
    · rfl

theorem head?_of_mem_propertyLines {p : Property} {l : String} (h : l ∈ propertyLines p) :
    l.toList.head? = some ' ' := by
  rcases List.mem_append.mp h with h | h
  · exact head?_of_mem_docLines h
  · rw [List.mem_singleton.mp h]
    simp [propertyLine]

/-- The first line of a declaration exports its name, and of the other lines each is empty,
indented or the end of the declaration. -/
theorem Declaration.lines_eq (d : Declaration) : ∃ rest more,
    d.lines = ("export type " ++ (d.name ++ (" = " ++ rest))) :: more ∧
      ∀ l ∈ more, l.toList.head? ∈ [none, some ' ', some '\x7d'] := by
  cases d with
  | object name tag properties =>
    refine ⟨"\x7b", _, congrArg (· :: _) ?_, fun l hl => ?_⟩
    · unfold openLine
      rw [String.append_assoc]
      rfl
    · simp only [List.mem_cons, List.mem_append, List.mem_map, List.mem_flatMap, List.not_mem_nil,
        or_false] at hl
      rcases hl with ⟨path, -, rfl⟩ | ⟨p, -, hl⟩ | rfl | rfl
      · unfold tagLine
        simp
      · simp [head?_of_mem_propertyLines hl]
      · decide
      · decide
  | pick name source keys =>
    refine ⟨"Pick<" ++ (source ++ (", " ++ (" | ".intercalate (keys.map Json.quote) ++ ">;"))),
      [""], congrArg (· :: _) ?_, List.forall_mem_singleton.mpr (by decide)⟩
    have hpick : " = Pick<" = " = " ++ "Pick<" := by decide
    unfold pickLine
    simp only [hpick, String.append_assoc]
    rfl

/-- Of the lines of a declaration the first exports its name, and no other exports
any. -/
theorem Declaration.filterMap_lines {d : Declaration} (h : ' ' ∉ d.name.toList) :
    d.lines.filterMap exportedName? = [d.name] := by
  obtain ⟨rest, more, hlines, hmore⟩ := d.lines_eq
  have hfirst : exportedName? ("export type " ++ (d.name ++ (" = " ++ rest))) = some d.name :=
    exportedName?_export h (by simp)
  rw [hlines, List.filterMap_cons_some hfirst,
    List.filterMap_eq_nil_iff.mpr fun l hl => exportedName?_eq_none ?_]
  intro he
  exact absurd (he ▸ hmore l hl) (by decide)

/-- The header and the accessors export no types. -/
theorem exportedName?_of_mem_headerLines {runtimeModule l : String} {c : Catalog}
    (h : l ∈ headerLines runtimeModule c) : exportedName? l = none := by
  refine exportedName?_eq_none ?_
  unfold headerLines at h
  simp only [List.mem_cons, List.mem_append, List.not_mem_nil, or_false] at h
  rcases h with rfl | h | rfl
  · decide
  · split at h
    · cases h
    · rw [List.mem_singleton.mp h]
      simp
  · decide

theorem exportedName?_line (e : Entry) : exportedName? e.line = none := by
  refine exportedName?_eq_none ?_
  unfold Entry.line
  simp

theorem exportedName?_of_mem_accessorLines {l : String} {c : Catalog} (h : l ∈ accessorLines c) :
    exportedName? l = none := by
  rcases mem_accessorLines.mp h with h | ⟨e, -, rfl⟩
  · have hframe : ∀ l ∈ accessorFrame, exportedName? l = none := by decide
    exact hframe l h
  · exact exportedName?_line e

/-! ### The names exported -/

variable {c : Catalog}

/-- The names that are read from the text are those that the module exports. -/
theorem exportedNames_render (hn : ∀ n ∈ typeNames c, IsLegible n) (runtimeModule : String) :
    exportedNames (render runtimeModule c) = exports c := by
  have hspace : ∀ e ∈ declarations c, ' ' ∉ e.name.toList := by
    intro e he
    rw [declarations_eq_flatMap] at he
    obtain ⟨d, hd, he⟩ := List.mem_flatMap.mp he
    have hd : ' ' ∉ d.typeName.toList :=
      (hn _ (List.mem_flatMap.mpr ⟨d, hd, List.mem_cons_self⟩)).2
    cases d with
    | managed r =>
      rcases List.mem_cons.mp he with rfl | he
      · exact hd
      · rw [List.mem_singleton.mp he]
        show ' ' ∉ (r.typeName ++ "Defaults").toList
        rw [String.toList_append, List.mem_append]
        exact not_or.mpr ⟨hd, by decide⟩
    | system r =>
      rw [List.mem_singleton.mp he]
      exact hd
    | subType family t =>
      rw [List.mem_singleton.mp he]
      exact hd
  have hheader : (headerLines runtimeModule c).filterMap exportedName? = [] :=
    List.filterMap_eq_nil_iff.mpr fun _ => exportedName?_of_mem_headerLines
  have haccessors : (accessorLines c).filterMap exportedName? = [] :=
    List.filterMap_eq_nil_iff.mpr fun _ => exportedName?_of_mem_accessorLines
  have hmodels : (modelLines c).filterMap exportedName? = exports c := by
    rw [modelLines, List.filterMap_flatMap, exports, List.map_eq_flatMap]
    exact List.flatMap_congr fun e he => Declaration.filterMap_lines (hspace e he)
  rw [exportedNames, linesOf_render fun n h => (hn n h).1]
  simp only [List.filterMap_map, Function.comp_def, String.ofList_toList, lines,
    List.filterMap_append, hheader, hmodels, haccessors, List.nil_append, List.append_nil]

/-- The names of the catalog are exported, and besides them the names of what reads
of managed objects return by default. -/
theorem exports_perm (c : Catalog) : (exports c).Perm
    (c.declared.map (·.typeName) ++ c.managed.map fun r => defaultsName r.typeName) := by
  have hpairs : (c.managed.flatMap fun r => [r.typeName, defaultsName r.typeName]).Perm
      (c.managed.map (·.typeName) ++ c.managed.map fun r => defaultsName r.typeName) := by
    simpa only [List.map_eq_flatMap, List.singleton_append] using
      (List.flatMap_append_perm c.managed (fun r => [r.typeName])
        fun r => [defaultsName r.typeName]).symm
  have hexports : exports c = (c.managed.flatMap fun r => [r.typeName, defaultsName r.typeName]) ++
      (c.managedSubTypes.map (·.typeName) ++
        (c.system.map (·.typeName) ++ c.systemSubTypes.map (·.typeName))) := by
    simp only [exports, declarations, List.map_append, List.map_flatMap, List.map_map]
    rfl
  refine List.perm_iff_count.mpr fun n => ?_
  have hcount := hpairs.count_eq n
  simp only [hexports, Catalog.declared, Catalog.declaredOf, Catalog.resourcesOf,
    Catalog.subTypesOf, List.map_append, List.map_map, List.count_append, Function.comp_def,
    Declared.typeName] at hcount ⊢
  omega

/-! ### When a name is exported twice -/

theorem defaultsName_injective {n n' : String} (h : defaultsName n = defaultsName n') : n = n' := by
  have h := congrArg String.toList h
  rw [defaultsName, defaultsName, String.toList_append, String.toList_append] at h
  exact String.toList_inj.mp (List.append_cancel_right h)

/-- The letter that the name of a declaration begins with. -/
def initial : Declared → Char
  | .managed _ => 'M'
  | .system _ => 'S'
  | .subType _ _ => 'S'

theorem head?_typeName {d : Declared} (h : d.IsNamed) :
    d.typeName.toList.head? = some (initial d) := by
  cases d with
  | managed r =>
    obtain ⟨o, -, hn⟩ := Name.managedTypeName_eq_some.mp h
    simp [Declared.typeName, initial, ← hn]
  | system r =>
    obtain ⟨k, t, -, -, hn⟩ := Name.systemTypeName_eq_some.mp h
    simp [Declared.typeName, initial, ← hn]
  | subType family t =>
    obtain ⟨p, -, hn⟩ := Name.subTypeName_eq_some.mp h
    by_cases hp : "Sub".toList <+: t.parentTypeName.toList
    · obtain ⟨cs, hcs⟩ := hp
      rw [if_pos ⟨cs, hcs⟩] at hn
      simp [Declared.typeName, initial, ← hn, ← hcs]
    · rw [if_neg hp] at hn
      simp [Declared.typeName, initial, ← hn]

/-- Only a managed object can be called like what reads of another return by
default. -/
theorem managed_of_typeName_eq {s : Settings} {objects : List ManagedObject}
    {connectors : List Connector} (h : build s objects connectors = .ok c) {d : Declared}
    (hd : d ∈ c.declared) {r : ManagedResource} (hr : r ∈ c.managed)
    (he : d.typeName = defaultsName r.typeName) : ∃ r' ∈ c.managed, d = .managed r' := by
  have hM : d.typeName.toList.head? = some 'M' := by
    have hr := head?_typeName (Catalog.isNamed_of_build h (Catalog.managed_mem_declared.mpr hr))
    rw [he, defaultsName, String.toList_append, List.head?_append]
    exact Option.or_eq_some_iff.mpr (.inl hr)
  have hhead := head?_typeName (Catalog.isNamed_of_build h hd)
  rw [hM, Option.some.injEq] at hhead
  cases d with
  | managed r' => exact ⟨r', Catalog.managed_mem_declared.mp hd, rfl⟩
  | system r' => exact absurd hhead (show 'M' ≠ 'S' by decide)
  | subType family t => exact absurd hhead (show 'M' ≠ 'S' by decide)

/-- **A type is exported twice in one case only**, when a managed object is called
like what reads of another return by default: no other two of the resources, of the
sub types and of what reads return by default have the same name. If names can be
read in one piece, these names are the ones that the text of the module exports. -/
theorem nodup_exports_iff {s : Settings} {objects : List ManagedObject}
    {connectors : List Connector} (h : build s objects connectors = .ok c) :
    ((exports c).Nodup ↔
        ∀ r ∈ c.managed, ∀ r' ∈ c.managed, r'.typeName ≠ defaultsName r.typeName) ∧
      ((∀ n ∈ typeNames c, IsLegible n) → ∀ runtimeModule,
        exportedNames (render runtimeModule c) = exports c) := by
  refine ⟨?_, exportedNames_render⟩
  have hnames := Catalog.nodup_of_build h
  have hmanaged : (c.managed.map fun r => defaultsName r.typeName).Nodup := by
    have := List.Nodup.map (fun _ _ => defaultsName_injective) (Catalog.nodup_kinds hnames).1
    rwa [List.map_map] at this
  rw [(exports_perm c).nodup_iff, List.nodup_append]
  constructor
  · rintro ⟨-, -, hne⟩ r hr r' hr'
    exact hne _ (List.mem_map_of_mem (Catalog.managed_mem_declared.mpr hr')) _
      (List.mem_map.mpr ⟨r, hr, rfl⟩)
  · intro hne
    refine ⟨hnames, hmanaged, fun n hn n' hn' he => ?_⟩
    obtain ⟨d, hd, rfl⟩ := List.mem_map.mp hn
    obtain ⟨r, hr, rfl⟩ := List.mem_map.mp hn'
    obtain ⟨r', hr', rfl⟩ := managed_of_typeName_eq h hd hr he
    exact hne r hr r' hr' he

/-- Two managed objects, one of them with a sub type. -/
def userAndRole : List ManagedObject :=
  [⟨"user", { properties := [("name", { type := some (.single "object"), properties := [
    ("first", { type := some (.single "string") })] })] }⟩, ⟨"role", {}⟩]

theorem nodup_exports_userAndRole : ∃ c,
    build {} userAndRole [⟨"ldap", [("account", {})]⟩] = .ok c ∧
    c.managed.map (·.typeName) = ["ManagedRole", "ManagedUser"] ∧ (exports c).Nodup ∧
      exportedNames (render "idm-ts" c) = exports c := by
  have h : (build {} userAndRole [⟨"ldap", [("account", {})]⟩]).toOption.map (fun c =>
      (c.managed.map (·.typeName), decide (∀ r ∈ c.managed, ∀ r' ∈ c.managed,
        r'.typeName ≠ defaultsName r.typeName), decide (∀ n ∈ typeNames c, IsLegible n))) =
      some (["ManagedRole", "ManagedUser"], true, true) := by
    decide +kernel
  obtain ⟨c, hc, he⟩ := toOption_map_eq_some.mp h
  simp only [Prod.mk.injEq, decide_eq_true_eq] at he
  obtain ⟨hmanaged, hdefaults, hlegible⟩ := he
  obtain ⟨hnodup, htext⟩ := nodup_exports_iff hc
  exact ⟨c, hc, hmanaged, hnodup.mpr hdefaults, htext hlegible _⟩

/-- An object `userDefaults` besides `user` makes a module that exports one type twice. -/
theorem exports_userDefaults_twice : ∃ c,
    build {} [⟨"user", {}⟩, ⟨"userDefaults", {}⟩] [] = .ok c ∧
      ¬ (exportedNames (render "idm-ts" c)).Nodup := by
  have h : (build {} [⟨"user", {}⟩, ⟨"userDefaults", {}⟩] []).toOption.map (fun c =>
      (exports c, decide (∀ n ∈ typeNames c, IsLegible n))) =
      some (["ManagedUser", "ManagedUserDefaults", "ManagedUserDefaults",
        "ManagedUserDefaultsDefaults"], true) := by
    decide +kernel
  obtain ⟨c, hc, he⟩ := toOption_map_eq_some.mp h
  simp only [Prod.mk.injEq, decide_eq_true_eq] at he
  obtain ⟨hexports, hlegible⟩ := he
  refine ⟨c, hc, ?_⟩
  rw [exportedNames_render hlegible, hexports]
  decide

end IdentityTypes.TypeScript
