/-
# Reading the lines of the module

The module is a list of lines before it is a text, and reading the lines of the text
gives that list back. For this no line may hold a line feed, or end with a carriage
return that the line feed after it would take along. Texts from the configuration
are no danger: names of properties and paths are quoted, and titles and descriptions
are themselves read as lines. Only the names of types are written as they are.

Key definitions: `Text.NoBreak`, `Text.IsLine`, `typeNames`.
Key theorems: `Text.linesOf_unlines`, `isLine_of_mem_lines`, `linesOf_render`.
-/
import IdentityTypes.Proofs.Catalog.Names
import IdentityTypes.Proofs.Json.Writing
import Mathlib.Data.String.Basic

namespace IdentityTypes

namespace Text

/-! ### Lines joined and read again -/

/-- No line feed is in the text. -/
def NoBreak (s : String) : Prop := '\n' ∉ s.toList

instance (s : String) : Decidable (NoBreak s) := inferInstanceAs (Decidable ('\n' ∉ s.toList))

/-- A line of its own: no line feed is in it, and no carriage return at its end. -/
def IsLine (s : String) : Prop := NoBreak s ∧ s.toList.getLast? ≠ some '\r'

instance (s : String) : Decidable (IsLine s) := inferInstanceAs (Decidable (_ ∧ _))

/-- The line up to a line feed is closed there. -/
theorem linesFrom_append : ∀ (cs : List Char) {current rest : List Char}, '\n' ∉ cs →
    linesFrom current (cs ++ '\n' :: rest) = closeLine (cs.reverse ++ current) :: linesFrom [] rest
  | [], _, _, _ => rfl
  | c :: cs, current, rest, h => by
    have hc : c ≠ '\n' := fun hc => h (hc ▸ List.mem_cons_self)
    rw [List.cons_append, linesFrom.eq_3 _ _ _ hc,
      linesFrom_append cs (List.not_mem_of_not_mem_cons h), List.reverse_cons, List.append_assoc]
    rfl

theorem closeLine_reverse {cs : List Char} (h : cs.getLast? ≠ some '\r') :
    closeLine cs.reverse = cs := by
  unfold closeLine
  split
  · rename_i r hr
    rw [← List.head?_reverse, hr] at h
    exact absurd rfl h
  · exact List.reverse_reverse cs

/-- Lines that are put into a text are read from it. -/
theorem linesOf_unlines {lines : List String} (h : ∀ l ∈ lines, IsLine l) :
    linesOf (unlines lines) = lines.map String.toList := by
  unfold linesOf
  induction lines with
  | nil => rfl
  | cons l lines ih =>
    obtain ⟨hl, hlines⟩ := List.forall_mem_cons.mp h
    have htext : (unlines (l :: lines)).toList = l.toList ++ '\n' :: (unlines lines).toList := by
      simp [unlines]
    rw [htext, linesFrom_append _ hl.1, List.append_nil, closeLine_reverse hl.2, ih hlines]
    rfl

/-- No line that is read holds a line feed. -/
theorem noBreak_of_mem_linesFrom : ∀ {cs current : List Char}, '\n' ∉ current →
    ∀ l ∈ linesFrom current cs, '\n' ∉ l
  | [], current, h, l, hl => by
    unfold linesFrom at hl
    split at hl
    · cases hl
    · rw [List.mem_singleton.mp hl]
      simpa using h
  | c :: cs, current, h, l, hl => by
    by_cases hc : c = '\n'
    · subst hc
      rcases List.mem_cons.mp hl with rfl | hl
      · unfold closeLine
        split
        · simpa using List.not_mem_of_not_mem_cons h
        · simpa using h
      · exact noBreak_of_mem_linesFrom List.not_mem_nil l hl
    · rw [linesFrom.eq_3 _ _ _ hc] at hl
      exact noBreak_of_mem_linesFrom (List.not_mem_cons_of_ne_of_not_mem (Ne.symm hc) h) l hl

/-! ### Texts without a line feed -/

@[simp] theorem noBreak_append {s t : String} : NoBreak (s ++ t) ↔ NoBreak s ∧ NoBreak t := by
  simp [NoBreak]

theorem noBreak_intercalate {sep : String} (hsep : NoBreak sep) : ∀ {l : List String},
    (∀ s ∈ l, NoBreak s) → NoBreak (sep.intercalate l)
  | [], _ => by simp [NoBreak]
  | [s], h => by simpa using h
  | s :: t :: l, h => by
    obtain ⟨hs, hl⟩ := List.forall_mem_cons.mp h
    rw [String.intercalate_cons_cons, noBreak_append, noBreak_append]
    exact ⟨⟨hs, hsep⟩, noBreak_intercalate hsep hl⟩

/-- What ends with a line of its own is one, if nothing before breaks it. -/
theorem IsLine.append {s t : String} (hs : NoBreak s) (ht : IsLine t) (hne : t ≠ "") :
    IsLine (s ++ t) := by
  refine ⟨noBreak_append.mpr ⟨hs, ht.1⟩, ?_⟩
  rw [String.toList_append, List.getLast?_append_of_ne_nil]
  · exact ht.2
  · simpa using hne

end Text

open Text

namespace Json

theorem noBreak_quote (s : String) : NoBreak (quote s) := fun h =>
  absurd (le_toNat_of_mem_quote _ h) (by decide)

end Json

namespace TypeScript

theorem isIdentifierPart_of_start {c : Char} (h : isIdentifierStart c = true) :
    isIdentifierPart c = true := by
  simp only [isIdentifierStart, isIdentifierPart, Char.isAlphanum, Bool.or_eq_true] at h ⊢
  tauto

theorem isIdentifier_iff {name : String} : isIdentifier name = true ↔
    ∃ c cs, name.toList = c :: cs ∧ isIdentifierStart c = true ∧
      ∀ d ∈ cs, isIdentifierPart d = true := by
  unfold isIdentifier
  cases name.toList with
  | nil => simp
  | cons c cs => simp

theorem all_isIdentifierPart {name : String} (h : isIdentifier name = true) :
    ∀ c ∈ name.toList, isIdentifierPart c = true := by
  obtain ⟨c, cs, hname, hc, hcs⟩ := isIdentifier_iff.mp h
  rw [hname]
  exact List.forall_mem_cons.mpr ⟨isIdentifierPart_of_start hc, hcs⟩

/-- No identifier has a line feed. -/
theorem noBreak_of_isIdentifier {n : String} (h : isIdentifier n = true) : NoBreak n := fun hmem =>
  absurd (all_isIdentifierPart h _ hmem) (by decide)

theorem noBreak_propertyKey (s : String) : NoBreak (propertyKey s) := by
  unfold propertyKey
  split
  · exact noBreak_of_isIdentifier ‹_›
  · exact Json.noBreak_quote s

end TypeScript

/-! ### The names of types that are written -/

/-- The names of types in an expression. -/
def TypeExpr.names : TypeExpr → List String
  | .reference targets => targets.toList
  | .array item => item.names
  | .subType name => [name]
  | _ => []

theorem TypeExpr.noBreak_text : ∀ {e : TypeExpr}, (∀ n ∈ e.names, NoBreak n) → NoBreak e.text
  | .primitive p, _ => by cases p <;> decide
  | .array item, h => noBreak_append.mpr ⟨noBreak_text (e := item) h, by decide⟩
  | .openMap kind, _ => by cases kind <;> decide
  | .openArray kind, _ => by cases kind <;> decide
  | .reference targets, h => by
    refine noBreak_append.mpr ⟨noBreak_append.mpr ⟨by decide, ?_⟩, by decide⟩
    exact noBreak_intercalate (by decide) h
  | .subType name, h => h name (List.mem_singleton.mpr rfl)

/-- The names of types in a type. -/
def Descriptor.names (d : Descriptor) : List String := d.types.flatMap TypeExpr.names

theorem Descriptor.noBreak_text {d : Descriptor} (h : ∀ n ∈ d.names, NoBreak n) :
    NoBreak d.text := by
  have hexprs : ∀ text ∈ d.types.map TypeExpr.text, NoBreak text :=
    List.forall_mem_map.mpr fun e he => TypeExpr.noBreak_text (List.forall_mem_flatMap.mp h e he)
  refine noBreak_append.mpr ⟨noBreak_intercalate (by decide) hexprs, ?_⟩
  cases d.nullable <;> decide

namespace TypeScript

/-- The names of types in the module: those declared, and those in the types of
properties. -/
def typeNames (c : Catalog) : List String :=
  c.declared.flatMap fun d => d.typeName :: d.properties.flatMap fun p => p.type.names

/-! ### The lines of comments -/

/-- A comment is guarded without a change to its last character. -/
theorem getLast?_guardComment (cs : List Char) : (guardComment cs).getLast? = cs.getLast? := by
  fun_induction guardComment cs with
  | case1 r ih => simp [List.getLast?_cons, ih]
  | case2 c r _ ih => simp [List.getLast?_cons, ih]
  | case3 => rfl

theorem lineFeed_notMem_guardComment {cs : List Char} (h : '\n' ∉ cs) : '\n' ∉ guardComment cs := by
  fun_induction guardComment cs with
  | case1 r ih => simpa using ih (fun hr => h (by simp [hr]))
  | case2 c r _ ih =>
    exact List.not_mem_cons_of_ne_of_not_mem (List.ne_of_not_mem_cons h)
      (ih (List.not_mem_of_not_mem_cons h))
  | case3 => exact h

/-- No blank is left at the end. -/
theorem getLast?_trimEnd {cs : List Char} {c : Char} (h : (trimEnd cs).getLast? = some c) :
    isBlank c = false := by
  have hdrop := List.head?_dropWhile_not isBlank cs.reverse
  rw [trimEnd, List.getLast?_reverse] at h
  rwa [h] at hdrop

theorem lineFeed_notMem_trimEnd {cs : List Char} (h : '\n' ∉ cs) : '\n' ∉ trimEnd cs := by
  intro hmem
  have hdrop := (List.dropWhile_sublist isBlank).mem (List.mem_reverse.mp hmem)
  exact h (List.mem_reverse.mp hdrop)

theorem isLine_commentLine {line : List Char} (h : '\n' ∉ line) : IsLine (commentLine line) := by
  unfold commentLine
  split
  · decide
  · rename_i hne
    refine IsLine.append (by decide) ⟨?_, ?_⟩ (by simpa using hne)
    · simpa [NoBreak] using lineFeed_notMem_guardComment (lineFeed_notMem_trimEnd h)
    · rw [String.toList_ofList, getLast?_guardComment]
      intro hlast
      exact absurd (getLast?_trimEnd hlast) (by decide)

theorem lineFeed_notMem_of_mem_commentLines {p : Property} {line : List Char}
    (h : line ∈ commentLines p) : '\n' ∉ line := by
  have hread : ∀ s : String, ∀ l ∈ linesOf s, '\n' ∉ l :=
    fun s => noBreak_of_mem_linesFrom List.not_mem_nil
  unfold commentLines at h
  simp only at h
  split_ifs at h
  · exact hread _ _ h
  · exact hread _ _ h
  · rcases List.mem_append.mp h with h | h
    · exact hread _ _ h
    · rcases List.mem_cons.mp h with rfl | h
      · exact List.not_mem_nil
      · exact hread _ _ h

theorem isLine_of_mem_docLines {p : Property} {l : String} (h : l ∈ docLines p) : IsLine l := by
  unfold docLines at h
  split at h
  · cases h
  · simp only [List.cons_append, List.mem_cons, List.mem_append, List.mem_map, List.not_mem_nil,
      or_false] at h
    rcases h with rfl | ⟨line, hline, rfl⟩ | rfl
    · decide
    · exact isLine_commentLine (lineFeed_notMem_of_mem_commentLines hline)
    · decide

/-! ### The other lines -/

theorem isLine_of_mem_propertyLines {p : Property} (hp : ∀ n ∈ p.type.names, NoBreak n)
    {l : String} (h : l ∈ propertyLines p) : IsLine l := by
  rcases List.mem_append.mp h with h | h
  · exact isLine_of_mem_docLines h
  · rw [List.mem_singleton.mp h]
    refine IsLine.append ?_ (by decide) (by decide)
    have hmark : NoBreak (if p.required then "" else "?") := by cases p.required <;> decide
    simp only [noBreak_append, and_assoc]
    exact ⟨by decide, noBreak_propertyKey _, hmark, by decide, Descriptor.noBreak_text hp⟩

/-- The names of types in a declaration. -/
def Declaration.names : Declaration → List String
  | .object name _ properties => name :: properties.flatMap fun p => p.type.names
  | .pick name source _ => [name, source]

theorem Declaration.isLine_of_mem_lines {d : Declaration} (hd : ∀ n ∈ d.names, NoBreak n)
    {l : String} (h : l ∈ d.lines) : IsLine l := by
  cases d with
  | object name tag properties =>
    obtain ⟨hname, hproperties⟩ := List.forall_mem_cons.mp hd
    simp only [lines, List.mem_cons, List.mem_append, List.mem_map, List.mem_flatMap,
      List.not_mem_nil, or_false] at h
    rcases h with rfl | ⟨path, -, rfl⟩ | ⟨p, hp, h⟩ | rfl | rfl
    · exact IsLine.append (noBreak_append.mpr ⟨by decide, hname⟩) (by decide) (by decide)
    · refine IsLine.append ?_ (by decide) (by decide)
      simp only [noBreak_append]
      exact ⟨by decide, Json.noBreak_quote path⟩
    · exact isLine_of_mem_propertyLines (List.forall_mem_flatMap.mp hproperties p hp) h
    · decide
    · decide
  | pick name source keys =>
    obtain ⟨hname, hsource⟩ := List.forall_mem_cons.mp hd
    simp only [lines, List.mem_cons, List.not_mem_nil, or_false] at h
    rcases h with rfl | rfl
    · refine IsLine.append ?_ (by decide) (by decide)
      have hkeys : NoBreak (" | ".intercalate (keys.map Json.quote)) :=
        noBreak_intercalate (by decide) (List.forall_mem_map.mpr fun k _ => Json.noBreak_quote k)
      simp only [noBreak_append, and_assoc]
      exact ⟨by decide, hname, by decide, List.forall_mem_singleton.mp hsource, by decide, hkeys⟩
    · decide

theorem Entry.isLine_line {e : Entry} (hm : NoBreak e.model) (hd : NoBreak e.defaults) :
    IsLine e.line := by
  refine IsLine.append ?_ (by decide) (by decide)
  simp only [noBreak_append, and_assoc]
  exact ⟨by decide, noBreak_propertyKey _, by decide, hm, by decide, hd, by decide,
    Json.noBreak_quote _⟩

theorem isLine_of_mem_headerLines {runtimeModule : String} {c : Catalog} {l : String}
    (h : l ∈ headerLines runtimeModule c) : IsLine l := by
  have himports : ∀ n ∈ imports c, NoBreak n := by
    unfold imports
    split_ifs <;> decide
  unfold headerLines at h
  simp only [List.mem_cons, List.mem_append, List.not_mem_nil, or_false] at h
  rcases h with rfl | h | rfl
  · decide
  · split at h
    · cases h
    · rw [List.mem_singleton.mp h]
      refine IsLine.append ?_ (by decide) (by decide)
      simp only [noBreak_append, and_assoc]
      exact ⟨by decide, noBreak_intercalate (by decide) himports, by decide, Json.noBreak_quote _⟩
  · decide

/-- The lines around the accessors. -/
def accessorFrame : List String :=
  ["export const idm = \x7b", "  managed: \x7b", "  \x7d,", "  system: \x7b", "\x7d;"]

/-- The object of the accessors has a line for each of them, and those around them. -/
theorem mem_accessorLines {c : Catalog} {l : String} : l ∈ accessorLines c ↔
    l ∈ accessorFrame ∨ ∃ e ∈ managedEntries c ++ systemEntries c, e.line = l := by
  simp only [accessorLines, accessorFrame, List.mem_append, List.mem_cons, List.mem_map,
    List.not_mem_nil, or_false, or_and_right, exists_or]
  grind

theorem isLine_of_mem_accessorFrame : ∀ l ∈ accessorFrame, IsLine l := by decide

/-! ### The module -/

/-- What is written for a declaration of the catalog. -/
def written : Declared → List Declaration
  | .managed r => managedDeclarations r
  | .system r => [systemDeclaration r]
  | .subType _ s => [subTypeDeclaration s]

theorem declarations_eq_flatMap (c : Catalog) : declarations c = c.declared.flatMap written := by
  simp only [declarations, Catalog.declared, Catalog.declaredOf, Catalog.resourcesOf,
    Catalog.subTypesOf, List.flatMap_append, List.flatMap_map, List.append_assoc, written]
  simp only [List.map_eq_flatMap]

theorem noBreak_of_mem_written {d : Declared}
    (hd : ∀ n ∈ d.typeName :: d.properties.flatMap fun p => p.type.names, NoBreak n)
    {e : Declaration} (he : e ∈ written d) : ∀ n ∈ e.names, NoBreak n := by
  have hname : NoBreak d.typeName := hd _ List.mem_cons_self
  cases d with
  | managed r =>
    rcases List.mem_cons.mp he with rfl | he
    · exact hd
    · have hdefaults : NoBreak (defaultsName r.typeName) :=
        noBreak_append.mpr ⟨hname, by decide⟩
      rw [List.mem_singleton.mp he]
      exact List.forall_mem_cons.mpr ⟨hdefaults, List.forall_mem_singleton.mpr hname⟩
  | system r =>
    rw [List.mem_singleton.mp he]
    exact hd
  | subType family t =>
    rw [List.mem_singleton.mp he]
    exact hd

variable {c : Catalog}

/-- Where no name of a type has a line feed, no line of the module is broken. -/
theorem isLine_of_mem_lines (hn : ∀ n ∈ typeNames c, NoBreak n) {runtimeModule l : String}
    (h : l ∈ lines runtimeModule c) : IsLine l := by
  have hdeclared := List.forall_mem_flatMap.mp hn
  have hnames : ∀ d ∈ c.declared, NoBreak d.typeName :=
    fun d hd => hdeclared d hd _ List.mem_cons_self
  simp only [lines, List.mem_append] at h
  rcases h with h | h | h
  · exact isLine_of_mem_headerLines h
  · rw [modelLines, declarations_eq_flatMap, List.flatMap_assoc] at h
    obtain ⟨d, hd, h⟩ := List.mem_flatMap.mp h
    obtain ⟨e, he, h⟩ := List.mem_flatMap.mp h
    exact Declaration.isLine_of_mem_lines (noBreak_of_mem_written (hdeclared d hd) he) h
  · rcases mem_accessorLines.mp h with h | ⟨e, he, rfl⟩
    · exact isLine_of_mem_accessorFrame l h
    · rcases List.mem_append.mp he with he | he
      · obtain ⟨r, hr, rfl⟩ := List.mem_map.mp he
        have hname : NoBreak r.typeName := hnames _ (Catalog.managed_mem_declared.mpr hr)
        exact Entry.isLine_line hname (noBreak_append.mpr ⟨hname, by decide⟩)
      · obtain ⟨r, hr, rfl⟩ := List.mem_map.mp he
        have hname : NoBreak r.typeName := hnames _ (Catalog.system_mem_declared.mpr hr)
        exact Entry.isLine_line hname hname

/-- The lines of the module are read from its text. -/
theorem linesOf_render (hn : ∀ n ∈ typeNames c, NoBreak n) (runtimeModule : String) :
    linesOf (render runtimeModule c) = (lines runtimeModule c).map String.toList :=
  linesOf_unlines fun _ => isLine_of_mem_lines hn

end TypeScript

end IdentityTypes
