/-
# Reading types back

A type is written without brackets around its parts: arrays are marked behind the type of
their items, null is added behind all of it, and references list their targets. Still the
text can be read in one way only, from left to right: first what stands inside of all
arrays, then the arrays, then null. What stands inside is told by how it begins, since the
names of sub types begin with `Sub` and no other expression does.

An array of which nothing is known, like `any[]`, is not read as an array around `any`: no
expression has that text.

Key definitions: `TypeExpr.IsNamed`, `Descriptor.IsBuilt`, `readCore`, `readArrays`,
`readType`.
Key theorems: `readCore_text`, `readExpr_text`, `readType_text`, `text_losesNothing`.
-/
import IdentityTypes.Proofs.Catalog.Families
import IdentityTypes.Proofs.Catalog.Links
import IdentityTypes.Proofs.TypeScript.Reader

namespace IdentityTypes

open TypeScript

/-! ### Types that can be told apart -/

/-- All names of types in an expression are identifiers, and the name of a sub type begins
with `Sub`. -/
structure TypeExpr.IsNamed (e : TypeExpr) : Prop where
  identifiers : ∀ n ∈ e.names, isIdentifier n = true
  subType : ∀ n, e.subTypeName? = some n → Marked "Sub" n

/-- The types that are made of such expressions. -/
inductive Descriptor.IsBuilt : Descriptor → Prop
  | single {e : TypeExpr} : e.IsNamed → IsBuilt (.single e)
  | withNullable {d : Descriptor} (nullable : Bool) : IsBuilt d → IsBuilt (d.withNullable nullable)
  | arrayOf {d : Descriptor} : IsBuilt d → IsBuilt d.arrayOf

/-- An array has the names of its items. -/
theorem TypeExpr.isNamed_array {item : TypeExpr} : (array item).IsNamed ↔ item.IsNamed :=
  ⟨fun h => ⟨h.identifiers, h.subType⟩, fun h => ⟨h.identifiers, h.subType⟩⟩

/-- A type that is made has one expression. -/
theorem Descriptor.IsBuilt.exists_isNamed {d : Descriptor} (h : d.IsBuilt) :
    ∃ e nullable, d = ⟨e, [], nullable⟩ ∧ e.IsNamed := by
  induction h with
  | single he => exact ⟨_, _, rfl, he⟩
  | withNullable nullable _ ih =>
    obtain ⟨e, _, rfl, he⟩ := ih
    exact ⟨e, nullable, rfl, he⟩
  | arrayOf _ ih =>
    obtain ⟨e, _, rfl, he⟩ := ih
    exact ⟨_, _, rfl, TypeExpr.isNamed_array.mpr he⟩

namespace TypeScript

/-! ### The reader -/

/-- The expressions in which no names of types can stand. -/
def namelessTypes : List TypeExpr :=
  [.primitive .boolean, .primitive .number, .primitive .string, .openMap .unknown, .openMap .any,
    .openArray .unknown, .openArray .any]

/-- An expression without names, and what follows it. -/
def readNameless (cs : List Char) : Option (TypeExpr × List Char) :=
  namelessTypes.findSome? fun e => (skip e.text cs).map fun cs => (e, cs)

/-- A reference with the names of its targets, and what follows it. -/
def readReference (cs : List Char) : Option (TypeExpr × List Char) := do
  let cs ← skip "ReferenceType<" cs
  let (names, cs) ← readNames " | " cs
  let targets ← Targets.ofList? names
  let cs ← skip ">" cs
  some (.reference targets, cs)

/-- The name of a sub type, and what follows it. -/
def readSubType (cs : List Char) : Option (TypeExpr × List Char) :=
  some (.subType (readName cs).1, (readName cs).2)

/-- What stands inside of all arrays, and what follows it. -/
def readCore (cs : List Char) : Option (TypeExpr × List Char) :=
  (readNameless cs).or ((readReference cs).or (readSubType cs))

/-- The marks of arrays put around an expression, and what follows them. -/
def readArrays (e : TypeExpr) : List Char → TypeExpr × List Char
  | '[' :: ']' :: cs => readArrays (.array e) cs
  | cs => (e, cs)

/-- An expression, and what follows it. -/
def readExpr (cs : List Char) : Option (TypeExpr × List Char) :=
  (readCore cs).map fun (core, cs) => readArrays core cs

/-- The type of one expression that a text is that of. -/
def readType (text : String) : Option Descriptor := do
  let (e, cs) ← readExpr text.toList
  if cs = [] then some ⟨e, [], false⟩
  else if cs = " | null".toList then some ⟨e, [], true⟩
  else none

/-! ### Expressions are read -/

/-- No expression without names begins with the text of another. -/
theorem eq_of_begins : ∀ e ∈ namelessTypes, ∀ e' ∈ namelessTypes,
    e.text.toList <+: e'.text.toList → e = e' := by
  decide +kernel

theorem readNameless_text {e : TypeExpr} (he : e ∈ namelessTypes) (cs : List Char) :
    readNameless (e.text.toList ++ cs) = some (e, cs) := by
  obtain ⟨before, after, hlist, hnot⟩ := List.eq_append_cons_of_mem he
  refine List.findSome?_eq_some_iff.mpr ⟨before, e, after, hlist, ?_, fun e' he' => ?_⟩
  · rw [skip_append, Option.map_some]
  · have hmem : e' ∈ namelessTypes := hlist ▸ List.mem_append_left _ he'
    rw [Option.map_eq_none_iff, Option.eq_none_iff_forall_ne_some]
    intro rest hskip
    have hsame : e.text.toList ++ cs = e'.text.toList ++ rest := skip_eq_some.mp hskip
    have hprefix := List.prefix_or_prefix_of_prefix (List.prefix_append e.text.toList cs)
      (hsame ▸ List.prefix_append e'.text.toList rest)
    rcases hprefix with h | h
    · exact hnot (eq_of_begins e he e' hmem h ▸ he')
    · exact hnot (eq_of_begins e' hmem e he h ▸ he')

theorem readReference_text {ts : Targets} (h : ∀ n ∈ ts.toList, isIdentifier n = true)
    (cs : List Char) :
    readReference ((TypeExpr.reference ts).text.toList ++ cs) = some (.reference ts, cs) := by
  have htext : (TypeExpr.reference ts).text.toList ++ cs = "ReferenceType<".toList ++
      ((" | ".intercalate ts.toList).toList ++ (">".toList ++ cs)) := by
    rw [TypeExpr.text_reference]
    simp only [String.toList_append, List.append_assoc]
  have hnames : readNames " | "
      ((" | ".intercalate ts.toList).toList ++ (">".toList ++ cs)) =
        some (ts.toList, ">".toList ++ cs) :=
    readNames_intercalate (by decide) (by decide) (stops_append ">" (by decide) (by decide)) rfl h
      (List.cons_ne_nil _ _)
  have htargets : Targets.ofList? ts.toList = some ts := rfl
  rw [htext, readReference, skip_append]
  simp only [Option.bind_eq_bind, Option.bind_some, hnames, htargets, skip_append]

/-- Nothing else begins as the name of a sub type does. -/
theorem readCore_subType {n : String} (h : isIdentifier n = true) (hmark : Marked "Sub" n)
    {cs : List Char} (hcs : Stops cs) :
    readCore (n.toList ++ cs) = some (.subType n, cs) := by
  obtain ⟨rest, hrest⟩ := hmark
  have hnone : ∀ cs, readNameless ("Sub".toList ++ cs) = none ∧
      readReference ("Sub".toList ++ cs) = none := fun cs => ⟨rfl, rfl⟩
  rw [readCore, readSubType, readName_append h hcs, ← hrest, List.append_assoc, (hnone _).1,
    (hnone _).2, Option.none_or, Option.none_or]

/-- An expression that is no array around another is read at once. -/
theorem readCore_text {e : TypeExpr} (h : e.IsNamed) (hcore : ∀ item, e ≠ .array item)
    {cs : List Char} (hcs : Stops cs) : readCore (e.text.toList ++ cs) = some (e, cs) := by
  have hnameless : e ∈ namelessTypes → readCore (e.text.toList ++ cs) = some (e, cs) := by
    intro he
    rw [readCore, readNameless_text he, Option.some_or]
  cases e with
  | primitive p => exact hnameless (by cases p <;> decide)
  | array item => exact absurd rfl (hcore item)
  | openMap kind => exact hnameless (by cases kind <;> decide)
  | openArray kind => exact hnameless (by cases kind <;> decide)
  | reference ts =>
    have hnone : readNameless ((TypeExpr.reference ts).text.toList ++ cs) = none := by
      rw [TypeExpr.text_reference, String.toList_append, String.toList_append, List.append_assoc,
        List.append_assoc]
      rfl
    rw [readCore, hnone, readReference_text h.identifiers, Option.none_or, Option.some_or]
  | subType n =>
    exact readCore_subType (h.identifiers n (List.mem_singleton.mpr rfl)) (h.subType n rfl) hcs

/-- Arrays are read from the inside, so that what follows an expression is read as put around
it. -/
theorem readExpr_text {e : TypeExpr} (h : e.IsNamed) {cs : List Char} (hcs : Stops cs) :
    readExpr (e.text.toList ++ cs) = some (readArrays e cs) := by
  induction e generalizing cs with
  | array item ih =>
    have hitem : readExpr (item.text.toList ++ '[' :: ']' :: cs) =
        some (readArrays item ('[' :: ']' :: cs)) := ih (TypeExpr.isNamed_array.mp h) rfl
    rw [TypeExpr.text_array, String.toList_append, List.append_assoc]
    exact hitem
  | _ => rw [readExpr, readCore_text h nofun hcs, Option.map_some]

/-- The type is read from its text. -/
theorem readType_text {d : Descriptor} (h : d.IsBuilt) : readType d.text = some d := by
  obtain ⟨e, nullable, rfl, he⟩ := h.exists_isNamed
  rw [readType, Descriptor.text_single, String.toList_append]
  cases nullable with
  | false =>
    have hread : readExpr (e.text.toList ++ []) = some (readArrays e []) := readExpr_text he rfl
    simp only [Bool.false_eq_true, if_false, String.toList_empty, hread]
    rfl
  | true =>
    have hread : readExpr (e.text.toList ++ " | null".toList) =
        some (readArrays e " | null".toList) := readExpr_text he rfl
    simp only [if_true, hread]
    rfl

/-- **The text of a type loses nothing.** A type whose names can be told apart is read from
its text, and no other such type has this text: neither another number of arrays, nor
another base, nor other targets or another order of them, nor null where it is not admitted. -/
theorem text_losesNothing {d : Descriptor} (h : d.IsBuilt) :
    readType d.text = some d ∧ ∀ d' : Descriptor, d'.IsBuilt → d'.text = d.text → d' = d := by
  have hread := readType_text h
  refine ⟨hread, fun d' h' htext => ?_⟩
  have hread' := readType_text h'
  rw [htext, hread] at hread'
  exact (Option.some.inj hread').symm

/-- References to users and roles, in arrays of arrays that may be missing. -/
def linkLists : Descriptor :=
  (Descriptor.single (.reference ⟨"ManagedUser", ["ManagedRole"]⟩)).arrayOf.arrayOf.withNullable true

theorem text_losesNothing_linkLists :
    linkLists.IsBuilt ∧ linkLists.text = "ReferenceType<ManagedUser | ManagedRole>[][] | null" ∧
      readType linkLists.text = some linkLists ∧
        ∀ d' : Descriptor, d'.IsBuilt → d'.text = linkLists.text → d' = linkLists := by
  have hnamed : (TypeExpr.reference ⟨"ManagedUser", ["ManagedRole"]⟩).IsNamed :=
    ⟨by decide, nofun⟩
  have hbuilt : linkLists.IsBuilt := .withNullable true (.arrayOf (.arrayOf (.single hnamed)))
  exact ⟨hbuilt, by decide, text_losesNothing hbuilt⟩

/-- Names that do not begin with `Sub` would be taken for other types. -/
example : (Descriptor.single (.subType "any")).arrayOf.text
    = (Descriptor.single (.openArray .any)).text := by decide

end TypeScript

end IdentityTypes
