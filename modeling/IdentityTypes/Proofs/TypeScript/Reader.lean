/-
# Reading one line of the module

What a line of the module says can be told from the line alone. Its indentation and its
first characters show of which kind it is: a line of a comment begins with three blanks or
with two and a slash, and these are not followed by a key. A key that is no identifier, a
path and a module are literals, in which nothing of the rest of a line is hidden.

Lines that declare nothing, like those of comments, are passed over.

Key definitions: `Item`, `readLine`, `items`, `IsReadable`.
Key theorems: `readKey_propertyKey`, `readLine_propertyLine`, `readLine_entry`,
`readLine_docLine`, `readLines_declaration`, `items_render`.
-/
import IdentityTypes.Proofs.Json.Literal
import IdentityTypes.Proofs.TypeScript.Lines

namespace IdentityTypes.TypeScript

open Text

/-! ### The reader -/

/-- A property in the text: its name, whether it may be missing, and the text of its
type. -/
structure Field where
  name : String
  optional : Bool
  type : String
  deriving DecidableEq, Repr

/-- The type of what reads return by default: its name, the type it is taken from, and
the keys. -/
structure Pick where
  name : String
  source : String
  keys : List String
  deriving DecidableEq, Repr

/-- What a line says. -/
inductive Item where
  | opening (name : String)
  | tag (path : String)
  | field (f : Field)
  | closing
  | pick (p : Pick)
  | group (family : Family)
  | entry (e : Entry)
  deriving DecidableEq, Repr

/-- What follows a word, if the text begins with it. -/
def skip (word : String) (cs : List Char) : Option (List Char) := cs.dropPrefix? word.toList

/-- The letters of an identifier at the beginning of a text, and what follows them. -/
def readName (cs : List Char) : String × List Char :=
  (String.ofList (cs.takeWhile isIdentifierPart), cs.dropWhile isIdentifierPart)

/-- A key, which is an identifier or a literal, and what follows it. -/
def readKey (cs : List Char) : Option (String × List Char) :=
  if cs.head? = some '"' then Json.readLiteral cs else some (readName cs)

/-- The mark of a property that may be missing, and what follows it. -/
def readMark : List Char → Bool × List Char
  | '?' :: cs => (true, cs)
  | cs => (false, cs)

/-- Literals with bars between them, at most as many as the first argument says, and what
follows them. -/
def readKeys : Nat → List Char → Option (List String × List Char)
  | 0, _ => none
  | n + 1, cs => do
    let (key, cs) ← Json.readLiteral cs
    match skip " | " cs with
    | some cs => do
      let (keys, cs) ← readKeys n cs
      some (key :: keys, cs)
    | none => some ([key], cs)

/-- A property, up to the semicolon at the end. -/
def readField (cs : List Char) : Option Item := do
  let (name, cs) ← readKey cs
  let (optional, cs) := readMark cs
  let cs ← skip ": " cs
  let type ← cs.dropSuffix? ";".toList
  some (.field ⟨name, optional, String.ofList type⟩)

/-- The member that holds the path of a resource. -/
def readTag (cs : List Char) : Option Item := do
  let cs ← skip "readonly _tag?: " cs
  let (path, cs) ← Json.readLiteral cs
  if cs = ";".toList then some (.tag path) else none

/-- The beginning of the accessors of a family. -/
def readGroup (cs : List Char) : Option Item :=
  if cs = "managed: \x7b".toList then some (.group .managed)
  else if cs = "system: \x7b".toList then some (.group .system)
  else none

/-- An accessor. -/
def readEntry (cs : List Char) : Option Item := do
  let (key, cs) ← readKey cs
  let cs ← skip ": idmObject<" cs
  let (model, cs) := readName cs
  let cs ← skip ", " cs
  let (defaults, cs) := readName cs
  let cs ← skip ">(" cs
  let (path, cs) ← Json.readLiteral cs
  if cs = "),".toList then some (.entry ⟨key, model, defaults, path⟩) else none

/-- The beginning of the declaration of an object type. -/
def readOpening (cs : List Char) : Option Item := do
  let cs ← skip "export type " cs
  let (name, cs) := readName cs
  if cs = " = \x7b".toList then some (.opening name) else none

/-- The declaration of what reads return by default. -/
def readPick (cs : List Char) : Option Item := do
  let cs ← skip "export type " cs
  let (name, cs) := readName cs
  let cs ← skip " = Pick<" cs
  let (source, cs) := readName cs
  let cs ← skip ", " cs
  let (keys, cs) ← readKeys cs.length cs
  if cs = ">;".toList then some (.pick ⟨name, source, keys⟩) else none

/-- The end of the declaration of an object type. -/
def readClosing (cs : List Char) : Option Item :=
  if cs = "\x7d;".toList then some .closing else none

/-- A line that is indented by two blanks, after them. -/
def readInner (cs : List Char) : Option Item :=
  (readField cs).or ((readTag cs).or (readGroup cs))

/-- A line that is not indented. -/
def readOuter (cs : List Char) : Option Item :=
  (readOpening cs).or ((readPick cs).or (readClosing cs))

/-- What a line says, if it says anything. -/
def readLine : List Char → Option Item
  | ' ' :: ' ' :: ' ' :: ' ' :: cs => readEntry cs
  | ' ' :: ' ' :: cs => readInner cs
  | cs => readOuter cs

/-- What the lines of a text say. -/
def items (text : String) : List Item := (linesOf text).filterMap readLine

/-! ### The parts of a line -/

/-- No identifier goes on with the text. -/
def Stops (cs : List Char) : Prop := cs.head?.any isIdentifierPart = false

instance (cs : List Char) : Decidable (Stops cs) := inferInstanceAs (Decidable (_ = false))

/-- An identifier ends where a word follows that does not go on with it. -/
theorem stops_append (word : String) {rest : List Char} (hne : word.toList ≠ [])
    (h : Stops word.toList) : Stops (word.toList ++ rest) := by
  rwa [Stops, List.head?_append_of_ne_nil _ hne]

theorem skip_append (word : String) (cs : List Char) : skip word (word.toList ++ cs) = some cs :=
  List.dropPrefix?_append_of_beq cs (beq_self_eq_true _)

theorem skip_eq_some {word : String} {cs rest : List Char} :
    skip word cs = some rest ↔ cs = word.toList ++ rest := by
  simp [skip, List.dropPrefix?_eq_some_iff]

theorem dropSuffix?_append (cs last : List Char) : (cs ++ last).dropSuffix? last = some cs :=
  List.dropSuffix?_eq_some_iff.mpr ⟨last, rfl, beq_self_eq_true _⟩

/-- An identifier is read up to where it ends. -/
theorem readName_append {name : String} {rest : List Char} (h : isIdentifier name = true)
    (hrest : Stops rest) : readName (name.toList ++ rest) = (name, rest) := by
  have hall := all_isIdentifierPart h
  have hstop : rest.takeWhile isIdentifierPart = [] ∧ rest.dropWhile isIdentifierPart = rest := by
    cases rest with
    | nil => exact ⟨rfl, rfl⟩
    | cons c cs =>
      have hc : isIdentifierPart c = false := hrest
      simp [hc]
  rw [readName, List.takeWhile_append_of_pos hall, List.dropWhile_append_of_pos hall,
    hstop.1, hstop.2, List.append_nil, String.ofList_toList]

/-- A key begins with a quote or with what an identifier begins with. -/
theorem propertyKey_eq_cons (name : String) : ∃ c cs, (propertyKey name).toList = c :: cs ∧
    if isIdentifier name = true then isIdentifierStart c = true else c = '"' := by
  unfold propertyKey
  split
  · rename_i h
    obtain ⟨c, cs, hname, hc, -⟩ := isIdentifier_iff.mp h
    exact ⟨c, cs, hname, hc⟩
  · exact ⟨'"', _, by rw [Json.toList_quote]; rfl, rfl⟩

/-- A key is read as the name that it was made of. -/
theorem readKey_propertyKey {rest : List Char} (name : String) (hrest : Stops rest) :
    readKey ((propertyKey name).toList ++ rest) = some (name, rest) := by
  obtain ⟨c, cs, hkey, hc⟩ := propertyKey_eq_cons name
  have hhead : ((propertyKey name).toList ++ rest).head? = some c := by
    rw [hkey]
    rfl
  rw [readKey, hhead]
  unfold propertyKey
  split at hc
  · rename_i h
    have hne : c ≠ '"' := fun hq => absurd (hq ▸ hc) (by decide)
    rw [if_neg (by simpa using hne), if_pos h, readName_append h hrest]
  · rename_i h
    rw [if_pos (congrArg some hc), if_neg h, Json.readLiteral_quote]

/-- A text begins with one key only, if it does not go on with the identifier that the key
may be. -/
theorem propertyKey_append_inj {name name' : String} {rest rest' : List Char}
    (hrest : Stops rest) (hrest' : Stops rest')
    (h : (propertyKey name).toList ++ rest = (propertyKey name').toList ++ rest') :
    name = name' ∧ rest = rest' := by
  have hread := readKey_propertyKey name hrest
  rw [h, readKey_propertyKey name' hrest', Option.some.injEq, Prod.mk.injEq] at hread
  exact ⟨hread.1.symm, hread.2.symm⟩

/-- Different names make different keys, with quotes or without. -/
theorem propertyKey_injective : Function.Injective propertyKey := by
  intro name name' h
  have hstops : Stops [] := rfl
  have hsame : (propertyKey name).toList ++ [] = (propertyKey name').toList ++ [] := by rw [h]
  exact (propertyKey_append_inj hstops hstops hsame).1

/-! ### Lists of words -/

/-- Things with a word between them, at most as many as the number says, and what follows
them. -/
def readSeparated {α : Type} (one : List Char → Option (α × List Char)) (between : String) :
    Nat → List Char → Option (List α × List Char)
  | 0, _ => none
  | n + 1, cs => do
    let (a, cs) ← one cs
    match skip between cs with
    | some cs => do
      let (as, cs) ← readSeparated one between n cs
      some (a :: as, cs)
    | none => some ([a], cs)

/-- If each thing is read up to where it may end, all are read up to where the word between
them does not follow. -/
theorem readSeparated_intercalate {α : Type} (one : List Char → Option (α × List Char))
    {between : String} (write : α → String) (ends : List Char → Prop) {rest : List Char}
    (hbetween : ∀ cs, ends (between.toList ++ cs)) (hends : ends rest)
    (hrest : skip between rest = none) : ∀ {as : List α} {n : Nat},
      (∀ a ∈ as, ∀ cs, ends cs → one ((write a).toList ++ cs) = some (a, cs)) → as ≠ [] →
      as.length ≤ n → readSeparated one between n
        ((between.intercalate (as.map write)).toList ++ rest) = some (as, rest)
  | [a], n + 1, hone, _, _ => by
    have ha := hone a List.mem_cons_self rest hends
    rw [List.map_singleton, String.intercalate_singleton, readSeparated, ha]
    simp only [Option.bind_eq_bind, Option.bind_some, hrest]
  | a :: next :: as, n + 1, hone, _, hn => by
    obtain ⟨ha, has⟩ := List.forall_mem_cons.mp hone
    have ih := readSeparated_intercalate one write ends hbetween hends hrest has
      (List.cons_ne_nil next as) (Nat.le_of_succ_le_succ hn)
    simp only [List.map_cons] at ih
    rw [List.map_cons, List.map_cons, String.intercalate_cons_cons, String.toList_append,
      String.toList_append, List.append_assoc, List.append_assoc, readSeparated,
      ha _ (hbetween _)]
    simp only [Option.bind_eq_bind, Option.bind_some, skip_append, ih]

/-- There are not more words than letters, if none of them is empty. -/
theorem length_le_intercalate (between : String) : ∀ {words : List String},
    (∀ word ∈ words, word.toList ≠ []) →
      words.length ≤ (between.intercalate words).toList.length
  | [], _ => Nat.zero_le _
  | [word], h => by
    rw [String.intercalate_singleton]
    exact List.length_pos_iff.mpr (h word List.mem_cons_self)
  | word :: next :: words, h => by
    obtain ⟨hword, hwords⟩ := List.forall_mem_cons.mp h
    have hpos : 0 < word.toList.length := List.length_pos_iff.mpr hword
    have ih := length_le_intercalate between hwords
    rw [String.intercalate_cons_cons, String.toList_append, String.toList_append,
      List.length_append, List.length_append, List.length_cons]
    omega

/-- Identifiers with a word between them, and what follows them. -/
def readNames (between : String) (cs : List Char) : Option (List String × List Char) :=
  readSeparated (fun cs => some (readName cs)) between cs.length cs

theorem readNames_intercalate {between : String} (hne : between.toList ≠ [])
    (hbetween : Stops between.toList) {rest : List Char} (hstops : Stops rest)
    (hrest : skip between rest = none) {names : List String}
    (hnames : ∀ n ∈ names, isIdentifier n = true) (hsome : names ≠ []) :
    readNames between ((between.intercalate names).toList ++ rest) = some (names, rest) := by
  have hone : ∀ n ∈ names, ∀ cs, Stops cs → some (readName (n.toList ++ cs)) = some (n, cs) :=
    fun n hn cs hcs => congrArg some (readName_append (hnames n hn) hcs)
  have hlength : names.length ≤ ((between.intercalate names).toList ++ rest).length := by
    have hword : ∀ n ∈ names, n.toList ≠ [] := by
      intro n hn
      obtain ⟨c, cs, hname, -⟩ := isIdentifier_iff.mp (hnames n hn)
      rw [hname]
      exact List.cons_ne_nil c cs
    have hle := length_le_intercalate between hword
    rw [List.length_append]
    omega
  have hread := readSeparated_intercalate (fun cs => some (readName cs)) id Stops
    (fun cs => stops_append between hne hbetween) hstops hrest hone hsome hlength
  rwa [List.map_id] at hread

/-! ### Lines that say something -/

/-- A text begins as its first word does. -/
theorem head?_append_ne_blank (word : String) {rest : List Char} (hne : word.toList ≠ [])
    (h : word.toList.head? ≠ some ' ') : (word.toList ++ rest).head? ≠ some ' ' := by
  rwa [List.head?_append_of_ne_nil _ hne]

/-- After two blanks a line is read without them, if there is no third. -/
theorem readLine_inner {cs : List Char} (h : cs.head? ≠ some ' ') :
    readLine ("  ".toList ++ cs) = readInner cs := by
  change readLine (' ' :: ' ' :: cs) = readInner cs
  rw [readLine.eq_2]
  rintro r rfl
  exact h rfl

theorem readLine_outer {cs : List Char} (h : cs.head? ≠ some ' ') :
    readLine cs = readOuter cs := by
  rw [readLine.eq_3]
  · rintro r rfl
    exact h rfl
  · rintro r rfl
    exact h rfl

/-- What is read of the line of a property. -/
def Field.of (p : Property) : Field := ⟨p.name, !p.required, p.type.text⟩

theorem readField_propertyKey (name : String) (optional : Bool) (type : List Char) :
    readField ((propertyKey name).toList ++
      ((if optional then "?" else "").toList ++ (": ".toList ++ (type ++ ";".toList)))) =
      some (.field ⟨name, optional, String.ofList type⟩) := by
  have hmark : ∀ cs, Stops ((if optional then "?" else "").toList ++ (": ".toList ++ cs)) ∧
      readMark ((if optional then "?" else "").toList ++ (": ".toList ++ cs)) =
        (optional, ": ".toList ++ cs) := by
    intro cs
    cases optional with
    | false => exact ⟨stops_append ": " (by decide) (by decide), rfl⟩
    | true => exact ⟨stops_append "?" (by decide) (by decide), rfl⟩
  rw [readField, readKey_propertyKey name (hmark _).1]
  simp only [Option.bind_eq_bind, Option.bind_some, (hmark _).2, skip_append, dropSuffix?_append]

theorem readLine_propertyLine (p : Property) :
    readLine (propertyLine p).toList = some (.field (Field.of p)) := by
  have hhead : ∀ cs, ((propertyKey p.name).toList ++ cs).head? ≠ some ' ' := by
    intro cs
    obtain ⟨c, ds, hkey, hc⟩ := propertyKey_eq_cons p.name
    rw [hkey, List.cons_append, List.head?_cons, ne_eq, Option.some.injEq]
    rintro rfl
    split at hc <;> exact absurd hc (by decide)
  have hmark : (if p.required then "" else "?") = if !p.required then "?" else "" := by
    cases p.required <;> rfl
  -- Lines are opened in place: to make an equation of a long concatenation is slow.
  delta propertyLine
  simp only [String.toList_append, List.append_assoc, hmark]
  rw [readLine_inner (hhead _), readInner, readField_propertyKey, Option.some_or,
    String.ofList_toList]
  rfl

theorem readLine_tagLine (path : String) :
    readLine (tagLine path).toList = some (.tag path) := by
  have htext : (tagLine path).toList =
      "  ".toList ++ ("readonly _tag?: ".toList ++ ((Json.quote path).toList ++ ";".toList)) := by
    delta tagLine tagName
    simp only [String.toList_append, List.append_assoc]
    rfl
  have hfield : ∀ cs, readField ("readonly _tag?: ".toList ++ cs) = none := fun cs => rfl
  have hhead : ∀ cs, ("readonly _tag?: ".toList ++ cs).head? ≠ some ' ' := fun cs =>
    head?_append_ne_blank "readonly _tag?: " (by decide) (by decide)
  rw [htext, readLine_inner (hhead _), readInner, hfield, Option.none_or, readTag, skip_append]
  simp only [Option.bind_eq_bind, Option.bind_some, Json.readLiteral_quote, if_true,
    Option.some_or]

theorem readLine_openLine {name : String} (h : isIdentifier name = true) :
    readLine (openLine name).toList = some (.opening name) := by
  have htext : (openLine name).toList =
      "export type ".toList ++ (name.toList ++ " = \x7b".toList) := by
    delta openLine
    simp only [String.toList_append, List.append_assoc]
  have hend : Stops " = \x7b".toList := by decide
  rw [htext, readLine_outer (head?_append_ne_blank "export type " (by decide) (by decide)),
    readOuter, readOpening, skip_append]
  simp only [Option.bind_eq_bind, Option.bind_some, readName_append h hend, if_true,
    Option.some_or]

/-- Keys with bars between them are read as any list of words. -/
theorem readKeys_eq (n : Nat) :
    ∀ cs, readKeys n cs = readSeparated Json.readLiteral " | " n cs := by
  induction n with
  | zero => exact fun _ => rfl
  | succ n ih => simp only [readKeys, readSeparated, ih, implies_true]

theorem readKeys_intercalate {rest : List Char} (hrest : skip " | " rest = none)
    {keys : List String} {n : Nat} (hkeys : keys ≠ []) (hn : keys.length ≤ n) :
    readKeys n ((" | ".intercalate (keys.map Json.quote)).toList ++ rest) = some (keys, rest) := by
  rw [readKeys_eq]
  exact readSeparated_intercalate Json.readLiteral Json.quote (fun _ => True) (fun _ => trivial)
    trivial hrest (fun key _ cs _ => Json.readLiteral_quote key cs) hkeys hn

theorem readLine_pickLine {name source : String} {keys : List String}
    (hname : isIdentifier name = true) (hsource : isIdentifier source = true)
    (hkeys : keys ≠ []) :
    readLine (pickLine name source keys).toList = some (.pick ⟨name, source, keys⟩) := by
  have htext : (pickLine name source keys).toList = "export type ".toList ++ (name.toList ++
      (" = Pick<".toList ++ (source.toList ++ (", ".toList ++
        ((" | ".intercalate (keys.map Json.quote)).toList ++ ">;".toList))))) := by
    delta pickLine
    simp only [String.toList_append, List.append_assoc]
  have hpick : ∀ cs, Stops (" = Pick<".toList ++ cs) := fun cs =>
    stops_append " = Pick<" (by decide) (by decide)
  have hcomma : ∀ cs, Stops (", ".toList ++ cs) := fun cs =>
    stops_append ", " (by decide) (by decide)
  have hopening : ∀ cs, " = Pick<".toList ++ cs ≠ " = \x7b".toList := by
    intro cs h
    have hthird : some 'P' = some '\x7b' := congrArg (fun l : List Char => l[3]?) h
    exact absurd hthird (by decide)
  have hlength : keys.length ≤
      ((" | ".intercalate (keys.map Json.quote)).toList ++ ">;".toList).length := by
    have hne : ∀ word ∈ keys.map Json.quote, word.toList ≠ [] := by simp [Json.quote]
    have hle := length_le_intercalate " | " hne
    rw [List.length_map] at hle
    rw [List.length_append]
    omega
  have hend : skip " | " ">;".toList = none := rfl
  rw [htext, readLine_outer (head?_append_ne_blank "export type " (by decide) (by decide)),
    readOuter, readOpening, readPick, skip_append]
  simp only [Option.bind_eq_bind, Option.bind_some, readName_append hname (hpick _), hopening,
    if_false, Option.none_or, skip_append, readName_append hsource (hcomma _),
    readKeys_intercalate hend hkeys hlength, if_true, Option.some_or]

/-- The types in an accessor are written as identifiers. -/
def Entry.IsReadable (e : Entry) : Prop :=
  isIdentifier e.model = true ∧ isIdentifier e.defaults = true

theorem Entry.toList_line (e : Entry) : e.line.toList = "    ".toList ++
    ((propertyKey e.key).toList ++ (": idmObject<".toList ++ (e.model.toList ++ (", ".toList ++
      (e.defaults.toList ++ (">(".toList ++ ((Json.quote e.path).toList ++ "),".toList))))))) := by
  delta Entry.line
  simp only [String.toList_append, List.append_assoc]

theorem readLine_entry {e : Entry} (h : e.IsReadable) :
    readLine e.line.toList = some (.entry e) := by
  have hobject : ∀ cs, Stops (": idmObject<".toList ++ cs) := fun cs =>
    stops_append ": idmObject<" (by decide) (by decide)
  have hcomma : ∀ cs, Stops (", ".toList ++ cs) := fun cs =>
    stops_append ", " (by decide) (by decide)
  have hbracket : ∀ cs, Stops (">(".toList ++ cs) := fun cs =>
    stops_append ">(" (by decide) (by decide)
  have hindent : ∀ cs, readLine ("    ".toList ++ cs) = readEntry cs := fun cs => rfl
  rw [e.toList_line, hindent, readEntry, readKey_propertyKey e.key (hobject _)]
  simp only [Option.bind_eq_bind, Option.bind_some, skip_append, readName_append h.1 (hcomma _),
    readName_append h.2 (hbracket _), Json.readLiteral_quote, if_true]

/-! ### Lines that say nothing -/

/-- The lines of a comment are passed over. -/
theorem readLine_docLine {p : Property} {l : String} (h : l ∈ docLines p) :
    readLine l.toList = none := by
  unfold docLines at h
  split at h
  · cases h
  · simp only [List.cons_append, List.mem_cons, List.mem_append, List.mem_map, List.not_mem_nil,
      or_false] at h
    rcases h with rfl | ⟨line, -, rfl⟩ | rfl
    · rfl
    · unfold commentLine
      split
      · rfl
      · rw [String.toList_append]
        rfl
    · rfl

theorem readLine_headerLine {runtimeModule l : String} {c : Catalog}
    (h : l ∈ headerLines runtimeModule c) : readLine l.toList = none := by
  unfold headerLines at h
  simp only [List.mem_cons, List.mem_append, List.not_mem_nil, or_false] at h
  rcases h with rfl | h | rfl
  · rfl
  · split at h
    · cases h
    · rw [List.mem_singleton.mp h]
      simp only [String.toList_append, List.append_assoc]
      rfl
  · rfl

/-! ### The lines of the module -/

/-- What some lines say. -/
def readLines (lines : List String) : List Item := lines.filterMap fun l => readLine l.toList

section

variable {l : String} {lines lines' : List String}

theorem readLines_append : readLines (lines ++ lines') = readLines lines ++ readLines lines' :=
  List.filterMap_append

theorem readLines_cons {i : Item} (h : readLine l.toList = some i) :
    readLines (l :: lines) = i :: readLines lines :=
  List.filterMap_cons_some h

theorem readLines_eq_nil (h : ∀ l ∈ lines, readLine l.toList = none) : readLines lines = [] :=
  List.filterMap_eq_nil_iff.mpr h

/-- The lines of several things say what the lines of each say. -/
theorem readLines_flatMap {α : Type} {f : α → List String} {g : α → List Item} {as : List α}
    (h : ∀ a ∈ as, readLines (f a) = g a) : readLines (as.flatMap f) = as.flatMap g := by
  induction as with
  | nil => rfl
  | cons a as ih =>
    obtain ⟨ha, has⟩ := List.forall_mem_cons.mp h
    rw [List.flatMap_cons, readLines_append, ha, ih has, List.flatMap_cons]

end

/-- What the lines of a declaration say. -/
def Declaration.items : Declaration → List Item
  | .object name tag properties => .opening name ::
      (tag.toList.map .tag ++ (properties.map (fun p => .field (Field.of p)) ++ [.closing]))
  | .pick name source keys => [.pick ⟨name, source, keys⟩]

/-- Names are written as identifiers, and there are keys to be picked. -/
def Declaration.IsReadable : Declaration → Prop
  | .object name _ _ => isIdentifier name = true
  | .pick name source keys => isIdentifier name = true ∧ isIdentifier source = true ∧ keys ≠ []

/-- Of the lines of a property, the last one is read. -/
theorem readLines_propertyLines (p : Property) :
    readLines (propertyLines p) = [.field (Field.of p)] := by
  rw [propertyLines, readLines_append, readLines_eq_nil fun l hl => readLine_docLine hl,
    readLines_cons (readLine_propertyLine p)]
  rfl

theorem readLines_declaration {d : Declaration} (h : d.IsReadable) :
    readLines d.lines = d.items := by
  have hclosing : readLines ["\x7d;", ""] = [.closing] := rfl
  cases d with
  | object name tag properties =>
    have htag : readLines (tag.toList.map tagLine) = tag.toList.map .tag := by
      cases tag with
      | none => rfl
      | some path => exact readLines_cons (readLine_tagLine path)
    have hproperties : readLines (properties.flatMap propertyLines) =
        properties.map fun p => .field (Field.of p) := by
      rw [readLines_flatMap fun p _ => readLines_propertyLines p, List.map_eq_flatMap]
    rw [Declaration.lines, readLines_cons (readLine_openLine h), readLines_append, htag,
      readLines_append, hproperties, hclosing, Declaration.items]
  | pick name source keys =>
    obtain ⟨hname, hsource, hkeys⟩ := h
    rw [Declaration.lines, readLines_cons (readLine_pickLine hname hsource hkeys)]
    rfl

theorem readLines_entries {es : List Entry} (h : ∀ e ∈ es, e.IsReadable) :
    readLines (es.map Entry.line) = es.map .entry := by
  rw [List.map_eq_flatMap, List.map_eq_flatMap]
  refine readLines_flatMap fun e he => ?_
  rw [readLines_cons (readLine_entry (h e he))]
  rfl

/-- What the lines of the accessors say. -/
def accessorItems (c : Catalog) : List Item :=
  .group .managed :: ((managedEntries c).map .entry ++
    (.group .system :: ((systemEntries c).map .entry ++ [.closing])))

variable {c : Catalog}

/-- All names of types in a catalog are identifiers. -/
def IsReadable (c : Catalog) : Prop := ∀ n ∈ typeNames c, isIdentifier n = true

instance (c : Catalog) : Decidable (IsReadable c) :=
  inferInstanceAs (Decidable (∀ n ∈ typeNames c, isIdentifier n = true))

theorem isIdentifier_defaultsName {n : String} (h : isIdentifier n = true) :
    isIdentifier (defaultsName n) = true := by
  obtain ⟨c, cs, hn, hc, hcs⟩ := isIdentifier_iff.mp h
  have hdefaults : "Defaults".toList.all isIdentifierPart = true := by decide
  refine isIdentifier_iff.mpr ⟨c, cs ++ "Defaults".toList, ?_, hc, ?_⟩
  · rw [defaultsName, String.toList_append, hn, List.cons_append]
  · exact List.forall_mem_append.mpr ⟨hcs, List.all_eq_true.mp hdefaults⟩

theorem isReadable_declarations (h : IsReadable c) : ∀ d ∈ declarations c, d.IsReadable := by
  intro d hd
  rw [declarations_eq_flatMap] at hd
  obtain ⟨e, he, hd⟩ := List.mem_flatMap.mp hd
  have hname : isIdentifier e.typeName = true :=
    h _ (List.mem_flatMap.mpr ⟨e, he, List.mem_cons_self⟩)
  cases e with
  | managed r =>
    rcases List.mem_cons.mp hd with rfl | hd
    · exact hname
    · rw [List.mem_singleton.mp hd]
      exact ⟨isIdentifier_defaultsName hname, hname, List.cons_ne_nil _ _⟩
  | system r =>
    rw [List.mem_singleton.mp hd]
    exact hname
  | subType family t =>
    rw [List.mem_singleton.mp hd]
    exact hname

theorem isReadable_entries (h : IsReadable c) :
    (∀ e ∈ managedEntries c, e.IsReadable) ∧ ∀ e ∈ systemEntries c, e.IsReadable := by
  have hname : ∀ d ∈ c.declared, isIdentifier d.typeName = true := fun d hd =>
    h _ (List.mem_flatMap.mpr ⟨d, hd, List.mem_cons_self⟩)
  constructor
  · intro e he
    obtain ⟨r, hr, rfl⟩ := List.mem_map.mp he
    have hr := hname _ (Catalog.managed_mem_declared.mpr hr)
    exact ⟨hr, isIdentifier_defaultsName hr⟩
  · intro e he
    obtain ⟨r, hr, rfl⟩ := List.mem_map.mp he
    have hr := hname _ (Catalog.system_mem_declared.mpr hr)
    exact ⟨hr, hr⟩

theorem readLines_accessorLines (h : IsReadable c) :
    readLines (accessorLines c) = accessorItems c := by
  obtain ⟨hm, hs⟩ := isReadable_entries h
  have hfirst : readLines ["export const idm = \x7b", "  managed: \x7b"] = [.group .managed] := rfl
  have hsecond : readLines ["  \x7d,", "  system: \x7b"] = [.group .system] := rfl
  have hlast : readLines ["  \x7d,", "\x7d;"] = [.closing] := rfl
  rw [accessorLines, readLines_append, readLines_append, readLines_append, readLines_append,
    hfirst, hsecond, hlast, readLines_entries hm, readLines_entries hs, accessorItems]
  simp

/-- What is read from the text is what the declarations and the accessors say. -/
theorem items_render (h : IsReadable c) (runtimeModule : String) :
    items (render runtimeModule c) =
      (declarations c).flatMap Declaration.items ++ accessorItems c := by
  have hbreak : ∀ n ∈ typeNames c, NoBreak n := fun n hn => noBreak_of_isIdentifier (h n hn)
  have hlines : items (render runtimeModule c) = readLines (lines runtimeModule c) := by
    rw [items, linesOf_render hbreak, List.filterMap_map]
    rfl
  rw [hlines, lines, readLines_append, readLines_append,
    readLines_eq_nil fun l hl => readLine_headerLine hl, List.nil_append, modelLines,
    readLines_flatMap fun d hd => readLines_declaration (isReadable_declarations h d hd),
    readLines_accessorLines h]

end IdentityTypes.TypeScript
