/-
# Where a path leads

A name that is written after a path becomes its last segment, and so the longer path leads
where the name leads from the place of the shorter one. For the name of something in a
directory this is what has the name there. What begins a path leads somewhere if the whole
path does.

The names in a directory are those under which something can be found. No two of them are
equal and none has a slash, if the tree is a proper one.

Key definitions: `pathIn`, `IsPlain`, `Tree.walkPath`, `Tree.IsProper`, `Tree.textAt`.
Key theorems: `segments_join`, `fileName?_pathIn`, `Tree.walkPath_pathIn`,
`Tree.reaches_of_append`, `Tree.mem_names`, `Tree.IsProper.nodup_names`, `Tree.readText_pathIn`.
-/
import IdentityTypes.Proofs.Files.Replacement
import Mathlib.Data.List.Nodup

namespace IdentityTypes.Files

variable {here name s path : String}

/-! ### Segments -/

theorem segmentsFrom_append_slash (ds : List Char) : ∀ cs current : List Char,
    segmentsFrom current (cs ++ '/' :: ds) = segmentsFrom current cs ++ segmentsFrom [] ds
  | [], current => by simp [segmentsFrom]
  | c :: cs, current => by
    rw [List.cons_append, segmentsFrom, segmentsFrom]
    by_cases hc : c = '/'
    · rw [if_pos hc, if_pos hc, segmentsFrom_append_slash ds cs [], List.cons_append]
    · rw [if_neg hc, if_neg hc, segmentsFrom_append_slash ds cs (c :: current)]

theorem segmentsFrom_of_notMem : ∀ {cs : List Char} (current : List Char), '/' ∉ cs →
    segmentsFrom current cs = [String.ofList (current.reverse ++ cs)]
  | [], current, _ => by simp [segmentsFrom]
  | c :: cs, current, h => by
    rw [List.mem_cons, not_or] at h
    rw [segmentsFrom, if_neg (Ne.symm h.1), segmentsFrom_of_notMem (c :: current) h.2,
      List.reverse_cons, List.append_assoc, List.singleton_append]

/-- A text without a slash is one segment. -/
theorem segments_of_notMem (h : '/' ∉ s.toList) : segments s = [s] := by
  rw [segments, segmentsFrom_of_notMem [] h]
  simp

theorem notMem_of_mem_segmentsFrom : ∀ {cs current : List Char}, '/' ∉ current →
    ∀ s ∈ segmentsFrom current cs, '/' ∉ s.toList
  | [], current, h, s, hs => by
    rw [segmentsFrom, List.mem_singleton] at hs
    simpa [hs] using h
  | c :: cs, current, h, s, hs => by
    rw [segmentsFrom] at hs
    split_ifs at hs with hc
    · rcases List.mem_cons.mp hs with rfl | hs
      · simpa using h
      · exact notMem_of_mem_segmentsFrom List.not_mem_nil s hs
    · refine notMem_of_mem_segmentsFrom (fun hmem => ?_) s hs
      rcases List.mem_cons.mp hmem with rfl | hmem
      · exact hc rfl
      · exact h hmem

theorem notMem_of_mem_segments (hs : s ∈ segments path) : '/' ∉ s.toList :=
  notMem_of_mem_segmentsFrom List.not_mem_nil s hs

theorem segmentsFrom_ne_nil : ∀ cs current : List Char, segmentsFrom current cs ≠ []
  | [], _ => List.cons_ne_nil _ _
  | c :: cs, current => by
    rw [segmentsFrom]
    split_ifs
    · exact List.cons_ne_nil _ _
    · exact segmentsFrom_ne_nil cs (c :: current)

theorem segments_append_slash (front back : String) :
    segments (front ++ "/" ++ back) = segments front ++ segments back := by
  have htext : (front ++ "/" ++ back).toList = front.toList ++ '/' :: back.toList := by simp
  rw [segments, htext, segmentsFrom_append_slash, segments, segments]

theorem segmentsFrom_eq_cons {rest : List String} : ∀ {cs current : List Char},
    segmentsFrom current cs = s :: rest →
      (rest = [] ∧ s.toList = current.reverse ++ cs) ∨
        ∃ ds, current.reverse ++ cs = s.toList ++ '/' :: ds ∧ segmentsFrom [] ds = rest
  | [], current, h => by
    obtain ⟨rfl, rfl⟩ := List.cons.inj h
    exact .inl ⟨rfl, by simp⟩
  | c :: cs, current, h => by
    rw [segmentsFrom] at h
    split_ifs at h with hc
    · obtain ⟨rfl, rfl⟩ := List.cons.inj h
      exact .inr ⟨cs, by simp [hc], rfl⟩
    · simpa using segmentsFrom_eq_cons h

/-- A path has one segment, or goes on behind the slash after the first one. -/
theorem segments_eq_cons {rest : List String} (h : segments path = s :: rest) :
    (rest = [] ∧ path = s) ∨ ∃ back, path = s ++ "/" ++ back ∧ segments back = rest := by
  rcases segmentsFrom_eq_cons h with ⟨hrest, hs⟩ | ⟨ds, hpath, hrest⟩
  · exact .inl ⟨hrest, (String.toList_inj.mp hs).symm⟩
  · refine .inr ⟨String.ofList ds, ?_, ?_⟩
    · rw [← String.toList_inj]
      simpa using hpath
    · rw [segments, String.toList_ofList, hrest]

/-- Before the slash at the beginning there is an empty segment. -/
theorem exists_of_isAbsolute (h : isAbsolute path = true) :
    ∃ back, path = "/" ++ back ∧ segments path = "" :: segments back := by
  rw [isAbsolute, beq_iff_eq] at h
  have hpath : path = "/" ++ String.ofList path.toList.tail := by
    rw [← String.toList_inj, List.eq_cons_of_mem_head? h]
    simp
  refine ⟨_, hpath, ?_⟩
  have hsegments := segments_append_slash "" (String.ofList path.toList.tail)
  rwa [String.empty_append, ← hpath] at hsegments

/-- A name becomes the last segment. It stands for the empty one after a slash at the end. -/
theorem segments_join (dir : String) (hname : '/' ∉ name.toList) :
    segments (join dir name) = segments dir ++ [name] ∨
      ∃ front, segments dir = front ++ [""] ∧ segments (join dir name) = front ++ [name] := by
  rw [join]
  by_cases hend : dir = "" ∨ dir.toList.getLast? = some '/'
  · rw [if_pos (by simpa using hend)]
    right
    rcases hend with rfl | hlast
    · exact ⟨[], by decide, by rw [String.empty_append, segments_of_notMem hname]; rfl⟩
    · obtain ⟨front, hfront⟩ := List.getLast?_eq_some_iff.mp hlast
      have hdir : dir = String.ofList front ++ "/" := by
        rw [← String.toList_inj, hfront]
        simp
      have hempty := segments_append_slash (String.ofList front) ""
      rw [String.append_empty, ← hdir] at hempty
      refine ⟨segments (String.ofList front), hempty, ?_⟩
      rw [hdir, segments_append_slash, segments_of_notMem hname]
  · rw [if_neg (by simpa using hend)]
    left
    rw [segments_append_slash, segments_of_notMem hname]

/-- The path of a name in the directory at which a search is: a dot is left out. -/
def pathIn (here name : String) : String := if here = "." then name else join here name

/-- Behind a name the next one stands after a slash. -/
theorem pathIn_append (hslash : '/' ∉ s.toList) (hempty : s ≠ "") (hdot : s ≠ ".")
    (before name : String) : pathIn (before ++ s) name = before ++ s ++ "/" ++ name := by
  have hnil : s.toList ≠ [] := mt String.toList_eq_nil_iff.mp hempty
  have hlast : s.toList.getLast? ≠ some '/' := fun h => hslash (List.mem_of_getLast? h)
  have hmore : before ++ s ≠ "." := by
    intro h
    have hlist : before.toList ++ s.toList = ['.'] := by
      rw [← String.toList_append, h]
      rfl
    rcases List.append_eq_singleton_iff.mp hlist with ⟨-, hs⟩ | ⟨-, hs⟩
    · exact hdot (String.toList_inj.mp hs)
    · exact hnil hs
  rw [pathIn, if_neg hmore, join, if_neg (by simp [hempty, hlast])]

theorem exists_segments_pathIn (hname : '/' ∉ name.toList) :
    ∃ front, segments (pathIn here name) = front ++ [name] := by
  rw [pathIn]
  split_ifs
  · exact ⟨[], segments_of_notMem hname⟩
  · rcases segments_join here hname with h | ⟨front, -, h⟩
    · exact ⟨_, h⟩
    · exact ⟨front, h⟩

/-- The name is found again at the end of the path. -/
theorem fileName?_pathIn (hname : '/' ∉ name.toList) (hplain : name ∉ ["", ".", ".."]) :
    fileName? (pathIn here name) = some name := by
  obtain ⟨front, hfront⟩ : ∃ front, segments (pathIn here name) = front ++ [name] :=
    exists_segments_pathIn hname
  simp only [List.mem_cons, List.not_mem_nil, or_false, not_or] at hplain
  obtain ⟨hempty, hdot, hup⟩ := hplain
  have hlast : (segments (pathIn here name)).reverse.dropWhile (fun s => s = "" || s = ".") =
      name :: front.reverse := by
    rw [hfront, List.reverse_append, List.reverse_singleton, List.singleton_append,
      List.dropWhile_cons_of_neg (by simp [hempty, hdot])]
  rw [fileName?, hlast]
  exact if_neg hup

theorem isAbsolute_of_notMem (h : '/' ∉ s.toList) : isAbsolute s = false := by
  rw [isAbsolute, beq_eq_false_iff_ne]
  intro hhead
  exact h (List.mem_of_mem_head? hhead)

theorem isAbsolute_pathIn (hname : '/' ∉ name.toList) :
    isAbsolute (pathIn here name) = isAbsolute here := by
  rw [pathIn]
  split_ifs with hdot
  · rw [isAbsolute_of_notMem hname, hdot]
    rfl
  · rw [join]
    by_cases hempty : here = ""
    · rw [if_pos (by simp [hempty]), hempty, String.empty_append, isAbsolute_of_notMem hname]
      rfl
    · obtain ⟨c, cs, hhere⟩ := List.exists_cons_of_ne_nil (mt String.toList_eq_nil_iff.mp hempty)
      rw [isAbsolute, isAbsolute]
      split_ifs <;> simp [hhere]

/-- A path is made of names only, apart from a slash at its beginning. -/
def IsPlain (path : String) : Prop :=
  ∀ s ∈ (if isAbsolute path then (segments path).tail else segments path), s ∉ ["", ".", ".."]

instance (path : String) : Decidable (IsPlain path) :=
  inferInstanceAs (Decidable (∀ s ∈ (if isAbsolute path then _ else _), _))

namespace Tree

variable {t : Tree} {place : Location}

/-! ### Paths and places -/

/-- The location that a path leads to, however long the path is. -/
def walkPath (t : Tree) (path : String) : Except Fault Location :=
  t.walk (t.start path) (segments path)

theorem pathFault?_eq_none : pathFault? path = none ↔
    '\x00' ∉ path.toList ∧ path ≠ "" ∧ path.utf8ByteSize ≤ maxPath := by
  rw [pathFault?]
  split_ifs <;> simp_all

theorem resolve_eq_ok :
    t.resolve path = .ok place ↔ pathFault? path = none ∧ t.walkPath path = .ok place := by
  rw [resolve]
  cases pathFault? path with
  | some fault =>
    constructor
    · intro h
      cases h
    · rintro ⟨h, -⟩
      cases h
  | none =>
    constructor
    · intro h
      exact ⟨rfl, h⟩
    · rintro ⟨-, h⟩
      exact h

theorem directory?_eq_some :
    t.directory? path = some place ↔ t.resolve path = .ok place ∧ t.isDirectory place = true := by
  rw [directory?]
  cases hpath : t.resolve path with
  | error fault => simp
  | ok p =>
    simp only [Except.ok.injEq, Option.ite_none_right_eq_some, Option.some.injEq]
    constructor
    · rintro ⟨hp, rfl⟩
      exact ⟨rfl, hp⟩
    · rintro ⟨rfl, hp⟩
      exact ⟨hp, rfl⟩

/-- A segment that stays in the same directory may be left out before another one. -/
theorem walk_stay (hs : s = "" ∨ s = ".") (here : Location) (name : String) (rest : List String) :
    (t.walk here [s] >>= fun p => t.walk p (name :: rest)) = t.walk here (name :: rest) := by
  cases hhere : t.isDirectory here with
  | false => simp [walk, hhere, bind, Except.bind]
  | true =>
    rcases hs with rfl | rfl
    · rw [walk, if_neg (by simp [hhere]), if_pos (by simp)]
      rfl
    · rw [walk, if_neg (by simp [hhere]), if_pos (by simp)]
      rfl

/-- From the place of a path the name leads on. -/
theorem walkPath_pathIn (hname : '/' ∉ name.toList) :
    t.walkPath (pathIn here name) = t.walkPath here >>= fun p => t.walk p [name] := by
  have hstart : t.start (pathIn here name) = t.start here := by
    rw [start, start, isAbsolute_pathIn hname]
  rw [walkPath, walkPath, hstart]
  by_cases hdot : here = "."
  · rw [pathIn, if_pos hdot, segments_of_notMem hname, hdot]
    exact (walk_stay (.inr rfl) _ name []).symm
  · rw [pathIn, if_neg hdot]
    rcases segments_join here hname with h | ⟨front, hhere, h⟩
    · rw [h, walk_append]
    · rw [h, hhere, walk_append, walk_append, bind_assoc]
      exact congrArg _ (funext fun p => (walk_stay (.inl rfl) p name []).symm)

/-- What begins a path that leads somewhere leads somewhere. -/
theorem reaches_of_append {front back : String} (hfront : front ≠ "")
    (h : t.resolve (front ++ "/" ++ back) = .ok place) : t.reaches front = true := by
  obtain ⟨husable, hwalk⟩ := resolve_eq_ok.mp h
  have hstart : t.start (front ++ "/" ++ back) = t.start front := by
    obtain ⟨c, cs, hcs⟩ := List.exists_cons_of_ne_nil (mt String.toList_eq_nil_iff.mp hfront)
    simp [start, isAbsolute, hcs]
  rw [walkPath, segments_append_slash, walk_append, hstart, bind_eq_ok] at hwalk
  obtain ⟨p, hp, -⟩ := hwalk
  have hfrontUsable : pathFault? front = none := by
    obtain ⟨hzero, -, hlong⟩ := pathFault?_eq_none.mp husable
    refine pathFault?_eq_none.mpr ⟨fun hmem => hzero ?_, hfront, ?_⟩
    · simp [hmem]
    · rw [String.utf8ByteSize_append, String.utf8ByteSize_append] at hlong
      omega
  rw [reaches, resolve_eq_ok.mpr ⟨hfrontUsable, hp⟩]
  rfl

/-! ### What is in a directory -/

/-- No two entries of the tree are at one place, and no name has a slash. -/
structure IsProper (t : Tree) : Prop where
  distinct : (t.entries.map (·.1)).Nodup
  whole : ∀ e ∈ t.entries, ∀ s ∈ e.1, '/' ∉ s.toList

/-- An entry is listed with its last segment, in the directory of the others. -/
theorem listed_iff {e : Location × Entry} :
    (match e.1.getLast? with
      | some name => if e.1 = place ++ [name] then some name else none
      | none => none) = some name ↔ e.1 = place ++ [name] := by
  constructor
  · intro h
    split at h
    · split_ifs at h with hplace
      cases h
      exact hplace
    · cases h
  · intro h
    rw [h, List.getLast?_concat]
    exact if_pos rfl

theorem mem_names_iff_entry : name ∈ t.names place ↔ place ++ [name] ∈ t.entries.map (·.1) := by
  rw [names, List.mem_filterMap, List.mem_map]
  exact exists_congr fun e => and_congr_right fun _ => listed_iff

/-- The names in a directory are those of what can be found there. -/
theorem mem_names : name ∈ t.names place ↔ (t.find? (place ++ [name])).isSome := by
  rw [mem_names_iff_entry, Option.isSome_iff_ne_none, ne_eq, find?_eq_none_iff (by simp), not_not]

theorem IsProper.notMem_of_mem_names (ht : t.IsProper) (h : name ∈ t.names place) :
    '/' ∉ name.toList := by
  obtain ⟨e, he, hplace⟩ := List.mem_map.mp (mem_names_iff_entry.mp h)
  exact ht.whole e he name (hplace ▸ List.mem_append_right _ List.mem_cons_self)

/-- In a proper tree nothing is listed twice. -/
theorem IsProper.nodup_names (ht : t.IsProper) : (t.names place).Nodup := by
  rw [names, List.Nodup, List.pairwise_filterMap]
  refine (List.pairwise_map.mp ht.distinct).imp fun {a b} hne m hm n hn hmn => ?_
  have ha : a.1 = place ++ [m] := listed_iff.mp hm
  have hb : b.1 = place ++ [n] := listed_iff.mp hn
  exact hne (ha.trans (hmn ▸ hb.symm))

/-- The path of a name that stands for itself leads to what has the name in the directory. -/
theorem resolve_pathIn (hhere : t.directory? here = some place) (hname : '/' ∉ name.toList)
    (hplain : name ∉ ["", ".", ".."]) :
    t.resolve (pathIn here name) =
      match pathFault? (pathIn here name) with
      | some fault => .error fault
      | none =>
        if maxName < name.utf8ByteSize then .error .nameTooLong
        else if (t.find? (place ++ [name])).isSome then .ok (place ++ [name])
        else .error .notFound := by
  obtain ⟨hplace, hdir⟩ := directory?_eq_some.mp hhere
  simp only [List.mem_cons, List.not_mem_nil, or_false, not_or] at hplain
  obtain ⟨hempty, hdot, hup⟩ := hplain
  have hwalk : t.walkPath (pathIn here name) = t.walk place [name] := by
    rw [walkPath_pathIn hname, (resolve_eq_ok.mp hplace).2]
    rfl
  cases hfault : pathFault? (pathIn here name) with
  | some fault =>
    rw [resolve, hfault]
  | none =>
    rw [resolve, hfault]
    dsimp only
    rw [← walkPath, hwalk, walk, if_neg (by simp [hdir]), if_neg (by simp [hempty, hdot]),
      if_neg hup, walk]

/-- The text of a file. -/
def textAt (t : Tree) (place : Location) : Except Fault String :=
  match t.find? place with
  | some (.file bytes) => (Text.decode bytes).mapError fun _ => .notText
  | some .directory => .error .isDirectory
  | none => .error .notFound

/-- What is read by the path of a name is the text of what has the name in the directory,
unless the path cannot be used. -/
theorem readText_pathIn (hhere : t.directory? here = some place) (hname : '/' ∉ name.toList)
    (hplain : name ∉ ["", ".", ".."]) :
    t.readText (pathIn here name) =
      match pathFault? (pathIn here name) with
      | some fault => .error fault
      | none =>
        if maxName < name.utf8ByteSize then .error .nameTooLong
        else t.textAt (place ++ [name]) := by
  rw [readText, read, resolve_pathIn hhere hname hplain]
  cases pathFault? (pathIn here name) with
  | some fault => rfl
  | none =>
    dsimp only
    rw [textAt]
    split_ifs
    · rfl
    · cases hfound : t.find? (place ++ [name]) with
      | none => simp_all
      | some e =>
        cases e with
        | directory => simp [bind, Except.bind, hfound]
        | file bytes =>
          simp only [bind, Except.bind, hfound]
          cases Text.decode bytes <;> rfl
    · cases hfound : t.find? (place ++ [name]) with
      | none => rfl
      | some e => simp_all

end Tree

end IdentityTypes.Files
