/-
# Connectors are found by the names of their files

A connector's file is one whose name has any text between the fixed beginning and the fixed
end, and this text is the connector's name. The search arrives at the place that the
directory's path leads to, and lists the names there. Whatever order they are listed in, the
files are loaded in the order of their names.

All of them have to be good: a file is read and its document is judged before its name is,
and the first bad file in the order of the names is reported. Nothing else that is in the
directory has any influence.

Key definitions: `connectorFile`, `HoldsObjectTypes`, `IsConnectorFile`, `ConnectorFault`,
`ConnectorsFound`.
Key theorems: `connectorFileMiddle?_eq_some`, `walkPath_of_searchPath`, `searchPath_of_isPlain`,
`loadConnector_eq_ok`, `loadConnector_eq_error`, `connectors_found`.
-/
import IdentityTypes.Configuration.Discovery
import IdentityTypes.Proofs.Files.Paths
import IdentityTypes.Proofs.Outcomes
import IdentityTypes.Proofs.Sorting
import IdentityTypes.Proofs.Text.Utf8

namespace IdentityTypes

open Files Text

variable {t t' : Tree} {dir here there path x : String} {place : Location}
  {types : List (String × Schema)} {file : ConnectorFile} {error : LoadError}

/-! ### The names of files -/

/-- The name of the file of a connector. -/
def connectorFile (x : String) : String := connectorFileStart ++ x ++ connectorFileEnd

/-- What stands between the ends of a file's name is taken off in one way only. -/
theorem connectorFileMiddle?_eq_some {n : String} :
    connectorFileMiddle? n = some x ↔ n = connectorFile x := by
  rw [connectorFileMiddle?, Option.bind_eq_bind, Option.bind_eq_some_iff, connectorFile]
  simp only [dropStart?_eq_some, dropEnd?_eq_some]
  constructor
  · rintro ⟨_, rfl, rfl⟩
    rw [String.append_assoc]
  · rintro rfl
    exact ⟨_, String.append_assoc, rfl⟩

theorem connectorFile_inj {y : String} : connectorFile x = connectorFile y ↔ x = y := by
  rw [← connectorFileMiddle?_eq_some, connectorFileMiddle?_eq_some.mpr rfl, Option.some.injEq]

theorem connectorFile_plain (x : String) : connectorFile x ∉ ["", ".", ".."] := by
  have hlength : 6 < (connectorFile x).toList.length := by
    have hstart : connectorFileStart.toList.length = 20 := by decide
    rw [connectorFile, String.toList_append, String.toList_append, List.length_append,
      List.length_append, hstart]
    omega
  intro hmem
  simp only [List.mem_cons, List.not_mem_nil, or_false] at hmem
  rcases hmem with h | h | h <;> rw [h] at hlength <;> exact absurd hlength (by decide)

theorem notMem_of_notMem_connectorFile (h : '/' ∉ (connectorFile x).toList) : '/' ∉ x.toList := by
  intro hx
  apply h
  rw [connectorFile, String.toList_append, String.toList_append]
  exact List.mem_append_left _ (List.mem_append_right _ hx)

/-- The connector's name is found again at the end of the path of its file. -/
theorem connectorName?_pathIn (hx : '/' ∉ (connectorFile x).toList) :
    connectorName? (pathIn here (connectorFile x)) = if x = "" then none else some x := by
  have hmiddle : connectorFileMiddle? (connectorFile x) = some x :=
    connectorFileMiddle?_eq_some.mpr rfl
  rw [connectorName?, fileName?_pathIn hx (connectorFile_plain x)]
  simp only [Option.bind_eq_bind, Option.bind_some, hmiddle]

/-! ### Where a search arrives -/

theorem follow_cons (t : Tree) (here s : String) (rest : List String) :
    follow t here (s :: rest) =
      if s = "." || s = ".." then
        if (t.directory? here).isSome then follow t (pathIn here s) rest else none
      else if t.reaches (pathIn here s) then follow t (pathIn here s) rest
      else none := rfl

/-- A search arrives where the segments lead from the place at which it begins. -/
theorem walkPath_of_follow : ∀ {rest : List String} {here : String},
    (∀ s ∈ rest, '/' ∉ s.toList) → follow t here rest = some there →
      t.walkPath there = t.walkPath here >>= fun p => t.walk p rest
  | [], here, _, h => by
    obtain rfl : here = there := Option.some.inj h
    cases hhere : t.walkPath here <;> rfl
  | s :: rest, here, hrest, h => by
    obtain ⟨hs, hrest⟩ := List.forall_mem_cons.mp hrest
    have hnext : follow t (pathIn here s) rest = some there := by
      rw [follow_cons] at h
      split_ifs at h <;> exact h
    have hsplit : ∀ p, t.walk p ([s] ++ rest) = t.walk p [s] >>= fun q => t.walk q rest :=
      fun p => Tree.walk_append
    rw [walkPath_of_follow hrest hnext, Tree.walkPath_pathIn hs, bind_assoc]
    exact congrArg _ (funext fun p => (hsplit p).symm)

/-- The path that a search arrives at leads where the directory leads. -/
theorem walkPath_of_searchPath (hdir : dir ≠ "") (h : searchPath t dir = some here) :
    t.walkPath here = t.walkPath dir := by
  have hslash : ∀ s ∈ segments dir, '/' ∉ s.toList := fun s hs => notMem_of_mem_segments hs
  rw [searchPath, if_neg hdir] at h
  split_ifs at h with habsolute
  · obtain ⟨back, rfl, hsegments⟩ := exists_of_isAbsolute habsolute
    have hroot : t.walkPath "/" = .ok [] := by
      have htwo : segments "/" = ["", ""] := by decide
      rw [Tree.walkPath, htwo]
      simp [Tree.walk, Tree.start, isAbsolute, Tree.isDirectory_nil]
    -- The empty segment before the first slash stays at the root.
    rw [hsegments, List.tail_cons] at h
    rw [hsegments] at hslash
    rw [walkPath_of_follow (List.forall_mem_cons.mp hslash).2 h, hroot, Tree.walkPath, hsegments,
      Tree.start, if_pos habsolute, Tree.walk, if_neg (by simp [Tree.isDirectory_nil]),
      if_pos (by simp)]
    rfl
  · have hdot : t.walkPath "." = t.walk t.home ["."] := rfl
    obtain ⟨s, rest, hsegments⟩ : ∃ s rest, segments dir = s :: rest :=
      List.exists_cons_of_ne_nil (segmentsFrom_ne_nil dir.toList [])
    rw [walkPath_of_follow hslash h, hdot, Tree.walkPath, Tree.start, if_neg habsolute, hsegments]
    exact Tree.walk_stay (.inr rfl) _ s rest

/-- A search for names goes along the path that leads somewhere, and writes it again. -/
theorem follow_plain {rest : List String} : ∀ {here before back : String},
    segments back = rest → (∀ s ∈ rest, s ∉ ["", ".", ".."]) →
      (∀ s, s ≠ "" → pathIn here s = before ++ s) → t.resolve (before ++ back) = .ok place →
      follow t here rest = some (before ++ back) := by
  induction rest with
  | nil =>
    intro here before back hsegments
    exact absurd hsegments (segmentsFrom_ne_nil back.toList [])
  | cons s rest ih =>
    intro here before back hsegments hplain hhere hresolve
    obtain ⟨hs, hrest⟩ := List.forall_mem_cons.mp hplain
    simp only [List.mem_cons, List.not_mem_nil, or_false, not_or] at hs
    obtain ⟨hempty, hdot, hup⟩ := hs
    rw [follow_cons, if_neg (by simp [hdot, hup]), hhere s hempty]
    rcases segments_eq_cons hsegments with ⟨rfl, rfl⟩ | ⟨more, rfl, hmore⟩
    · have hreaches : t.reaches (before ++ back) = true := by
        rw [Tree.reaches, hresolve]
        rfl
      rw [if_pos hreaches]
      rfl
    · have htext : before ++ (s ++ "/" ++ more) = before ++ s ++ "/" ++ more := by
        simp only [String.append_assoc]
      rw [htext] at hresolve ⊢
      have hslash : '/' ∉ s.toList := notMem_of_mem_segments (hsegments ▸ List.mem_cons_self)
      have hfront : before ++ s ≠ "" := by simp [hempty]
      rw [if_pos (Tree.reaches_of_append hfront hresolve)]
      exact ih hmore hrest (fun name _ => pathIn_append hslash hempty hdot before name) hresolve

/-- A plain path is searched as it is. -/
theorem searchPath_of_isPlain (hplain : IsPlain dir) (h : t.resolve dir = .ok place) :
    searchPath t dir = some dir := by
  have hdir : dir ≠ "" := (Tree.pathFault?_eq_none.mp (Tree.resolve_eq_ok.mp h).1).2.1
  rw [IsPlain] at hplain
  rw [searchPath, if_neg hdir]
  split_ifs at hplain ⊢ with habsolute
  · obtain ⟨back, rfl, hsegments⟩ := exists_of_isAbsolute habsolute
    have hroot : ∀ s, s ≠ "" → pathIn "/" s = "/" ++ s := fun s _ => rfl
    rw [hsegments, List.tail_cons] at hplain ⊢
    exact follow_plain rfl hplain hroot h
  · have hhere : ∀ s, s ≠ "" → pathIn "." s = "" ++ s := fun s _ => String.empty_append.symm
    rw [← String.empty_append (s := dir)] at h
    exact (follow_plain rfl hplain hhere h).trans (congrArg some String.empty_append)

/-! ### One file -/

/-- The file at a path has the text of an accepted document, which has these object types. -/
def HoldsObjectTypes (t : Tree) (path : String) (types : List (String × Schema)) : Prop :=
  ∃ text, t.readText path = .ok text ∧ readObjectTypes text = .ok types

/-- The file with this text between the ends of its name is good, and the text is the name of
the connector that it holds. -/
def IsConnectorFile (t : Tree) (here x : String) (file : ConnectorFile) : Prop :=
  x ≠ "" ∧ ∃ types, HoldsObjectTypes t (pathIn here (connectorFile x)) types ∧
    file = ⟨pathIn here (connectorFile x), ⟨x, types⟩⟩

/-- What is wrong with the file at a path, where `x` stands between the ends of its name.
The name is at fault only if the document is accepted. -/
inductive ConnectorFault (t : Tree) (path x : String) : LoadError → Prop
  | unreadable {fault : Files.Fault} : t.readText path = .error fault →
      ConnectorFault t path x (.unreadable path fault)
  | refused {text : String} {fault : Json.Fault} : t.readText path = .ok text →
      readObjectTypes text = .error fault → ConnectorFault t path x (.refused path fault)
  | unnamed {types : List (String × Schema)} : HoldsObjectTypes t path types → x = "" →
      ConnectorFault t path x (.unnamedConnector path)

theorem loadDocument_eq_ok :
    loadDocument t readObjectTypes path = .ok types ↔ HoldsObjectTypes t path types := by
  rw [loadDocument, HoldsObjectTypes]
  cases t.readText path with
  | error fault => simp
  | ok text => simp [mapError_eq_ok]

theorem loadDocument_eq_error : loadDocument t readObjectTypes path = .error error ↔
    (∃ fault, t.readText path = .error fault ∧ .unreadable path fault = error) ∨
      ∃ text, t.readText path = .ok text ∧
        ∃ fault, readObjectTypes text = .error fault ∧ .refused path fault = error := by
  rw [loadDocument]
  cases t.readText path with
  | error fault => simp
  | ok text => simp [mapError_eq_error]

/-- A connector's file is read, then its document is judged, then its name. -/
theorem loadConnector_pathIn (hx : '/' ∉ (connectorFile x).toList) :
    loadConnector t (pathIn here (connectorFile x)) =
      loadDocument t readObjectTypes (pathIn here (connectorFile x)) >>= fun types =>
        if x = "" then .error (.unnamedConnector (pathIn here (connectorFile x)))
        else .ok ⟨pathIn here (connectorFile x), ⟨x, types⟩⟩ := by
  rw [loadConnector, connectorName?_pathIn hx]
  split_ifs <;> rfl

theorem loadConnector_eq_ok (hx : '/' ∉ (connectorFile x).toList) :
    loadConnector t (pathIn here (connectorFile x)) = .ok file ↔ IsConnectorFile t here x file := by
  rw [loadConnector_pathIn hx, bind_eq_ok, IsConnectorFile]
  simp only [loadDocument_eq_ok]
  by_cases hempty : x = ""
  · simp [hempty]
  · simp [hempty, eq_comm]

theorem loadConnector_eq_error (hx : '/' ∉ (connectorFile x).toList) :
    loadConnector t (pathIn here (connectorFile x)) = .error error ↔
      ConnectorFault t (pathIn here (connectorFile x)) x error := by
  rw [loadConnector_pathIn hx, bind_eq_error, loadDocument_eq_error]
  constructor
  · rintro ((⟨fault, hread, rfl⟩ | ⟨text, hread, fault, hjudged, rfl⟩) | ⟨types, hholds, hname⟩)
    · exact .unreadable hread
    · exact .refused hread hjudged
    · split_ifs at hname with hempty
      cases hname
      exact .unnamed (loadDocument_eq_ok.mp hholds) hempty
  · rintro (⟨hread⟩ | ⟨hread, hjudged⟩ | ⟨hholds, hempty⟩)
    · exact .inl (.inl ⟨_, hread, rfl⟩)
    · exact .inl (.inr ⟨_, hread, _, hjudged, rfl⟩)
    · exact .inr ⟨_, loadDocument_eq_ok.mpr hholds, if_pos hempty⟩

/-! ### The files of a directory -/

theorem mem_connectorFileNames {names : List String} {n : String} :
    n ∈ connectorFileNames names ↔ n ∈ names ∧ ∃ x, n = connectorFile x := by
  rw [connectorFileNames, mem_sortOn, List.mem_filter, Option.isSome_iff_exists]
  simp only [connectorFileMiddle?_eq_some]

theorem forall_mem_connectorFileNames {names : List String} {P : String → Prop} :
    (∀ n ∈ connectorFileNames names, P n) ↔ ∀ x, connectorFile x ∈ names → P (connectorFile x) := by
  constructor
  · intro h x hx
    exact h _ (mem_connectorFileNames.mpr ⟨hx, x, rfl⟩)
  · intro h n hn
    obtain ⟨hn, x, rfl⟩ := mem_connectorFileNames.mp hn
    exact h x hn

theorem exists_mem_connectorFileNames {names : List String} {P : String → Prop} :
    (∃ n ∈ connectorFileNames names, P n) ↔ ∃ x, connectorFile x ∈ names ∧ P (connectorFile x) := by
  constructor
  · rintro ⟨n, hn, hP⟩
    obtain ⟨hn, x, rfl⟩ := mem_connectorFileNames.mp hn
    exact ⟨x, hn, hP⟩
  · rintro ⟨x, hx, hP⟩
    exact ⟨_, mem_connectorFileNames.mpr ⟨hx, x, rfl⟩, hP⟩

/-- Different names stand in their order. -/
theorem connectorFileNames_ascending {names : List String} (h : names.Nodup) :
    (connectorFileNames names).Pairwise (· < ·) := by
  have hnodup : (connectorFileNames names).Nodup :=
    (sortOn_perm id _).nodup_iff.mpr (h.filter _)
  have hsorted : (connectorFileNames names).Pairwise fun m n => id m ≤ id n := sortOn_sorted _
  exact hsorted.imp₂ (fun _ _ hle hne => lt_of_le_of_ne hle hne) hnodup

/-- A list of the names of the connectors' files is put into one order, however it was made. -/
theorem sortOn_eq_connectorFileNames {names listing : List String} (hnames : names.Nodup)
    (hlisting : listing.Nodup)
    (h : ∀ n, n ∈ listing ↔ n ∈ names ∧ ∃ x, n = connectorFile x) :
    sortOn id listing = connectorFileNames names := by
  refine sortOn_eq_of_perm ?_ fun _ _ _ _ h => h
  refine (List.perm_ext_iff_of_nodup hlisting (hnames.filter _)).mpr fun n => ?_
  rw [h n, ← mem_connectorFileNames, connectorFileNames, mem_sortOn]

/-- The files are loaded one after the other. -/
theorem discover_eq (hsearch : searchPath t dir = some here)
    (hhere : t.directory? here = some place) :
    discover t dir =
      (connectorFileNames (t.names place)).mapM fun n => loadConnector t (pathIn here n) := by
  have hpaths : connectorPaths t dir =
      (connectorFileNames (t.names place)).map fun n => pathIn here n := by
    rw [connectorPaths, hsearch]
    dsimp only
    rw [hhere]
    rfl
  rw [discover, hpaths, List.mapM_map]
  rfl

/-- In an ascending list the first element that fails is the smallest one. -/
theorem mapM_eq_error_of_ascending {β ε : Type} {f : String → Except ε β} {e : ε}
    {names : List String} (h : names.Pairwise (· < ·)) :
    names.mapM f = .error e ↔
      ∃ n ∈ names, f n = .error e ∧ ∀ m ∈ names, m < n → ∃ b, f m = .ok b := by
  rw [mapM_eq_error_iff]
  constructor
  · rintro ⟨before, n, after, rfl, hbefore, hn⟩
    refine ⟨n, List.mem_append_right _ List.mem_cons_self, hn, fun m hm hlt => ?_⟩
    obtain ⟨-, hafter, -⟩ := List.pairwise_append.mp h
    rcases List.mem_append.mp hm with hm | hm
    · exact hbefore m hm
    · rcases List.mem_cons.mp hm with rfl | hm
      · exact absurd hlt (lt_irrefl m)
      · exact absurd ((List.pairwise_cons.mp hafter).1 m hm) (lt_asymm hlt)
  · rintro ⟨n, hn, herror, hsmaller⟩
    obtain ⟨before, after, rfl⟩ := List.append_of_mem hn
    obtain ⟨-, -, hlt⟩ := List.pairwise_append.mp h
    exact ⟨before, n, after, rfl, fun m hm =>
      hsmaller m (List.mem_append_left _ hm) (hlt m hm n List.mem_cons_self), herror⟩

section

variable (ht : t.IsProper) (hsearch : searchPath t dir = some here)
  (hhere : t.directory? here = some place)

include ht hsearch hhere

theorem exists_discover_eq_ok_iff : (∃ files, discover t dir = .ok files) ↔
    ∀ x, connectorFile x ∈ t.names place → ∃ file, IsConnectorFile t here x file := by
  rw [discover_eq hsearch hhere, exists_mapM_eq_ok_iff, forall_mem_connectorFileNames]
  exact forall₂_congr fun x hx => exists_congr fun file =>
    loadConnector_eq_ok (ht.notMem_of_mem_names hx)

theorem discover_eq_error_iff : discover t dir = .error error ↔
    ∃ x, connectorFile x ∈ t.names place ∧
      ConnectorFault t (pathIn here (connectorFile x)) x error ∧
      ∀ y, connectorFile y ∈ t.names place → connectorFile y < connectorFile x →
        ∃ file, IsConnectorFile t here y file := by
  rw [discover_eq hsearch hhere,
    mapM_eq_error_of_ascending (connectorFileNames_ascending ht.nodup_names),
    exists_mem_connectorFileNames]
  refine exists_congr fun x => and_congr_right fun hx =>
    and_congr (loadConnector_eq_error (ht.notMem_of_mem_names hx)) ?_
  rw [forall_mem_connectorFileNames]
  exact forall₂_congr fun y hy => imp_congr_right fun _ => exists_congr fun file =>
    loadConnector_eq_ok (ht.notMem_of_mem_names hy)

/-- The files that are loaded are those of the connectors. -/
theorem mem_files_iff {files : List ConnectorFile} (h : discover t dir = .ok files) :
    file ∈ files ↔ ∃ x, connectorFile x ∈ t.names place ∧ IsConnectorFile t here x file := by
  rw [discover_eq hsearch hhere, mapM_eq_ok_iff] at h
  have hok : file ∈ files ↔ Except.ok file ∈
      (connectorFileNames (t.names place)).map fun n => loadConnector t (pathIn here n) := by
    rw [h]
    simp
  rw [hok, List.mem_map, exists_mem_connectorFileNames]
  exact exists_congr fun x => and_congr_right fun hx =>
    loadConnector_eq_ok (ht.notMem_of_mem_names hx)

/-- They stand in the order of the names of their files. -/
theorem map_connectorFile_files {files : List ConnectorFile} (h : discover t dir = .ok files) :
    files.map (fun file => connectorFile file.connector.name) =
      connectorFileNames (t.names place) := by
  rw [discover_eq hsearch hhere, mapM_eq_ok_iff] at h
  refine map_eq_of_map_ok h ?_
  rw [forall_mem_connectorFileNames]
  intro x hx file hfile
  obtain ⟨-, types, -, rfl⟩ := (loadConnector_eq_ok (ht.notMem_of_mem_names hx)).mp hfile
  rfl

theorem discover_congr (ht' : t'.IsProper) (hsearch' : searchPath t' dir = some here)
    (hhere' : t'.directory? here = some place)
    (h : ∀ x, t'.find? (place ++ [connectorFile x]) = t.find? (place ++ [connectorFile x])) :
    discover t' dir = discover t dir := by
  have hnames : connectorFileNames (t'.names place) = connectorFileNames (t.names place) := by
    refine sortOn_eq_connectorFileNames ht.nodup_names (ht'.nodup_names.filter _) fun n => ?_
    rw [List.mem_filter, Option.isSome_iff_exists]
    simp only [connectorFileMiddle?_eq_some]
    refine and_congr_left fun ⟨x, hx⟩ => ?_
    rw [hx, Tree.mem_names, Tree.mem_names, h x]
  rw [discover_eq hsearch' hhere', discover_eq hsearch hhere, hnames]
  refine mapM_congr ?_
  rw [forall_mem_connectorFileNames]
  intro x hx
  have hread : t'.readText (pathIn here (connectorFile x)) =
      t.readText (pathIn here (connectorFile x)) := by
    have hslash := ht.notMem_of_mem_names hx
    rw [Tree.readText_pathIn hhere' hslash (connectorFile_plain x),
      Tree.readText_pathIn hhere hslash (connectorFile_plain x), Tree.textAt, Tree.textAt, h x]
  rw [loadConnector, loadConnector, loadDocument, loadDocument, hread]

end

/-- How the connectors in a directory are found, from the names and the contents of what is
in it. -/
structure ConnectorsFound (t : Tree) (dir here : String) (place : Location) : Prop where
  /-- The directory is the one that the path given leads to. -/
  directory : Tree.pathFault? dir = none → t.directory? dir = some place
  /-- What is read by a path is what the directory has under the name. -/
  contents : ∀ x, connectorFile x ∈ t.names place →
    Tree.pathFault? (pathIn here (connectorFile x)) = none →
    (connectorFile x).utf8ByteSize ≤ Tree.maxName →
    t.readText (pathIn here (connectorFile x)) = t.textAt (place ++ [connectorFile x])
  /-- All connectors' files have to be good. -/
  succeeds : (∃ files, discover t dir = .ok files) ↔
    ∀ x, connectorFile x ∈ t.names place → ∃ file, IsConnectorFile t here x file
  /-- Then each of them gives one connector, in the order of their names. -/
  found : ∀ files, discover t dir = .ok files →
    (∀ file, file ∈ files ↔
      ∃ x, connectorFile x ∈ t.names place ∧ IsConnectorFile t here x file) ∧
    files.Pairwise (fun a b => connectorFile a.connector.name < connectorFile b.connector.name) ∧
    (files.map (·.connector.name)).Nodup ∧ ∀ file ∈ files, '/' ∉ file.connector.name.toList
  /-- Otherwise the first bad file in this order is reported. -/
  fails : ∀ error, discover t dir = .error error ↔
    ∃ x, connectorFile x ∈ t.names place ∧
      ConnectorFault t (pathIn here (connectorFile x)) x error ∧
      ∀ y, connectorFile y ∈ t.names place → connectorFile y < connectorFile x →
        ∃ file, IsConnectorFile t here y file
  /-- The order in which the names are listed does not matter. -/
  anyOrder : ∀ listing : List String, listing.Nodup →
    (∀ n, n ∈ listing ↔ n ∈ t.names place ∧ ∃ x, n = connectorFile x) →
    ((sortOn id listing).map fun n => pathIn here n).mapM (loadConnector t) = discover t dir
  /-- What has another name does not matter either. -/
  others : ∀ t' : Tree, t'.IsProper → searchPath t' dir = some here →
    t'.directory? here = some place →
    (∀ x, t'.find? (place ++ [connectorFile x]) = t.find? (place ++ [connectorFile x])) →
    discover t' dir = discover t dir

theorem connectorsFound (ht : t.IsProper) (hsearch : searchPath t dir = some here)
    (hhere : t.directory? here = some place) : ConnectorsFound t dir here place where
  directory := by
    intro husable
    have hdir : dir ≠ "" := by
      rintro rfl
      cases husable
    obtain ⟨hplace, hisDirectory⟩ := Tree.directory?_eq_some.mp hhere
    refine Tree.directory?_eq_some.mpr ⟨?_, hisDirectory⟩
    rw [Tree.resolve_eq_ok, ← walkPath_of_searchPath hdir hsearch]
    exact ⟨husable, (Tree.resolve_eq_ok.mp hplace).2⟩
  contents := by
    intro x hx husable hshort
    rw [Tree.readText_pathIn hhere (ht.notMem_of_mem_names hx) (connectorFile_plain x), husable]
    exact if_neg (Nat.not_lt.mpr hshort)
  succeeds := exists_discover_eq_ok_iff ht hsearch hhere
  found := by
    intro files hfiles
    have hascending : files.Pairwise fun a b =>
        connectorFile a.connector.name < connectorFile b.connector.name := by
      rw [← List.pairwise_map, map_connectorFile_files ht hsearch hhere hfiles]
      exact connectorFileNames_ascending ht.nodup_names
    refine ⟨fun _ => mem_files_iff ht hsearch hhere hfiles, hascending, ?_, fun file hfile => ?_⟩
    · exact List.pairwise_map.mpr (hascending.imp fun hlt he => hlt.ne (congrArg connectorFile he))
    · obtain ⟨x, hx, -, types, -, rfl⟩ := (mem_files_iff ht hsearch hhere hfiles).mp hfile
      exact notMem_of_notMem_connectorFile (ht.notMem_of_mem_names hx)
  fails := fun _ => discover_eq_error_iff ht hsearch hhere
  anyOrder := by
    intro listing hnodup hlisting
    rw [sortOn_eq_connectorFileNames ht.nodup_names hnodup hlisting, List.mapM_map,
      discover_eq hsearch hhere]
    rfl
  others := fun _ => discover_congr ht hsearch hhere

/-- **The connectors' files are found, and nothing else.** Discovery succeeds exactly if every
file whose name has any text between the two ends is a text with an accepted document and
has a connector's name; then it gives one connector for each of them, in the order of their
names, whatever order these are listed in. Otherwise the first bad file in this order is
reported. What has other names does not matter.

So it is in the directory at which the search arrives. From a plain path to a directory this
is the one that the path leads to, and if it arrives at none there are no connectors. -/
theorem connectors_found (ht : t.IsProper) :
    (∀ here place, searchPath t dir = some here → t.directory? here = some place →
      ConnectorsFound t dir here place) ∧
    (∀ place, IsPlain dir → t.directory? dir = some place → ConnectorsFound t dir dir place) ∧
    ((∀ here, searchPath t dir = some here → t.directory? here = none) →
      discover t dir = .ok []) := by
  refine ⟨fun _ _ => connectorsFound ht, fun _ hplain hdir => ?_, fun h => ?_⟩
  · have hsearch := searchPath_of_isPlain hplain (Tree.directory?_eq_some.mp hdir).1
    exact connectorsFound ht hsearch hdir
  · have hpaths : connectorPaths t dir = [] := by
      rw [connectorPaths]
      cases hsearch : searchPath t dir with
      | none => rfl
      | some here =>
        dsimp only
        rw [h here hsearch]
    rw [discover, hpaths]
    rfl

/-- The text of a document without object types. -/
def emptyDocument : String := "\x7b\"objectTypes\":\x7b\x7d\x7d"

/-- A directory with the files of two connectors and a file that is none. -/
def connectorsTree : Tree :=
  ⟨[(["conf"], .directory), (["conf", "sync.json"], .file []),
    (["conf", "provisioner.openicf-ldap.json"], .file (encode emptyDocument)),
    (["conf", "provisioner.openicf-csv.json"], .file (encode emptyDocument))], []⟩

theorem readText_connectorsTree (hx : x = "ldap" ∨ x = "csv") :
    connectorsTree.readText (pathIn "conf" (connectorFile x)) = .ok emptyDocument := by
  have hread : connectorsTree.read (pathIn "conf" (connectorFile x)) =
      .ok (encode emptyDocument) := by
    rcases hx with rfl | rfl <;> rfl
  rw [Tree.readText, hread]
  simp only [bind, Except.bind, decode_encode]

theorem mem_names_connectorsTree (hx : connectorFile x ∈ connectorsTree.names ["conf"]) :
    x = "ldap" ∨ x = "csv" := by
  have hnames : connectorsTree.names ["conf"] =
      ["sync.json", connectorFile "ldap", connectorFile "csv"] := by decide
  have hother : connectorFileMiddle? "sync.json" = none := by decide
  rw [hnames, List.mem_cons, List.mem_pair, connectorFile_inj, connectorFile_inj] at hx
  rcases hx with hx | hx
  · rw [connectorFileMiddle?_eq_some.mpr hx.symm] at hother
    cases hother
  · exact hx

theorem connectors_found_csv_ldap :
    connectorsTree.IsProper ∧ IsPlain "conf" ∧ searchPath connectorsTree "conf" = some "conf" ∧
      connectorsTree.directory? "conf" = some ["conf"] ∧
      ConnectorsFound connectorsTree "conf" "conf" ["conf"] ∧
      (∃ files, discover connectorsTree "conf" = .ok files) ∧
      discover connectorsTree "elsewhere" = .ok [] := by
  have ht : connectorsTree.IsProper := ⟨by decide, by decide⟩
  have hplain : IsPlain "conf" := by decide
  have hsearch : searchPath connectorsTree "conf" = some "conf" := rfl
  have hhere : connectorsTree.directory? "conf" = some ["conf"] := rfl
  have hfound := (connectors_found ht).1 "conf" ["conf"] hsearch hhere
  have helsewhere : searchPath connectorsTree "elsewhere" = none := rfl
  refine ⟨ht, hplain, hsearch, hhere, (connectors_found ht).2.1 ["conf"] hplain hhere,
    hfound.succeeds.mpr fun x hx => ?_,
    (connectors_found ht).2.2 fun here h => nomatch helsewhere.symm.trans h⟩
  have hx : x = "ldap" ∨ x = "csv" := mem_names_connectorsTree hx
  have hname : x ≠ "" := by rcases hx with rfl | rfl <;> decide
  exact ⟨_, hname, [], ⟨emptyDocument, readText_connectorsTree hx, rfl⟩, rfl⟩

end IdentityTypes
