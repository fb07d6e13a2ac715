/-
# Writing a file as a whole

A path leads to the same place in two trees that have the same directories, and a file
that is put where no directory is leaves the directories as they are. So the temporary
file, which gets a name that nothing has, does not change where the path leads, and after
the file is written the path leads to it. What is written is at the destination of the
path and nowhere else (`replaceFile_of_destination`), and where a path has none the tree
stays as it is (`replaceFile_of_none`).

Key definitions: `Tree.Destination`.
Key theorems: `Tree.walk_mono`, `Tree.freshName_notMem`, `Tree.replaceFile_of_destination`,
`Tree.replaceFile_of_none`, `Tree.Destination.read_put`.
-/
import IdentityTypes.Files.Tree
import IdentityTypes.Proofs.Outcomes
import Mathlib.Data.List.Basic

namespace IdentityTypes.Files.Tree

variable {t t' : Tree} {place other here dir : Location} {e : Entry} {path name : String}
  {bytes : List UInt8} {front rest : List String}

/-! ### What is where -/

theorem lookup_filter_ne (h : other ≠ place) : ∀ l : List (Location × Entry),
    (l.filter (·.1 != place)).lookup other = l.lookup other
  | [] => rfl
  | (p, e) :: l => by
    by_cases hp : p = place
    · have hne : (other == p) = false := beq_eq_false_iff_ne.mpr (hp ▸ h)
      simp [hp, List.lookup_cons, hp ▸ hne, lookup_filter_ne h l]
    · simp [hp, List.lookup_cons, lookup_filter_ne h l]

theorem find?_put (h : place ≠ []) : (t.put place e).find? place = some e := by
  simp [find?, put, h]

/-- Elsewhere nothing changes. -/
theorem find?_put_of_ne (h : other ≠ place) : (t.put place e).find? other = t.find? other := by
  simp [find?, put, List.lookup_cons, beq_eq_false_iff_ne.mpr h, lookup_filter_ne h]

theorem find?_eq_none_iff (h : place ≠ []) :
    t.find? place = none ↔ place ∉ t.entries.map (·.1) := by
  rw [find?, if_neg h, List.lookup_eq_none_iff, List.mem_map, not_exists]
  refine forall_congr' fun e => ?_
  rw [bne_iff_ne, not_and]
  exact forall_congr' fun _ => ne_comm

/-- What was put where nothing was can be taken away again. -/
theorem erase_put (h : place ∉ t.entries.map (·.1)) : (t.put place e).erase place = t := by
  have hfilter : t.entries.filter (·.1 != place) = t.entries :=
    List.filter_eq_self.mpr fun a ha => bne_iff_ne.mpr fun he => h (he ▸ List.mem_map_of_mem ha)
  simp [put, erase, hfilter]

theorem isDirectory_nil : t.isDirectory [] = true := by simp [isDirectory, find?]

theorem ne_nil_of_not_isDirectory (h : t.isDirectory place = false) : place ≠ [] := by
  rintro rfl
  rw [isDirectory_nil] at h
  cases h

/-- A file where no directory is leaves the directories as they are. -/
theorem isDirectory_put_file (h : t.isDirectory place = false) (p : Location) :
    (t.put place (.file bytes)).isDirectory p = t.isDirectory p := by
  by_cases hp : p = place
  · subst hp
    rw [h, isDirectory, find?_put (ne_nil_of_not_isDirectory h)]
    rfl
  · rw [isDirectory, find?_put_of_ne hp, isDirectory]

/-! ### A name that nothing has -/

theorem le_foldl_max (l : List String) : ∀ n : Nat,
    n ≤ l.foldl (fun n s => max n s.length) n ∧
      ∀ s ∈ l, s.length ≤ l.foldl (fun n s => max n s.length) n := by
  induction l with
  | nil => exact fun n => ⟨Nat.le_refl n, List.forall_mem_nil _⟩
  | cons s l ih =>
    intro n
    obtain ⟨hn, hl⟩ := ih (max n s.length)
    exact ⟨Nat.le_trans (Nat.le_max_left _ _) hn,
      List.forall_mem_cons.mpr ⟨Nat.le_trans (Nat.le_max_right _ _) hn, hl⟩⟩

/-- Nothing is at the location of a temporary file. -/
theorem freshName_notMem (t : Tree) (dir : Location) :
    dir ++ [t.freshName] ∉ t.entries.map (·.1) := by
  intro hmem
  obtain ⟨a, ha, hplace⟩ := List.mem_map.mp hmem
  have hsegment : t.freshName ∈ t.entries.flatMap (·.1) :=
    List.mem_flatMap.mpr ⟨a, ha, hplace ▸ List.mem_append_right _ List.mem_cons_self⟩
  have hle := (le_foldl_max (t.entries.flatMap (·.1)) 0).2 _ hsegment
  simp only [freshName, String.length_append, String.length_ofList, List.length_replicate] at hle
  have hfour : ".tmp".length = 4 := by decide
  omega

theorem isDirectory_freshName (t : Tree) (dir : Location) :
    t.isDirectory (dir ++ [t.freshName]) = false := by
  have hnone : t.find? (dir ++ [t.freshName]) = none :=
    (find?_eq_none_iff (by simp)).mpr (t.freshName_notMem dir)
  rw [isDirectory, hnone]
  rfl

/-! ### Following a path -/

/-- A walk that arrives at a directory begins at one. -/
theorem isDirectory_of_walk (h : t.walk here front = .ok dir) (hdir : t.isDirectory dir = true) :
    t.isDirectory here = true := by
  cases front with
  | nil =>
    cases h
    exact hdir
  | cons s rest =>
    by_contra hhere
    rw [walk, if_pos (by simpa using hhere)] at h
    cases h

/-- A walk that arrives at a directory passes directories only, and so it is the same
where all these are. -/
theorem walk_mono (hd : ∀ p, t.isDirectory p = true → t'.isDirectory p = true) :
    ∀ {front : List String} {here : Location}, t.walk here front = .ok dir →
      t.isDirectory dir = true → t'.walk here front = .ok dir
  | [], here, h, _ => h
  | s :: rest, here, h, hdir => by
    have hhere := isDirectory_of_walk h hdir
    unfold walk at h ⊢
    rw [if_neg (by simp [hhere])] at h
    rw [if_neg (by simp [hd here hhere])]
    split_ifs at h with hstay hup hlong hfound
    · rw [if_pos hstay]
      exact walk_mono hd h hdir
    · rw [if_neg hstay, if_pos hup]
      exact walk_mono hd h hdir
    · have hnext : t'.isDirectory (here ++ [s]) = true := hd _ (isDirectory_of_walk h hdir)
      have hsome : (t'.find? (here ++ [s])).isSome := by
        rw [beq_iff_eq.mp hnext]
        rfl
      rw [if_neg hstay, if_neg hup, if_neg hlong, if_pos hsome]
      exact walk_mono hd h hdir

/-- A walk goes on from the place that its first part arrives at. -/
theorem walk_append : ∀ {front : List String} {here : Location},
    t.walk here (front ++ rest) = t.walk here front >>= fun p => t.walk p rest
  | [], _ => rfl
  | s :: front, here => by
    rw [List.cons_append, walk, walk]
    split_ifs
    · rfl
    · exact walk_append
    · exact walk_append
    · rfl
    · exact walk_append
    · rfl

/-! ### The destination of a path -/

/-- Where a file with the path is written: the last segment is a name in the directory that
the segments before it lead to, and no directory has this name. -/
structure Destination (t : Tree) (path : String) (place : Location) : Prop where
  usable : pathFault? path = none
  parts : ∃ front name dir, segments path = front ++ [name] ∧ place = dir ++ [name] ∧
    t.walk (t.start path) front = .ok dir ∧ t.isDirectory dir = true ∧
    name ∉ ["", ".", ".."] ∧ name.utf8ByteSize ≤ maxName
  notDirectory : t.isDirectory place = false

/-- The destination depends on the directories alone. -/
theorem Destination.congr (h : t.Destination path place)
    (hd : ∀ p, t'.isDirectory p = t.isDirectory p) (hh : t'.home = t.home) :
    t'.Destination path place where
  usable := h.usable
  parts := by
    obtain ⟨front, name, dir, hs, hp, hw, hdir, hname, hlong⟩ := h.parts
    have hstart : t'.start path = t.start path := by rw [start, start, hh]
    refine ⟨front, name, dir, hs, hp, ?_, by rw [hd, hdir], hname, hlong⟩
    rw [hstart]
    exact walk_mono (fun p hp => (hd p).trans hp) hw hdir
  notDirectory := (hd place).trans h.notDirectory

theorem directoryAt_eq_ok : t.directoryAt here front = .ok dir ↔
    t.walk here front = .ok dir ∧ t.isDirectory dir = true := by
  rw [directoryAt, bind_eq_ok]
  constructor
  · rintro ⟨d, hw, hd⟩
    split_ifs at hd with hdir
    · cases hd
      exact ⟨hw, hdir⟩
  · rintro ⟨hw, hdir⟩
    exact ⟨dir, hw, if_pos hdir⟩

/-- A written path leads to the file that is put at its destination. -/
theorem Destination.read_put (h : t.Destination path place) (bytes : List UInt8) :
    (t.put place (.file bytes)).resolve path = .ok place ∧
      (t.put place (.file bytes)).read path = .ok bytes := by
  have hd : ∀ p, (t.put place (.file bytes)).isDirectory p = t.isDirectory p :=
    isDirectory_put_file h.notDirectory
  have hfile : (t.put place (.file bytes)).find? place = some (.file bytes) :=
    find?_put (ne_nil_of_not_isDirectory h.notDirectory)
  obtain ⟨front, name, dir, hs, rfl, hw, hdir, hname, hlong⟩ := (h.congr hd rfl).parts
  simp only [List.mem_cons, List.not_mem_nil, or_false, not_or] at hname
  have hresolve : (t.put (dir ++ [name]) (.file bytes)).resolve path = .ok (dir ++ [name]) := by
    rw [resolve, h.usable]
    simp only
    rw [hs, walk_append, bind_eq_ok]
    refine ⟨dir, hw, ?_⟩
    rw [walk, if_neg (by simp [hdir]), if_neg (by simp [hname]), if_neg hname.2.2,
      if_neg (by omega), if_pos (by rw [hfile]; rfl), walk]
  refine ⟨hresolve, ?_⟩
  rw [read, hresolve]
  simp only [bind, Except.bind, hfile]

/-! ### Writing the file -/

/-- A file is moved to the destination of the path, and to no other place. -/
theorem rename_eq_ok {source : Location} : t.rename source bytes path = .ok t' ↔
    ∃ place, t.Destination path place ∧ t' = (t.erase source).put place (.file bytes) := by
  constructor
  · intro h
    unfold rename at h
    dsimp only at h
    split at h
    · cases h
    · cases h
    · rename_i last front husable hkept
      obtain ⟨dir, hdir, h⟩ := bind_eq_ok.mp h
      obtain ⟨hw, hd⟩ := directoryAt_eq_ok.mp hdir
      split_ifs at h with hdots hlong hslash hplace
      cases h
      -- no segment was dropped: the path would end with a slash
      obtain ⟨hlast, hs⟩ : last ≠ "" ∧ (segments path).reverse = last :: front := by
        rcases hb : (segments path).reverse with _ | ⟨s, backwards⟩
        · rw [hb] at hkept
          cases hkept
        · have hne : s ≠ "" := fun he => hslash (by rw [hb, he]; rfl)
          rw [hb, List.dropWhile_cons_of_neg (by simpa using hne)] at hkept
          cases hkept
          exact ⟨hne, rfl⟩
      have hs : segments path = front.reverse ++ [last] := by
        rw [← List.reverse_reverse (segments path), hs, List.reverse_cons]
      exact ⟨dir ++ [last],
        { usable := husable
          parts := ⟨front.reverse, last, dir, hs, rfl, hw, hd, by simp_all, by omega⟩
          notDirectory := by simpa using hplace },
        rfl⟩
  · rintro ⟨place, h, rfl⟩
    obtain ⟨front, name, dir, hs, rfl, hw, hdir, hname, hlong⟩ := h.parts
    simp only [List.mem_cons, List.not_mem_nil, or_false, not_or] at hname
    have hbackwards : (segments path).reverse = name :: front.reverse := by simp [hs]
    have hkept : (name :: front.reverse).dropWhile (· = "") = name :: front.reverse := by
      simp [hname]
    unfold rename
    simp only [h.usable, hbackwards, hkept]
    rw [List.reverse_reverse, bind_eq_ok]
    refine ⟨dir, directoryAt_eq_ok.mpr ⟨hw, hdir⟩, ?_⟩
    rw [if_neg (by simp [hname]), if_neg (by omega), if_neg (by simp [hname]),
      if_neg (by simp [h.notDirectory])]

/-- The directory of the destination is the one in which the temporary file is made. -/
theorem Destination.parent (h : t.Destination path place) :
    ∃ dir, t.parent path = .ok dir := by
  obtain ⟨front, name, dir, hs, -, hw, hdir, hname, -⟩ := h.parts
  have hkept : (segments path).reverse.dropWhile (fun s => s = "" || s = ".") =
      name :: front.reverse := by
    rw [hs, List.reverse_append, List.reverse_singleton, List.singleton_append,
      List.dropWhile_cons_of_neg (by simp_all)]
  refine ⟨dir, ?_⟩
  rw [Tree.parent, hkept]
  dsimp only
  rw [List.reverse_reverse, directoryAt_eq_ok]
  exact ⟨hw, hdir⟩

/-- With the temporary file the path has the destination that it has without it. -/
theorem destination_put_freshName :
    (t.put (dir ++ [t.freshName]) (.file bytes)).Destination path place ↔
      t.Destination path place := by
  have hd : ∀ p, (t.put (dir ++ [t.freshName]) (.file bytes)).isDirectory p = t.isDirectory p :=
    isDirectory_put_file (t.isDirectory_freshName dir)
  exact ⟨fun h => h.congr (fun p => (hd p).symm) rfl, fun h => h.congr hd rfl⟩

/-- The file gets to the destination of its path, and nothing else changes. -/
theorem replaceFile_of_destination (h : t.Destination path place) :
    t.replaceFile path bytes = (.ok (), t.put place (.file bytes)) := by
  obtain ⟨dir, hparent⟩ := h.parent
  have hrename : (t.put (dir ++ [t.freshName]) (.file bytes)).rename (dir ++ [t.freshName])
      bytes path = .ok (t.put place (.file bytes)) :=
    rename_eq_ok.mpr ⟨place, destination_put_freshName.mpr h, by
      rw [erase_put (t.freshName_notMem dir)]⟩
  rw [replaceFile, hparent]
  dsimp only
  rw [hrename]

/-- Where a path has no destination nothing changes, and the temporary file is gone. -/
theorem replaceFile_of_none (h : ∀ place, ¬ t.Destination path place) :
    ∃ fault, t.replaceFile path bytes = (.error fault, t) := by
  rw [replaceFile]
  cases hparent : t.parent path with
  | error fault => exact ⟨fault, rfl⟩
  | ok dir =>
    dsimp only
    cases hrename : (t.put (dir ++ [t.freshName]) (.file bytes)).rename (dir ++ [t.freshName])
        bytes path with
    | error fault =>
      refine ⟨fault, ?_⟩
      dsimp only
      rw [erase_put (t.freshName_notMem dir)]
    | ok moved =>
      obtain ⟨place, hplace, -⟩ := rename_eq_ok.mp hrename
      exact absurd (destination_put_freshName.mp hplace) (h place)

end IdentityTypes.Files.Tree
