/-
# Records are read whatever their layout

The members of a record may stand in any order, with members among them that the record does
not know. What the reader has made of the record at any time depends only on which of its
members were read by then. So it is described by one function of their names, the record as
far as these names go, and every reader of a member takes this function one name further
(`Field.Settled`). In the end the names are those of all members that are given.

Key definitions: `NotGiven`, `GivenOnce`, `Laid`, `Tolerates`, `Field.Settled`,
`Field.Pending`, `Record.namesIn`, `Record.known`, `ObjectAs`, `ListAs`, `MapAs`, `orNull`.
Key theorems: `Record.readMembers_pending`, `Record.read_settled`, `Laid.settled`,
`ObjectAs.read`, `ListAs.readList`, `MapAs.readMap`, `readNullable_orNull`.
-/
import IdentityTypes.Json.Reader
import IdentityTypes.Proofs.Outcomes
import Mathlib.Data.List.Basic

namespace IdentityTypes.Json

/-! ### Layouts -/

/-- A key is given nowhere. -/
def NotGiven (ms : List (Option String × Node)) (key : String) : Prop := ∀ m ∈ ms, m.1 ≠ some key

/-- A key is given once, and with this node. -/
def GivenOnce (ms : List (Option String × Node)) (key : String) (n : Node) : Prop :=
  ms.filter (·.1 = some key) = [(some key, n)]

/-- A key is left out, if it may be, or given once with a node that it may have. -/
inductive Laid (ms : List (Option String × Node)) (key : String) (omissible : Prop)
    (node : Node → Prop) : Prop
  | omitted (hms : NotGiven ms key) (h : omissible)
  | given {n : Node} (hms : GivenOnce ms key n) (h : node n)

/-- Every key is a text, and what is given for a key beside the names is whole. -/
def Tolerates (names : List String) (ms : List (Option String × Node)) : Prop :=
  ∀ m ∈ ms, ∃ key, m.1 = some key ∧ (key ∈ names ∨ m.2.tolerable = true)

/-- An object with the names of its members, of which the members are as `laid` says, where
`depth` levels are left. -/
def ObjectAs (depth : Nat) (names : List String) (laid : List (Option String × Node) → Prop)
    (n : Node) : Prop :=
  depth ≠ 0 ∧ ∃ ms, n = .object ms true ∧ Tolerates names ms ∧ laid ms

/-- An array of items, where `depth` levels are left. -/
def ListAs {α : Type} (depth : Nat) (item : α → Node → Prop) (xs : List α) (n : Node) : Prop :=
  depth ≠ 0 ∧ ∃ ns, n = .array ns true ∧ List.Forall₂ item xs ns

/-- An object of entries, in their order, where `depth` levels are left. -/
def MapAs {α : Type} (depth : Nat) (entry : α → Node → Prop) (xs : List (String × α)) (n : Node) :
    Prop :=
  depth ≠ 0 ∧ ∃ ms, n = .object ms true ∧
    List.Forall₂ (fun x m => m.1 = some x.1 ∧ entry x.2 m.2) xs ms

/-- A string. -/
def textAs (text : String) (n : Node) : Prop := n = .string (some text)

/-- Null stands for nothing, and for something what `node` says. -/
def orNull {α : Type} (node : α → Node → Prop) : Option α → Node → Prop
  | none, n => n = .null
  | some a, n => node a n

/-! ### Members -/

section

variable {ms : List (Option String × Node)} {key k : String} {n n' : Node}

theorem GivenOnce.not_notGiven (h : GivenOnce ms key n) : ¬ NotGiven ms key := by
  intro hnot
  have hmem : (some key, n) ∈ ms.filter (·.1 = some key) := h ▸ List.mem_singleton_self _
  exact hnot _ (List.mem_filter.mp hmem).1 rfl

theorem notGiven_cons : NotGiven ((some k, n) :: ms) key ↔ k ≠ key ∧ NotGiven ms key := by
  simp [NotGiven]

theorem givenOnce_cons_ne (hk : k ≠ key) :
    GivenOnce ((some k, n') :: ms) key n ↔ GivenOnce ms key n := by
  rw [GivenOnce, List.filter_cons_of_neg (by simpa using hk), GivenOnce]

theorem GivenOnce.of_cons_eq (h : GivenOnce ((some key, n') :: ms) key n) :
    n' = n ∧ NotGiven ms key := by
  rw [GivenOnce, List.filter_cons_of_pos (by simp)] at h
  obtain ⟨hn, hms⟩ := List.cons.inj h
  exact ⟨(Prod.mk.inj hn).2, fun m hm => by simpa using List.filter_eq_nil_iff.mp hms m hm⟩

end

/-! ### Records -/

section

variable {σ α : Type} {state : List String → σ} {ms : List (Option String × Node)}

/-- A field is left out, if it may be, or given once with a node that takes the record one
name further. -/
def Field.Settled (f : Field σ) (state : List String → σ) (ms : List (Option String × Node)) :
    Prop :=
  Laid ms f.name (f.absence ≠ .mandatory) fun n =>
    ∀ seen, f.read n (state seen) = .ok (state (f.name :: seen))

/-- A field is read by now and not given again, or it is settled by the members to come. -/
def Field.Pending (f : Field σ) (state : List String → σ) (seen : List String)
    (ms : List (Option String × Node)) : Prop :=
  f.name ∈ seen ∧ NotGiven ms f.name ∨ f.name ∉ seen ∧ f.Settled state ms

theorem Field.Pending.tail {f : Field σ} {seen : List String} {key : String} {n : Node}
    (h : f.Pending state seen ((some key, n) :: ms)) (hne : key ≠ f.name) :
    f.Pending state seen ms := by
  obtain ⟨hseen, hnot⟩ | ⟨hseen, hsettled⟩ := h
  · exact .inl ⟨hseen, (notGiven_cons.mp hnot).2⟩
  · refine .inr ⟨hseen, ?_⟩
    cases hsettled with
    | omitted hnot habsence => exact .omitted (notGiven_cons.mp hnot).2 habsence
    | given honce hread => exact .given ((givenOnce_cons_ne hne).mp honce) hread

/-- A field that is given now is read now, and given nowhere else. -/
theorem Field.Pending.given {f : Field σ} {seen : List String} {n : Node}
    (h : f.Pending state seen ((some f.name, n) :: ms)) :
    f.name ∉ seen ∧ NotGiven ms f.name ∧
      ∀ seen, f.read n (state seen) = .ok (state (f.name :: seen)) := by
  obtain ⟨-, hnot⟩ | ⟨hseen, hsettled⟩ := h
  · exact absurd rfl (notGiven_cons.mp hnot).1
  · cases hsettled with
    | omitted hnot => exact absurd rfl (notGiven_cons.mp hnot).1
    | given honce hread =>
      obtain ⟨rfl, hnot⟩ := honce.of_cons_eq
      exact ⟨hseen, hnot, hread⟩

/-- Once a field is read, the others wait as before. -/
theorem Field.Pending.seen {f f' : Field σ} {seen : List String} {n : Node}
    (hf : f.Pending state seen ((some f.name, n) :: ms))
    (h : f'.Pending state seen ((some f.name, n) :: ms)) :
    f'.Pending state (f.name :: seen) ms := by
  by_cases he : f.name = f'.name
  · exact .inl ⟨he ▸ List.mem_cons_self, he ▸ hf.given.2.1⟩
  · simpa [Field.Pending, Ne.symm he] using h.tail he

theorem Laid.settled {name : String} {absence : Absence} {omissible : Prop} {node : Node → Prop}
    {read : Node → Except Fault α} {set : α → σ → σ} {x : α} (h : Laid ms name omissible node)
    (habsence : omissible → absence ≠ .mandatory) (hread : ∀ n, node n → read n = .ok x)
    (hset : ∀ seen, set x (state seen) = state (name :: seen)) :
    (Field.of name absence read set).Settled state ms := by
  cases h with
  | omitted hms h => exact .omitted hms (habsence h)
  | given hms h =>
    refine .given hms fun seen => ?_
    show (read _).map (set · (state seen)) = _
    rw [hread _ h, Except.map, hset]
    rfl

namespace Record

variable {r : Record σ}

/-- The names of the members that are given, the last one first. -/
def namesIn (r : Record σ) (ms : List (Option String × Node)) : List String :=
  ((ms.filterMap (·.1)).filter fun key => r.fields.any (·.name = key)).reverse

theorem mem_namesIn {name : String} (h : name ∈ r.fields.map (·.name)) :
    name ∈ r.namesIn ms ↔ ¬ NotGiven ms name := by
  have hknown : r.fields.any (·.name = name) = true := by simpa using h
  simp [namesIn, NotGiven, hknown]

theorem namesIn_cons_unknown {key : String} {n : Node}
    (h : r.fields.find? (·.name = key) = none) :
    r.namesIn ((some key, n) :: ms) = r.namesIn ms := by
  have hany : r.fields.any (·.name = key) = false := by simpa using h
  simp [namesIn, hany]

theorem namesIn_cons_known {f : Field σ} {n : Node} (hf : f ∈ r.fields) :
    r.namesIn ((some f.name, n) :: ms) = r.namesIn ms ++ [f.name] := by
  have hany : r.fields.any (·.name = f.name) = true :=
    List.any_eq_true.mpr ⟨f, hf, by simp⟩
  simp [namesIn, hany]

/-- The members take the record as far as their names go. -/
theorem readMembers_pending : ∀ {ms : List (Option String × Node)} {seen : List String},
    Tolerates (r.fields.map (·.name)) ms → (∀ f ∈ r.fields, f.Pending state seen ms) →
      r.readMembers seen (state seen) ms =
        .ok (r.namesIn ms ++ seen, state (r.namesIn ms ++ seen))
  | [], seen, _, _ => by
    rw [readMembers]
    rfl
  | (none, n) :: ms, seen, hms, _ => by
    obtain ⟨key, hkey, -⟩ := hms _ List.mem_cons_self
    cases hkey
  | (some key, n) :: ms, seen, hms, h => by
    have htail : Tolerates (r.fields.map (·.name)) ms :=
      fun m hm => hms m (List.mem_cons_of_mem _ hm)
    rw [readMembers]
    cases hfind : r.fields.find? (·.name = key) with
    | none =>
      have hkey := List.find?_eq_none.mp hfind
      obtain ⟨key', hkey', hn⟩ := hms _ List.mem_cons_self
      cases hkey'
      have htolerable : n.tolerable = true := hn.resolve_left (by simpa using hkey)
      dsimp only
      rw [if_pos htolerable, namesIn_cons_unknown hfind]
      exact readMembers_pending htail fun f hf =>
        (h f hf).tail fun he => hkey f hf (by simp [he])
    | some f =>
      have hf : f ∈ r.fields := List.mem_of_find?_eq_some hfind
      obtain rfl : f.name = key := by simpa using List.find?_some hfind
      obtain ⟨hseen, -, hread⟩ := (h f hf).given
      dsimp only
      rw [if_neg (by simpa using hseen), hread seen, namesIn_cons_known hf]
      simp only [bind, Except.bind, List.append_assoc, List.singleton_append,
        readMembers_pending htail fun f' hf' => (h f hf).seen (h f' hf')]

/-- A record is read from its members, in whatever order they stand. -/
theorem read_settled {depth : Nat} (hdepth : depth ≠ 0) (hstate : state [] = r.blank)
    (hms : Tolerates (r.fields.map (·.name)) ms) (h : ∀ f ∈ r.fields, f.Settled state ms) :
    r.read depth (.object ms true) = .ok (state (r.namesIn ms)) := by
  have hpending : ∀ f ∈ r.fields, f.Pending state [] ms :=
    fun f hf => .inr ⟨List.not_mem_nil, h f hf⟩
  have hmembers := readMembers_pending hms hpending
  rw [hstate, List.append_nil] at hmembers
  have hmissing : r.fields.find?
      (fun f => f.absence = .mandatory && !(r.namesIn ms).contains f.name) = none := by
    refine List.find?_eq_none.mpr fun f hf => ?_
    cases h f hf with
    | omitted hnot habsence => simp [habsence]
    | given honce hread =>
      simp [(mem_namesIn (List.mem_map_of_mem hf)).mpr honce.not_notGiven]
  simp only [read, Node.entering, if_neg hdepth, bind, Except.bind, hmembers, Node.closing,
    if_true, hmissing]
  rfl

/-- What a record has for a name is known once the name is read, and blank until then. -/
def known {α : Type} (seen : List String) (name : String) (x blank : α) : α :=
  if name ∈ seen then x else blank

/-- In the end everything is known, if what is left out is blank anyway. -/
theorem known_of_laid {name : String} (hname : name ∈ r.fields.map (·.name))
    {omissible : Prop} {node : Node → Prop} {x blank : α} (h : Laid ms name omissible node)
    (hblank : omissible → x = blank) : known (r.namesIn ms) name x blank = x := by
  cases h with
  | omitted hms hx => rw [hblank hx, known, ite_self]
  | given hms _ => exact if_pos ((mem_namesIn hname).mpr hms.not_notGiven)

end Record

end

/-! ### Objects, lists and maps -/

section

variable {α σ : Type} {depth : Nat} {n : Node}

/-- A record is read from an object with its names. -/
theorem ObjectAs.read {names : List String} {laid : List (Option String × Node) → Prop}
    (r : Record σ) (state : List String → σ) (h : ObjectAs depth names laid n)
    (hnames : r.fields.map (·.name) = names) (hstate : state [] = r.blank)
    (hfields : ∀ ms, laid ms → ∀ f ∈ r.fields, f.Settled state ms) :
    ∃ ms, laid ms ∧ r.read depth n = .ok (state (r.namesIn ms)) := by
  obtain ⟨hdepth, ms, rfl, hms, hlaid⟩ := h
  exact ⟨ms, hlaid, r.read_settled hdepth hstate (hnames ▸ hms) (hfields ms hlaid)⟩

theorem ObjectAs.ne_null {names : List String} {laid : List (Option String × Node) → Prop}
    (h : ObjectAs depth names laid n) : n ≠ .null := by
  obtain ⟨-, ms, rfl, -⟩ := h
  exact nofun

theorem readNullable_orNull {node : α → Node → Prop} {read : Node → Except Fault α} {x : Option α}
    (h : orNull node x n) (hread : ∀ a, x = some a → node a n → n ≠ .null ∧ read n = .ok a) :
    n.readNullable read = .ok x := by
  cases x with
  | none =>
    obtain rfl : n = .null := h
    rfl
  | some a =>
    obtain ⟨hn, hread⟩ := hread a rfl h
    rw [Node.readNullable.eq_2 _ _ hn, hread]
    rfl

theorem mapM_eq_ok {item : α → Node → Prop} {read : Node → Except Fault α} :
    ∀ {xs : List α} {ns : List Node}, List.Forall₂ item xs ns →
      (∀ x ∈ xs, ∀ n, item x n → read n = .ok x) → ns.mapM read = .ok xs
  | [], [], _, _ => rfl
  | x :: xs, n :: ns, .cons hx hxs, h => by
    obtain ⟨hread, hreads⟩ := List.forall_mem_cons.mp h
    rw [List.mapM_cons, hread n hx, mapM_eq_ok hxs hreads]
    rfl

/-- A list is read item by item. -/
theorem ListAs.readList {item : α → Node → Prop} {read : Node → Except Fault α} {xs : List α}
    (h : ListAs depth item xs n) (hread : ∀ x ∈ xs, ∀ n, item x n → read n = .ok x) :
    Node.readList depth read n = .ok xs := by
  obtain ⟨hdepth, ns, rfl, hitems⟩ := h
  simp only [Node.readList, Node.entering, if_neg hdepth, bind, Except.bind,
    mapM_eq_ok hitems hread, Node.closing, if_true]
  rfl

/-- A key that is new comes last. -/
theorem put_eq_append {key : String} {x : α} : ∀ {xs : List (String × α)},
    key ∉ xs.map (·.1) → put key x xs = xs ++ [(key, x)]
  | [], _ => rfl
  | (k, y) :: xs, h => by
    have hk : k ≠ key := fun he => h (he ▸ List.mem_cons_self)
    rw [put, if_neg hk, put_eq_append (List.not_mem_of_not_mem_cons h), List.cons_append]

theorem readEntries_append {entry : α → Node → Prop} {read : Node → Except Fault α} :
    ∀ {xs entries : List (String × α)} {ms : List (Option String × Node)},
      List.Forall₂ (fun x m => m.1 = some x.1 ∧ entry x.2 m.2) xs ms →
      (∀ x ∈ xs, ∀ n, entry x.2 n → read n = .ok x.2) → ((entries ++ xs).map (·.1)).Nodup →
        readEntries read entries ms = .ok (entries ++ xs)
  | [], entries, [], _, _, _ => by rw [readEntries, List.append_nil]
  | (key, x) :: xs, entries, (_, n) :: ms, .cons ⟨rfl, hx⟩ hxs, h, hnodup => by
    obtain ⟨hread, hreads⟩ := List.forall_mem_cons.mp h
    have hkey : key ∉ entries.map (·.1) := by
      rw [List.map_append, List.nodup_append] at hnodup
      exact fun hmem => hnodup.2.2 _ hmem _ List.mem_cons_self rfl
    have happend : entries ++ (key, x) :: xs = entries ++ [(key, x)] ++ xs := by simp
    rw [happend] at hnodup ⊢
    rw [readEntries, hread n hx]
    simp only [bind, Except.bind, put_eq_append hkey]
    exact readEntries_append hxs hreads hnodup

/-- A map whose keys differ is read entry by entry. -/
theorem MapAs.readMap {entry : α → Node → Prop} {read : Node → Except Fault α}
    {xs : List (String × α)} (h : MapAs depth entry xs n) (hnodup : (xs.map (·.1)).Nodup)
    (hread : ∀ x ∈ xs, ∀ n, entry x.2 n → read n = .ok x.2) :
    Node.readMap depth read n = .ok xs := by
  obtain ⟨hdepth, ms, rfl, hentries⟩ := h
  have hread : readEntries read [] ms = .ok ([] ++ xs) := readEntries_append hentries hread hnodup
  simp only [Node.readMap, Node.entering, if_neg hdepth, bind, Except.bind, hread,
    Node.closing, if_true]
  rfl

end

end IdentityTypes.Json
