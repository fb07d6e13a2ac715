/-
# What is read has distinct names

A document may give a key of a map several times. The map that is read has every key once,
because a key that comes again takes the place that it has. So in every schema that is read,
however deep it is nested, the names of the properties differ. A record keeps what each of
its members keeps, whether it is read from an object or from an array, and of the members of
a schema only two have to be looked at.

Key definitions: `Json.Keeps`.
Key theorems: `Json.readMap_eq_ok`, `Json.Record.keeps_read`, `Schema.namesDiffer_of_read`,
`namesDiffer_of_readManaged`, `namesDiffer_of_readObjectTypes`.
-/
import IdentityTypes.Proofs.Schema.Layout

namespace IdentityTypes

namespace Json

/-! ### Maps -/

section

variable {α : Type} {key : String} {value : α} {entries : List (String × α)}

theorem mem_put {x : String × α} : x ∈ put key value entries → x = (key, value) ∨ x ∈ entries := by
  induction entries with
  | nil => exact fun h => .inl (List.mem_singleton.mp h)
  | cons e entries ih =>
    intro h
    unfold put at h
    split at h
    · exact (List.mem_cons.mp h).imp_right (List.mem_cons_of_mem _)
    · rcases List.mem_cons.mp h with rfl | h
      · exact .inr List.mem_cons_self
      · exact (ih h).imp_right (List.mem_cons_of_mem _)

/-- A key that is put into a map is there once, whether it is new or not. -/
theorem nodup_put (h : (entries.map (·.1)).Nodup) : ((put key value entries).map (·.1)).Nodup := by
  induction entries with
  | nil => exact List.nodup_cons.mpr ⟨List.not_mem_nil, List.nodup_nil⟩
  | cons e entries ih =>
    obtain ⟨hnew, hrest⟩ := List.nodup_cons.mp h
    unfold put
    split
    · rename_i hkey
      exact List.nodup_cons.mpr ⟨hkey ▸ hnew, hrest⟩
    · rename_i hkey
      refine List.nodup_cons.mpr ⟨fun hmem => ?_, ih hrest⟩
      obtain ⟨x, hx, hname⟩ := List.mem_map.mp hmem
      rcases mem_put hx with rfl | hx
      · exact hkey hname.symm
      · exact hnew (List.mem_map.mpr ⟨x, hx, hname⟩)

end

section

variable {α : Type} {depth : Nat} {n : Node} {P : α → Prop} {value : Node → Except Fault α}

theorem readEntries_eq_ok (hvalue : ∀ n a, value n = .ok a → P a) :
    ∀ {ms : List (Option String × Node)} {entries r : List (String × α)},
      readEntries value entries ms = .ok r → (entries.map (·.1)).Nodup → (∀ e ∈ entries, P e.2) →
        (r.map (·.1)).Nodup ∧ ∀ e ∈ r, P e.2
  | [], entries, r, h, hnodup, hP => by
    obtain rfl : entries = r := Except.ok.inj h
    exact ⟨hnodup, hP⟩
  | (none, _) :: _, _, _, h, _, _ => nomatch h
  | (some key, n) :: ms, entries, r, h, hnodup, hP => by
    obtain ⟨a, ha, h⟩ := bind_eq_ok.mp h
    refine readEntries_eq_ok hvalue h (nodup_put hnodup) fun e he => ?_
    rcases mem_put he with rfl | he
    · exact hvalue n a ha
    · exact hP e he

/-- The keys of a map that is read differ, and its values are read one by one. -/
theorem readMap_eq_ok (hvalue : ∀ n a, value n = .ok a → P a) {r : List (String × α)}
    (h : Node.readMap depth value n = .ok r) : (r.map (·.1)).Nodup ∧ ∀ e ∈ r, P e.2 := by
  unfold Node.readMap at h
  split at h
  · obtain ⟨_, -, h⟩ := bind_eq_ok.mp h
    obtain ⟨entries, hentries, h⟩ := bind_eq_ok.mp h
    obtain ⟨_, -, h⟩ := bind_eq_ok.mp h
    cases h
    exact readEntries_eq_ok hvalue hentries List.nodup_nil (List.forall_mem_nil _)
  · cases h

/-- The items of a list are read one by one. -/
theorem forall_of_mapM (hitem : ∀ n a, value n = .ok a → P a) :
    ∀ {ns : List Node} {r : List α}, ns.mapM value = .ok r → ∀ a ∈ r, P a
  | [], r, h => by
    cases h
    exact List.forall_mem_nil _
  | n :: ns, r, h => by
    rw [List.mapM_cons] at h
    obtain ⟨a, ha, h⟩ := bind_eq_ok.mp h
    obtain ⟨as, has, h⟩ := bind_eq_ok.mp h
    cases h
    exact List.forall_mem_cons.mpr ⟨hitem n a ha, forall_of_mapM hitem has⟩

theorem readList_eq_ok (hitem : ∀ n a, value n = .ok a → P a) {r : List α}
    (h : Node.readList depth value n = .ok r) : ∀ a ∈ r, P a := by
  unfold Node.readList at h
  split at h
  · obtain ⟨_, -, h⟩ := bind_eq_ok.mp h
    obtain ⟨as, has, h⟩ := bind_eq_ok.mp h
    obtain ⟨_, -, h⟩ := bind_eq_ok.mp h
    cases h
    exact forall_of_mapM hitem has
  · cases h

theorem readNullable_eq_ok (hvalue : ∀ n a, value n = .ok a → P a) {r : Option α}
    (h : n.readNullable value = .ok r) : ∀ a ∈ r, P a := by
  unfold Node.readNullable at h
  split at h
  · cases h
    exact fun _ ha => nomatch ha
  · obtain ⟨a, ha, rfl⟩ := map_eq_ok.mp h
    rintro b hb
    cases hb
    exact hvalue _ a ha

end

/-! ### Records -/

section

variable {σ α : Type} {I : σ → Prop}

/-- Reading the member keeps what is said of the record. -/
def Keeps (I : σ → Prop) (f : Field σ) : Prop :=
  ∀ (n : Node) (s s' : σ), I s → f.read n s = .ok s' → I s'

theorem keeps_of {P : α → Prop} {name : String} {absence : Absence} {read : Node → Except Fault α}
    {set : α → σ → σ} (hread : ∀ n a, read n = .ok a → P a)
    (hset : ∀ (a : α) (s : σ), P a → I s → I (set a s)) :
    Keeps I (.of name absence read set) := by
  intro n s s' hs h
  obtain ⟨a, ha, rfl⟩ := map_eq_ok.mp h
  exact hset a s (hread n a ha) hs

/-- A member about which nothing is said. -/
theorem keeps_of_set {name : String} {absence : Absence} {read : Node → Except Fault α}
    {set : α → σ → σ} (hset : ∀ (a : α) (s : σ), I s → I (set a s)) :
    Keeps I (.of name absence read set) :=
  keeps_of (P := fun _ => True) (fun _ _ _ => trivial) fun a s _ => hset a s

namespace Record

variable {r : Record σ}

theorem keeps_readMembers (hf : ∀ f ∈ r.fields, Keeps I f) :
    ∀ {ms : List (Option String × Node)} {seen : List String} {s : σ} {x : List String × σ},
      I s → r.readMembers seen s ms = .ok x → I x.2
  | [], _, _, _, hs, h => by
    cases h
    exact hs
  | (none, _) :: _, _, _, _, _, h => nomatch h
  | (some key, n) :: ms, seen, s, x, hs, h => by
    rw [readMembers] at h
    split at h
    · split at h
      · exact keeps_readMembers hf hs h
      · cases h
    · rename_i f hfind
      split at h
      · cases h
      · obtain ⟨s', hs', h⟩ := bind_eq_ok.mp h
        exact keeps_readMembers hf (hf f (List.mem_of_find?_eq_some hfind) n s s' hs hs') h

theorem keeps_readItems {closed : Bool} : ∀ {fs : List (Field σ)} {i : Nat} {s s' : σ}
    {ns : List Node}, (∀ f ∈ fs, Keeps I f) → I s → r.readItems closed i s fs ns = .ok s' →
      I s'
  | [], _, _, _, [], _, hs, h => by
    rw [readItems] at h
    split at h <;> cases h
    exact hs
  | [], _, _, _, _ :: _, _, _, h => nomatch h
  | f :: fs, i, s, s', [], hf, hs, h => by
    rw [readItems] at h
    split at h
    · cases h
    · split at h
      · exact keeps_readItems (List.forall_mem_cons.mp hf).2 hs h
      · cases h
  | f :: fs, i, s, s', n :: ns, hf, hs, h => by
    obtain ⟨hfirst, hrest⟩ := List.forall_mem_cons.mp hf
    obtain ⟨t, ht, h⟩ := bind_eq_ok.mp h
    exact keeps_readItems hrest (hfirst n s t hs ht) h

/-- What is true of the blank record and kept by each member is true of what is read. -/
theorem keeps_read (hblank : I r.blank) (hf : ∀ f ∈ r.fields, Keeps I f) {depth : Nat}
    {n : Node} {s : σ} (h : r.read depth n = .ok s) : I s := by
  unfold read at h
  split at h
  · obtain ⟨_, -, h⟩ := bind_eq_ok.mp h
    obtain ⟨x, hx, h⟩ := bind_eq_ok.mp h
    obtain ⟨_, -, h⟩ := bind_eq_ok.mp h
    have hx' := keeps_readMembers hf hblank hx
    split at h <;> cases h
    exact hx'
  · obtain ⟨_, -, h⟩ := bind_eq_ok.mp h
    exact keeps_readItems hf hblank h
  · cases h

end Record

end

/-- A document that is read is read with all levels. -/
theorem exists_of_readText {α : Type} {read : Nat → Node → Except Fault α} {text : String} {a : α}
    (h : readText read text = .ok a) : ∃ n, read maxDepth n = .ok a := by
  obtain ⟨a', ha', h⟩ := bind_eq_ok.mp h
  obtain ⟨_, -, h⟩ := bind_eq_ok.mp h
  cases h
  exact ⟨_, ha'⟩

end Json

open Json

/-! ### Schemas -/

namespace Schema

theorem namesDiffer_blank : ({} : Schema).NamesDiffer :=
  .mk List.nodup_nil (List.forall_mem_nil _) fun _ hi => nomatch hi

theorem NamesDiffer.setProperties {s : Schema} (hs : s.NamesDiffer)
    {properties : List (String × Schema)}
    (h : (properties.map (·.1)).Nodup ∧ ∀ p ∈ properties, p.2.NamesDiffer) :
    ({ s with properties } : Schema).NamesDiffer := by
  obtain ⟨-, -, hitems⟩ := hs
  exact ⟨h.1, h.2, hitems⟩

theorem NamesDiffer.setItems {s : Schema} (hs : s.NamesDiffer) {items : Option Schema}
    (h : ∀ i ∈ items, i.NamesDiffer) : ({ s with items } : Schema).NamesDiffer := by
  obtain ⟨hnames, hproperties, -⟩ := hs
  exact ⟨hnames, hproperties, h⟩

/-- A schema is read with different names, if the schemas inside it are. -/
theorem namesDiffer_of_record {depth levels : Nat} {item property : Node → Except Fault Schema}
    (hitem : ∀ n s, item n = .ok s → s.NamesDiffer)
    (hproperty : ∀ n s, property n = .ok s → s.NamesDiffer) {n : Node} {s : Schema}
    (h : (record depth item property).read levels n = .ok s) : s.NamesDiffer := by
  have hother : ∀ {s t : Schema}, s.NamesDiffer → t.properties = s.properties →
      t.items = s.items → t.NamesDiffer := by
    rintro s t ⟨hnames, hproperties, hitems⟩ hp hi
    exact .mk (hp ▸ hnames) (hp ▸ hproperties) (hi ▸ hitems)
  refine Record.keeps_read namesDiffer_blank ?_ h
  simp only [record, List.forall_mem_cons]
  refine ⟨?type, ?title, ?description, ?properties, ?required, ?items, ?collections,
    ?returnByDefault, List.forall_mem_nil _⟩
  case properties =>
    exact keeps_of (fun _ _ h => readMap_eq_ok hproperty h) fun _ _ h hs => hs.setProperties h
  case items => exact keeps_of (fun _ _ h => readNullable_eq_ok hitem h) fun _ _ h hs => hs.setItems h
  all_goals exact keeps_of_set fun _ _ hs => hother hs rfl rfl

/-- The names of the properties differ in every schema that is read, and in the schemas
inside it. -/
theorem namesDiffer_of_read : ∀ {depth : Nat} {n : Node} {s : Schema},
    read depth n = .ok s → s.NamesDiffer
  | 0, _, _, h => namesDiffer_of_record (fun _ _ h => by cases h) (fun _ _ h => by cases h) h
  | 1, _, _, h =>
    namesDiffer_of_record (fun _ _ => namesDiffer_of_read) (fun _ _ h => by cases h) h
  | _ + 2, _, _, h =>
    namesDiffer_of_record (fun _ _ => namesDiffer_of_read) (fun _ _ => namesDiffer_of_read) h

end Schema

/-! ### Documents -/

theorem ManagedObject.namesDiffer_of_record {depth levels : Nat} {n : Node} {o : ManagedObject}
    (h : (ManagedObject.record depth).read levels n = .ok o) : o.schema.NamesDiffer := by
  refine Record.keeps_read (I := fun o : ManagedObject => o.schema.NamesDiffer)
    Schema.namesDiffer_blank ?_ h
  simp only [ManagedObject.record, List.forall_mem_cons]
  refine ⟨keeps_of_set fun _ _ h => h, ?_, List.forall_mem_nil _⟩
  exact keeps_of (fun _ _ h => Schema.namesDiffer_of_read h) fun _ _ h _ => h

/-- In the schemas of managed objects names differ, whatever the document. -/
theorem namesDiffer_of_readManaged {text : String} {objects : List ManagedObject}
    (h : readManaged text = .ok objects) : ∀ o ∈ objects, o.schema.NamesDiffer := by
  obtain ⟨n, hn⟩ := exists_of_readText h
  refine Record.keeps_read (I := fun objects : List ManagedObject =>
    ∀ o ∈ objects, o.schema.NamesDiffer) (List.forall_mem_nil _) ?_ hn
  refine List.forall_mem_singleton.mpr (keeps_of (fun _ _ h => ?_) fun _ _ h _ => h)
  exact readList_eq_ok (fun _ _ h => ManagedObject.namesDiffer_of_record h) h

/-- The object types of a connector have different names, and so have their properties. -/
theorem namesDiffer_of_readObjectTypes {text : String} {types : List (String × Schema)}
    (h : readObjectTypes text = .ok types) :
    (types.map (·.1)).Nodup ∧ ∀ t ∈ types, t.2.NamesDiffer := by
  obtain ⟨n, hn⟩ := exists_of_readText h
  have hblank : (([] : List (String × Schema)).map (·.1)).Nodup ∧
      ∀ t ∈ ([] : List (String × Schema)), t.2.NamesDiffer :=
    ⟨List.nodup_nil, List.forall_mem_nil _⟩
  refine Record.keeps_read (I := fun types : List (String × Schema) =>
    (types.map (·.1)).Nodup ∧ ∀ t ∈ types, t.2.NamesDiffer) hblank ?_ hn
  refine List.forall_mem_singleton.mpr (keeps_of (fun _ _ h => ?_) fun _ _ h _ => h)
  exact readMap_eq_ok (fun _ _ h => Schema.namesDiffer_of_read h) h

end IdentityTypes
