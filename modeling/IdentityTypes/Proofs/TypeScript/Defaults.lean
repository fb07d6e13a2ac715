/-
# What reads return by default

Reads of a managed object return a property by default if its schema says so, and if it says
nothing, unless the property is a link or a list of links. Whether it is one is decided by
the first tag of its type and that of its items, while its type is inferred from the whole
union and from items at any depth. Of schemas that are accepted both tell the same
(`Schema.TellsLink`), and so the names in the module can be told from the schema alone.

The text of a type shows links too: only references are written with `ReferenceType` in
front, and behind their last angle bracket stand nothing but the arrays around them and null.

Key definitions: `Schema.IsLink`, `Schema.IsReturned`, `Schema.returnedKeys`,
`Schema.TellsLink`, `IsLinkText`, `TypeScript.ReadsByDefault`.
Key theorems: `tellsLink_invariant`, `Schema.TellsLink.isLink_of_text`,
`TypeScript.reads_by_default`.
-/
import IdentityTypes.Proofs.Catalog.Links
import IdentityTypes.Proofs.Relationships
import IdentityTypes.Proofs.TypeScript.ReadBack

namespace IdentityTypes

/-! ### What a schema says -/

namespace Schema

/-- Values are links to other resources, or lists of such. -/
def IsLink (s : Schema) : Prop :=
  IsOf s.type "relationship" ∨
    IsOf s.type "array" ∧ ∃ item ∈ s.items, IsOf item.type "relationship"

instance (s : Schema) : Decidable s.IsLink :=
  inferInstanceAs (Decidable (_ ∨ _ ∧ ∃ item ∈ s.items, IsOf item.type "relationship"))

/-- Reads return the property that has the schema. -/
def IsReturned (s : Schema) : Prop :=
  s.returnByDefault = some true ∨ s.returnByDefault = none ∧ ¬ s.IsLink

instance (s : Schema) : Decidable s.IsReturned :=
  inferInstanceAs (Decidable (_ ∨ _ ∧ ¬ s.IsLink))

/-- The names of the properties that reads return, in order. -/
def returnedKeys (s : Schema) : List String :=
  (s.properties.filter fun p => p.2.IsReturned).map (·.1)

section

variable {s : Schema} {k : SchemaKind} {nullable : Bool}

theorem tag_of_isOf {tag : String} (h : IsOf s.type tag) : s.tag = some tag := by
  rcases h with h | h <;> simp [Schema.tag, h]

/-- The first tag of a type that has a kind is the tag of the type. -/
theorem HasKind.tag_beq_iff (h : s.HasKind k nullable) {tag : String} :
    (s.tag == some tag) = true ↔ IsOf s.type tag := by
  obtain ⟨t, -, htype⟩ := h.isOf
  rw [tag_of_isOf htype, beq_iff_eq, Option.some.injEq]
  exact ⟨fun he => he ▸ htype, fun h' => htype.unique h'⟩

/-- Links are found by first tags, if this holds of the items of an array. -/
theorem HasKind.isLink_iff (h : s.HasKind k nullable)
    (hitem : IsOf s.type "array" → ∀ item ∈ s.items,
      (item.isRelationship = true ↔ IsOf item.type "relationship")) :
    (s.isRelationship || s.isRelationshipArray) = true ↔ s.IsLink := by
  rw [isRelationship, isRelationshipArray, Bool.or_eq_true, Bool.and_eq_true, h.tag_beq_iff,
    h.tag_beq_iff, Option.any_eq_true]
  refine or_congr_right (and_congr_right fun harray => ?_)
  exact exists_congr fun item => and_congr_right fun hi => hitem harray item hi

end

/-- The schema tells by first tags whether values are links, and the type does not contradict
it: it is one expression, and a reference, or an array of references, for links only. -/
structure TellsLink (s : Schema) (d : Descriptor) : Prop where
  relationship_iff : s.isRelationship = true ↔ IsOf s.type "relationship"
  isLink_iff : (s.isRelationship || s.isRelationshipArray) = true ↔ s.IsLink
  others : d.others = []
  reference : ∀ ts, d.first = .reference ts → IsOf s.type "relationship"
  references : ∀ ts, d.first = .array (.reference ts) → s.IsLink
  subType : ∀ n, d.first.subTypeName? = some n → Marked "Sub" n

namespace TellsLink

variable {s : Schema} {d : Descriptor}

/-- What is kept for a property is what the schema says. -/
theorem returnedByDefault_eq (h : s.TellsLink d) :
    returnedByDefault .managed s = some (decide s.IsReturned) := by
  have hlink : (s.isRelationship || s.isRelationshipArray) = decide s.IsLink := by
    rw [Bool.eq_iff_iff, h.isLink_iff, decide_eq_true_iff]
  have hkept : returnedByDefault .managed s =
      some (s.returnByDefault.getD (!(s.isRelationship || s.isRelationshipArray))) := rfl
  rw [hkept, hlink, Option.some.injEq, Bool.eq_iff_iff, decide_eq_true_iff, IsReturned]
  cases s.returnByDefault <;> simp

/-- A schema of another kind than an array tells links, if only that of a relationship has a
type that refers to resources. -/
theorem of_hasKind {k : SchemaKind} {nullable : Bool} (h : s.HasKind k nullable)
    (hk : "array" ∉ k.tags) (hothers : d.others = [])
    (hlink : IsOf s.type "relationship" ∨ d.first.references = [])
    (hsub : ∀ n, d.first.subTypeName? = some n → Marked "Sub" n) : s.TellsLink d where
  relationship_iff := h.tag_beq_iff
  isLink_iff := h.isLink_iff fun harray => absurd harray (h.not_isOf hk)
  others := hothers
  reference ts he := by
    refine hlink.resolve_right ?_
    rw [he]
    exact List.cons_ne_nil _ _
  references ts he := by
    refine .inl (hlink.resolve_right ?_)
    rw [he]
    exact List.cons_ne_nil _ _
  subType := hsub

end TellsLink

end Schema

/-! ### Inference agrees with first tags -/

/-- The property is made for an entry of a schema, and keeps whether reads return it. -/
structure Property.MadeFor (e : String × Schema) (p : Property) : Prop where
  name : p.name = e.1
  returnByDefault : p.returnByDefault = some (decide e.2.IsReturned)
  type : e.2.TellsLink p.type

/-- All schemas of managed objects that are accepted tell links, those of the properties of
resources too. -/
theorem tellsLink_invariant (kind : ValueKind) :
    InferenceInvariant .managed kind (fun s _ _ x => s.TellsLink x.value)
      (fun _ ps _ x => List.Forall₂ Property.MadeFor ps x.value) where
  primitive h hp :=
    .of_hasKind h (SchemaKind.notMem_tags_of_primitive hp).1 rfl (.inr rfl) fun n hn => by cases hn
  openMap h _ := .of_hasKind h (by decide) rfl (.inr rfl) fun n hn => by cases hn
  object h _ hname _ := by
    refine .of_hasKind h (by decide) rfl (.inr rfl) fun n hn => ?_
    cases hn
    exact subTypeName_marked_sub hname
  openArray {s property owner nullable} h hi := by
    -- Items without a type are no links, whatever else they are.
    have hitem : ∀ item ∈ s.items, item.type = none := by
      intro item hitem
      have hnone := Option.filter_eq_none_iff.mp hi item hitem
      simpa using hnone
    constructor
    case relationship_iff => exact h.tag_beq_iff
    case isLink_iff =>
      refine h.isLink_iff fun _ item hmem => ?_
      simp [Schema.isRelationship, Schema.tag, IsOf, hitem item hmem]
    case others => rfl
    all_goals intro n hn; cases hn
  array {s property owner nullable item x} h hi hitem := by
    obtain ⟨hitems, -⟩ := Option.filter_eq_some_iff.mp hi
    constructor
    case relationship_iff => exact h.tag_beq_iff
    case isLink_iff =>
      refine h.isLink_iff fun _ item' hmem => ?_
      obtain rfl : item = item' := Option.some.inj (hitems.symm.trans hmem)
      exact hitem.relationship_iff
    case others => exact List.map_eq_nil_iff.mpr hitem.others
    case reference =>
      intro ts he
      cases he
    case references =>
      intro ts he
      have hexpr : x.value.first = .reference ts := TypeExpr.array.inj he
      exact .inr ⟨(h.isOf_iff rfl).mpr rfl, item, hitems, hitem.reference ts hexpr⟩
    case subType => exact hitem.subType
  reference _ h _ :=
    .of_hasKind h (by decide) rfl (.inl ((h.isOf_iff rfl).mpr rfl)) fun n hn => by cases hn
  unresolved _ h _ := .of_hasKind h (by decide) rfl (.inr rfl) fun n hn => by cases hn
  nil := .nil
  cons h hs := .cons ⟨rfl, h.returnedByDefault_eq, h⟩ hs

/-! ### Links in the text of types -/

/-- The text is that of a reference or of an array of references, which may admit null. -/
def IsLinkText (text : String) : Prop :=
  ∃ inner, ∃ tail ∈ ["", "[]", " | null", "[] | null"],
    text = "ReferenceType<" ++ inner ++ ">" ++ tail

/-- What the texts of types that refer to no resource begin with. -/
def plainMarks : List String := ["boolean", "number", "string", "Record", "unknown", "any", "Sub"]

/-- By its beginning the text of a type tells references. -/
theorem TypeExpr.reference_or_marked : ∀ e : TypeExpr,
    (∀ n, e.subTypeName? = some n → Marked "Sub" n) →
      (∃ ts, e.core = .reference ts) ∨ ∃ m ∈ plainMarks, Marked m e.text
  | .primitive .boolean, _ => .inr ⟨"boolean", by decide, by decide⟩
  | .primitive .number, _ => .inr ⟨"number", by decide, by decide⟩
  | .primitive .string, _ => .inr ⟨"string", by decide, by decide⟩
  | .openMap .unknown, _ => .inr ⟨"Record", by decide, by decide⟩
  | .openMap .any, _ => .inr ⟨"Record", by decide, by decide⟩
  | .openArray .unknown, _ => .inr ⟨"unknown", by decide, by decide⟩
  | .openArray .any, _ => .inr ⟨"any", by decide, by decide⟩
  | .reference ts, _ => .inl ⟨ts, rfl⟩
  | .subType n, h => .inr ⟨"Sub", by decide, h n rfl⟩
  | .array item, h => by
    rcases item.reference_or_marked h with hr | ⟨m, hm, hmark⟩
    · exact .inl hr
    · exact .inr ⟨m, hm, hmark.append "[]"⟩

/-- What stands behind the last `x` is known. -/
theorem append_cons_inj_right {α : Type} {x : α} {as as' bs bs' : List α} (hb : x ∉ bs)
    (hb' : x ∉ bs') (h : as ++ x :: bs = as' ++ x :: bs') : bs = bs' := by
  have hrev := congrArg List.reverse h
  simp only [List.reverse_append, List.reverse_cons, List.append_assoc, List.singleton_append]
    at hrev
  have hback := (append_cons_inj_left (by simpa using hb) (by simpa using hb') hrev).1
  exact List.reverse_inj.mp hback

theorem toList_join_replicate (k : Nat) : (String.join (List.replicate k "[]")).toList =
    (List.replicate k ['[', ']']).flatten := by
  induction k with
  | zero => rfl
  | succ k ih =>
    rw [List.replicate_succ, String.join_cons, String.toList_append, ih, List.replicate_succ,
      List.flatten_cons]
    rfl

/-- Behind the last angle bracket in the text of a reference stand the arrays around it, and
null. So the arrays can be counted. -/
theorem arrays_le_of_text {ts : Targets} {k : Nat} {nullable : Bool} {inner tail : String}
    (htail : tail ∈ ["", "[]", " | null", "[] | null"])
    (h : (Descriptor.mk ((TypeExpr.reference ts).arrays k) [] nullable).text =
      "ReferenceType<" ++ inner ++ ">" ++ tail) : k ≤ 1 := by
  have htail : '>' ∉ tail.toList ∧ tail.toList.length ∈ [0, 2, 7, 9] := by
    have hall : ∀ tail ∈ ["", "[]", " | null", "[] | null"],
        '>' ∉ tail.toList ∧ tail.toList.length ∈ [0, 2, 7, 9] := by decide
    exact hall tail htail
  have hnull : '>' ∉ (if nullable then " | null" else "").toList ∧
      (if nullable then " | null" else "").toList.length ∈ [0, 7] := by
    cases nullable <;> decide
  have hfree : '>' ∉ (List.replicate k ['[', ']']).flatten ++
      (if nullable then " | null" else "").toList := by
    rw [List.mem_append, not_or, List.mem_flatten]
    refine ⟨?_, hnull.1⟩
    rintro ⟨l, hl, hc⟩
    rw [List.eq_of_mem_replicate hl] at hc
    exact absurd hc (by decide)
  have hlist : ("ReferenceType<" ++ " | ".intercalate ts.toList).toList ++
      '>' :: ((List.replicate k ['[', ']']).flatten ++
        (if nullable then " | null" else "").toList) =
      ("ReferenceType<" ++ inner).toList ++ '>' :: tail.toList := by
    have htext := congrArg String.toList h
    rw [Descriptor.text_single, TypeExpr.text_arrays, TypeExpr.text_reference] at htext
    simp only [String.toList_append, toList_join_replicate, List.append_assoc] at htext ⊢
    exact htext
  have hlen := congrArg List.length (append_cons_inj_right hfree htail.1 hlist)
  simp only [List.length_append, List.length_flatten, List.map_replicate,
    List.sum_replicate_nat, List.length_cons, List.length_nil] at hlen
  simp only [List.mem_cons, List.not_mem_nil, or_false] at htail hnull
  omega

/-- The text of links is that of a type of links. -/
theorem Descriptor.reference_of_text {d : Descriptor} (hothers : d.others = [])
    (hsub : ∀ n, d.first.subTypeName? = some n → Marked "Sub" n) (h : IsLinkText d.text) :
    ∃ ts, d.first = .reference ts ∨ d.first = .array (.reference ts) := by
  obtain ⟨inner, tail, htail, htext⟩ := h
  obtain ⟨e, others, nullable⟩ := d
  subst hothers
  have hcore : ∃ ts, e.core = .reference ts := by
    refine (e.reference_or_marked hsub).resolve_right ?_
    rintro ⟨m, hm, hmark⟩
    have hlink : Marked "ReferenceType<"
        (e.text ++ if nullable then " | null" else "") := by
      rw [← text_single, htext]
      exact ((marked_append _ inner).append ">").append tail
    have hboth := List.prefix_or_prefix_of_prefix (hmark.append _) hlink
    have hnone : ∀ m ∈ plainMarks, ¬ (m.toList <+: "ReferenceType<".toList ∨
        "ReferenceType<".toList <+: m.toList) := by decide
    exact hnone m hm hboth
  obtain ⟨ts, hts⟩ := hcore
  obtain ⟨k, hk⟩ := e.exists_arrays_core
  rw [hts] at hk
  subst hk
  have hle : k ≤ 1 := arrays_le_of_text htail htext
  match k, hle with
  | 0, _ => exact ⟨ts, .inl rfl⟩
  | 1, _ => exact ⟨ts, .inr rfl⟩

/-- A property whose text is that of links is one. -/
theorem Schema.TellsLink.isLink_of_text {s : Schema} {d : Descriptor} (h : s.TellsLink d)
    (ht : IsLinkText d.text) : s.IsLink := by
  obtain ⟨ts, hts | hts⟩ := d.reference_of_text h.others h.subType ht
  · exact .inl (h.reference ts hts)
  · exact h.references ts hts

/-! ### The resources of a catalog -/

/-- The resource is that of the managed object, property by property. -/
structure ManagedResource.MadeFor (o : ManagedObject) (r : ManagedResource) : Prop where
  name : r.name = o.name
  properties : List.Forall₂ Property.MadeFor o.schema.properties r.properties

/-- What is written as a link is not returned, unless the schema says so. -/
theorem Property.MadeFor.not_isReturned {e : String × Schema} {p : Property} (h : p.MadeFor e)
    (hnone : e.2.returnByDefault = none) (ht : IsLinkText p.type.text) : ¬ e.2.IsReturned := by
  rintro (hreturned | ⟨-, hlink⟩)
  · rw [hnone] at hreturned
    cases hreturned
  · exact hlink (h.type.isLink_of_text ht)

/-- Its name is no key then, if properties differ by their names. -/
theorem ManagedResource.MadeFor.notMem_returnedKeys {o : ManagedObject} {r : ManagedResource}
    (h : r.MadeFor o) (hnd : (o.schema.properties.map (·.1)).Nodup) {e : String × Schema}
    (he : e ∈ o.schema.properties) (hnone : e.2.returnByDefault = none) {p : Property}
    (hp : p ∈ r.properties) (hname : p.name = e.1) (ht : IsLinkText p.type.text) :
    e.1 ∉ o.schema.returnedKeys := by
  intro hkey
  obtain ⟨e', he', hp'⟩ := exists_of_mem_right h.properties p hp
  obtain rfl : e' = e := List.inj_on_of_nodup_map hnd he' he (hp'.name.symm.trans hname)
  obtain ⟨e'', he'', hsame⟩ := List.mem_map.mp hkey
  obtain ⟨he'', hreturned⟩ := List.mem_filter.mp he''
  obtain rfl : e'' = e' := List.inj_on_of_nodup_map hnd he'' he' hsame
  exact hp'.not_isReturned hnone ht (of_decide_eq_true hreturned)

theorem map_name_of_madeFor {objects : List ManagedObject} {rs : List ManagedResource}
    (h : List.Forall₂ ManagedResource.MadeFor objects rs) :
    rs.map (·.name) = objects.map (·.name) := by
  induction h with
  | nil => rfl
  | cons hr _ ih => rw [List.map_cons, List.map_cons, ih, hr.name]

/-- A catalog has a resource for each managed object, in the order of their names. -/
theorem managed_madeFor {s : Settings} {objects sorted : List ManagedObject}
    {connectors : List Connector} {c : Catalog} (hs : SortsTo (·.name) objects sorted)
    (h : build s objects connectors = .ok c) :
    List.Forall₂ ManagedResource.MadeFor sorted c.managed := by
  obtain ⟨managed, system, hm, -, hc⟩ := build_eq_ok.mp h
  obtain ⟨rfl, -⟩ := Catalog.assemble_eq_ok.mp hc
  obtain ⟨xs, hxs, rfl⟩ := managedResources_eq_ok.mp hm
  rw [← hs.eq_sortOn] at hxs
  have hmade : List.Forall₂ ManagedResource.MadeFor sorted (xs.map (·.value)) := by
    refine List.forall₂_map_right_iff.mpr (hxs.imp fun o x ho => ?_)
    obtain ⟨typeName, properties, -, hp, rfl⟩ := inferManagedObject_eq_ok.mp ho
    exact ⟨rfl, (tellsLink_invariant s.managedKind).properties _ _ _ hp⟩
  have hsorted : (xs.map (·.value)).Pairwise fun a b => a.name ≤ b.name := by
    have hascending := List.pairwise_map.mpr hs.ascending
    rw [← map_name_of_madeFor hmade] at hascending
    exact List.pairwise_map.mp hascending
  rw [Catalog.sorted, ResourceSet.ofInferred, Inferred.gather_value, sortOn_of_sorted hsorted]
  exact hmade

namespace TypeScript

/-- The properties that reads return are those that the schema says. -/
theorem defaultKeys_of_madeFor {entries : List (String × Schema)} {ps : List Property}
    (h : List.Forall₂ Property.MadeFor entries ps) :
    defaultKeys ps = "_tag" :: (entries.filter fun e => e.2.IsReturned).map (·.1) := by
  rw [defaultKeys]
  refine congrArg ("_tag" :: ·) ?_
  induction h with
  | nil => rfl
  | @cons e p es ps hp _ ih =>
    by_cases hr : e.2.IsReturned
    · rw [List.filter_cons_of_pos (by simp [hp.returnByDefault, hr]),
        List.filter_cons_of_pos (by simp [hr]), List.map_cons, List.map_cons, ih, hp.name]
    · rw [List.filter_cons_of_neg (by simp [hp.returnByDefault, hr]),
        List.filter_cons_of_neg (by simp [hr]), ih]

/-- The declarations of a managed object stand in the module one after the other. -/
theorem exists_render_eq {c : Catalog} {r : ManagedResource} (hr : r ∈ c.managed)
    (runtimeModule : String) : ∃ before after, render runtimeModule c =
      Text.unlines (before ++ (managedDeclarations r).flatMap Declaration.lines ++ after) := by
  obtain ⟨rs, rs', hrs⟩ := List.append_of_mem hr
  have hmodel : ∃ before after, modelLines c =
      before ++ (managedDeclarations r).flatMap Declaration.lines ++ after := by
    rw [modelLines, declarations, hrs]
    simp only [List.flatMap_append, List.flatMap_cons, List.append_assoc]
    exact ⟨_, _, rfl⟩
  obtain ⟨before, after, hmodel⟩ := hmodel
  refine ⟨headerLines runtimeModule c ++ before, after ++ accessorLines c, ?_⟩
  rw [render, lines, hmodel]
  simp only [List.append_assoc]

/-- The lines of the type of a resource. -/
def typeLines (r : ManagedResource) : List String :=
  (Declaration.object r.typeName (some r.path) r.properties).lines

/-- What the module says that reads of a managed object return, as its schema says it. -/
structure ReadsByDefault (c : Catalog) (o : ManagedObject) (r : ManagedResource) : Prop where
  name : r.name = o.name
  /-- Behind the type of the resource stands the type of what reads return: the tag, and the
  properties that the schema says. -/
  written : ∀ runtimeModule, ∃ before after, render runtimeModule c =
    Text.unlines (before ++ typeLines r ++
      pickLine (r.typeName ++ "Defaults") r.typeName ("_tag" :: o.schema.returnedKeys) :: after)
  /-- The reader of modules finds it. -/
  read : IsReadable c → ∀ runtimeModule,
    ⟨r.typeName ++ "Defaults", r.typeName, "_tag" :: o.schema.returnedKeys⟩ ∈
      (read (render runtimeModule c)).picks
  /-- All keys are those of members of the type of the resource. -/
  member : ∀ key ∈ "_tag" :: o.schema.returnedKeys,
    key = "_tag" ∧ tagLine r.path ∈ typeLines r ∨
      ∃ p ∈ r.properties, p.name = key ∧ propertyLine p ∈ typeLines r
  /-- The properties of the schema are those of the resource, and one that is written as a link
  is not returned, unless the schema says so. -/
  links : List.Forall₂ (fun e p => p.name = e.1 ∧
    (e.2.returnByDefault = none → IsLinkText p.type.text → ¬ e.2.IsReturned))
      o.schema.properties r.properties
  /-- So it is not among the keys, as long as properties differ by their names. -/
  never_picked : (o.schema.properties.map (·.1)).Nodup → ∀ e ∈ o.schema.properties,
    e.2.returnByDefault = none → ∀ p ∈ r.properties, p.name = e.1 → IsLinkText p.type.text →
      e.1 ∉ o.schema.returnedKeys

theorem readsByDefault_of_madeFor {c : Catalog} {o : ManagedObject} {r : ManagedResource}
    (hr : r ∈ c.managed) (h : r.MadeFor o) : ReadsByDefault c o r := by
  have hkeys : defaultKeys r.properties = "_tag" :: o.schema.returnedKeys :=
    defaultKeys_of_madeFor h.properties
  constructor
  case name => exact h.name
  case written =>
    intro runtimeModule
    obtain ⟨before, after, hrender⟩ := exists_render_eq hr runtimeModule
    refine ⟨before, "" :: after, ?_⟩
    rw [hrender, managedDeclarations, hkeys]
    simp [typeLines, Declaration.lines, defaultsName]
  case read =>
    intro hreadable runtimeModule
    rw [read, items_render hreadable, run_module]
    refine List.mem_map.mpr ⟨r, hr, ?_⟩
    rw [managedPick, ← defaultKeys_eq, hkeys]
  case member =>
    refine List.forall_mem_cons.mpr ⟨.inl ⟨rfl, ?_⟩, fun key hkey => .inr ?_⟩
    · simp [typeLines, Declaration.lines]
    · obtain ⟨e, he, rfl⟩ := List.mem_map.mp hkey
      obtain ⟨p, hp, hep⟩ := exists_of_mem_right h.properties.flip e (List.mem_filter.mp he).1
      have hline : propertyLine p ∈ r.properties.flatMap propertyLines :=
        List.mem_flatMap.mpr ⟨p, hp, List.mem_append_right _ List.mem_cons_self⟩
      refine ⟨p, hp, hep.name, ?_⟩
      exact List.mem_cons_of_mem _ (List.mem_append_right _ (List.mem_append_left _ hline))
  case links => exact h.properties.imp fun e p hp => ⟨hp.name, hp.not_isReturned⟩
  case never_picked =>
    exact fun hnd e he hnone p hp hname ht => h.notMem_returnedKeys hnd he hnone hp hname ht

/-- **Reads return by default what the schema says.** For each managed object in a catalog
that is built the module has the type of what reads return: the tag, and in their order the
properties that the schema says are returned, or that are no links and of which it says
nothing. -/
theorem reads_by_default {s : Settings} {objects sorted : List ManagedObject}
    {connectors : List Connector} {c : Catalog} (hs : SortsTo (·.name) objects sorted)
    (h : build s objects connectors = .ok c) :
    List.Forall₂ (ReadsByDefault c) sorted c.managed := by
  have hmem := (List.forall₂_and_left c.managed sorted).mpr
    ⟨fun _ hr => hr, (managed_madeFor hs h).flip⟩
  exact hmem.flip.imp fun o r hr => readsByDefault_of_madeFor hr.1 hr.2

/-- A user with links of all sorts: alone and in lists, in lists of lists, with what the schema
says of them, and to no managed object. -/
def staffObjects : List ManagedObject :=
  [⟨"user", { properties := [
      ("name", { type := some (.single "string") }),
      ("boss", {
        type := some (.union ["relationship", "null"]), collections := [⟨"managed/user"⟩] }),
      ("staff", { type := some (.single "array"), items := some {
        type := some (.union ["relationship", "null"]), collections := [⟨"managed/user"⟩] } }),
      ("teams", { type := some (.single "array"), items := some {
        type := some (.single "array"), items := some {
          type := some (.single "relationship"), collections := [⟨"managed/role"⟩] } } }),
      ("roles", { returnByDefault := some true, type := some (.single "array"), items := some {
        type := some (.single "relationship"), collections := [⟨"managed/role"⟩] } }),
      ("secret", { returnByDefault := some false, type := some (.single "string") }),
      ("unit", { type := some (.single "relationship") })] }⟩,
    ⟨"role", {}⟩]

theorem reads_by_default_staff : ∃ c, build {} staffObjects [] = .ok c ∧
    (outline c).picks = [⟨"ManagedRoleDefaults", "ManagedRole", ["_tag"]⟩,
      ⟨"ManagedUserDefaults", "ManagedUser", ["_tag", "name", "teams", "roles"]⟩] ∧
    List.Forall₂ (ReadsByDefault c) (sortOn (·.name) staffObjects) c.managed := by
  have h : (build {} staffObjects []).toOption.map (fun c => (outline c).picks) =
      some [⟨"ManagedRoleDefaults", "ManagedRole", ["_tag"]⟩,
        ⟨"ManagedUserDefaults", "ManagedUser", ["_tag", "name", "teams", "roles"]⟩] := by
    decide +kernel
  obtain ⟨c, hc, hpicks⟩ := toOption_map_eq_some.mp h
  exact ⟨c, hc, hpicks, reads_by_default (sortOn_sortsTo _) hc⟩

end TypeScript

end IdentityTypes
