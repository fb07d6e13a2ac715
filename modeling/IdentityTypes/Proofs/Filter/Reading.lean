/-
# Filters are read as they are written

Every text of an object that a filter is written as is read as the filter. The members are
read in two ways: those of the outermost filter from the document, of which the kind is
judged where it stands, and those of the others from the values that are read by then.
Either way the kind is found, and the parts are put together in whatever order they come.

Key definitions: `Filter.Comes`, `Filter.ReadFrom`.
Key theorems: `Filter.ofMembers_eq`, `Filter.WrittenAs.readFrom`, `Filter.ReadFrom.read`,
`Filter.WrittenAs.ofText`, `Filter.WrittenAs.printed`, `Filter.readAsWritten`.
-/
import IdentityTypes.CommandLine
import IdentityTypes.Proofs.Filter.Writing
import IdentityTypes.Proofs.Json.Reading

namespace IdentityTypes

open Json

/-! ### Members -/

section

variable {ms : List (String × Value)} {key k : String} {v w : Value}

theorem not_once_nil : ¬ Once [] key v := nofun

theorem Once.of_cons_ne (h : Once ((k, w) :: ms) key v) (hk : k ≠ key) : Once ms key v := by
  rw [Once, List.filter_cons_of_neg (by simpa using hk)] at h
  exact h

theorem Once.of_cons_eq (h : Once ((key, w) :: ms) key v) : w = v ∧ ∀ m ∈ ms, m.1 ≠ key := by
  rw [Once, List.filter_cons_of_pos (by simp)] at h
  obtain ⟨hw, hms⟩ := List.cons.inj h
  exact ⟨(Prod.mk.inj hw).2, fun m hm => by simpa using List.filter_eq_nil_iff.mp hms m hm⟩

end

namespace Filter

theorem Slot.name_injective {s s' : Slot} (h : s.name = s'.name) : s = s' := by
  revert h
  cases s <;> cases s' <;> decide

theorem Slot.name_ne_kind (s : Slot) : s.name ≠ "kind" := by
  cases s <;> decide

/-- The list of the reader agrees with the words that are written: a kind is read by the word
that is written for it, and by no other. -/
theorem Kind.ofName?_eq_some {name : String} {k : Kind} :
    Kind.ofName? name = some k ↔ k.name = name := by
  constructor
  · intro h
    have hwords : ∀ w ∈ Kind.words, w.2.name = w.1 := by decide
    obtain ⟨before, after, hsplit, -⟩ := List.lookup_eq_some_iff.mp h
    exact hwords (name, k) (hsplit ▸ List.mem_append_cons_self)
  · rintro rfl
    cases k with
    | compare c => cases c <;> rfl
    | _ => rfl

theorem kindNamed_name (k : Kind) : kindNamed k.name = .ok k := by
  rw [kindNamed, Kind.ofName?_eq_some.mpr rfl]

section

variable {k : Kind} {value : Slot → Value} {part : Slot → Part}

/-- The member of a part is still to come, or the part is read. -/
def Comes (value : Slot → Value) (part : Slot → Part) (parts : List (Slot × Part))
    (ms : List (String × Value)) (s : Slot) : Prop :=
  parts.lookup s = none ∧ Once ms s.name (value s) ∨
    parts.lookup s = some (part s) ∧ ∀ m ∈ ms, m.1 ≠ s.name

theorem Comes.tail {parts : List (Slot × Part)} {ms : List (String × Value)} {key : String}
    {v : Value} {s : Slot} (h : Comes value part parts ((key, v) :: ms) s) (hne : s.name ≠ key) :
    Comes value part parts ms s := by
  obtain ⟨hnone, honce⟩ | ⟨hread, hms⟩ := h
  · exact .inl ⟨hnone, honce.of_cons_ne (Ne.symm hne)⟩
  · exact .inr ⟨hread, fun m hm => hms m (List.mem_cons_of_mem _ hm)⟩

/-- The parts of a filter are put together in whatever order they come. -/
theorem ofMembers_eq
    (hpart : ∀ s ∈ k.slots, partOf s (value s) (ofValue (value s)) = .ok (part s)) :
    ∀ {ms : List (String × Value)} {parts : List (Slot × Part)},
      (∀ s ∈ k.slots, Comes value part parts ms s) →
      ∃ parts', ofMembers k parts ms = k.build parts' ∧
        ∀ s ∈ k.slots, parts'.lookup s = some (part s)
  | [], parts, h => by
    refine ⟨parts, by rw [ofMembers], fun s hs => ?_⟩
    obtain ⟨-, honce⟩ | ⟨hread, -⟩ := h s hs
    · exact absurd honce not_once_nil
    · exact hread
  | (key, v) :: ms, parts, h => by
    rw [ofMembers]
    cases hslot : k.slots.find? (·.name = key) with
    | none =>
      refine ofMembers_eq hpart fun s hs => (h s hs).tail ?_
      simpa using List.find?_eq_none.mp hslot s hs
    | some slot =>
      have hmem : slot ∈ k.slots := List.mem_of_find?_eq_some hslot
      obtain rfl : slot.name = key := by simpa using List.find?_some hslot
      obtain ⟨hnone, honce⟩ | ⟨-, hms⟩ := h slot hmem
      · obtain ⟨rfl, hms⟩ := honce.of_cons_eq
        dsimp only
        rw [if_neg (by simp [hnone]), hpart slot hmem]
        refine ofMembers_eq hpart fun s hs => ?_
        by_cases hs' : s = slot
        · subst hs'
          exact .inr ⟨by simp, hms⟩
        · rw [Comes, List.lookup_cons, beq_eq_false_iff_ne.mpr hs']
          exact (h s hs).tail fun hname => hs' (Slot.name_injective hname)
      · exact absurd rfl (hms (slot.name, v) List.mem_cons_self)

end

/-- The same, when no part is read yet. -/
theorem ofMembers_nil (k : Kind) (ms : List (String × Value)) (value : Slot → Value)
    (part : Slot → Part)
    (h : ∀ s ∈ k.slots, Once ms s.name (value s) ∧
      partOf s (value s) (ofValue (value s)) = .ok (part s)) :
    ∃ parts, ofMembers k [] ms = k.build parts ∧ ∀ s ∈ k.slots, parts.lookup s = some (part s) :=
  ofMembers_eq (fun s hs => (h s hs).2) fun s hs => .inl ⟨rfl, (h s hs).1⟩

theorem operandOf_toValue (x : Operand) : operandOf x.toValue = .ok x := by
  cases x <;> rfl

/-- The kind is found wherever it stands. -/
theorem kindAmong_some {k : Kind} : ∀ {ms : List (String × Value)}, (∀ m ∈ ms, m.1 ≠ "kind") →
    kindAmong (some k) ms = .ok k
  | [], _ => rfl
  | (key, v) :: ms, h => by
    obtain ⟨hkey, hms⟩ := List.forall_mem_cons.mp h
    rw [kindAmong, if_neg hkey, kindAmong_some hms]

theorem kindAmong_none {k : Kind} : ∀ {ms : List (String × Value)},
    Once ms "kind" (.string k.name) → kindAmong none ms = .ok k
  | [], h => absurd h not_once_nil
  | (key, v) :: ms, h => by
    rw [kindAmong]
    by_cases hkey : key = "kind"
    · subst hkey
      obtain ⟨rfl, hms⟩ := h.of_cons_eq
      rw [if_pos rfl, kindOf, kindNamed_name]
      exact kindAmong_some hms
    · rw [if_neg hkey, kindAmong_none (h.of_cons_ne hkey)]

theorem ofValue_object {k : Kind} {ms : List (String × Value)}
    (h : Once ms "kind" (.string k.name)) : ofValue (.object ms) = ofMembers k [] ms := by
  rw [ofValue, kindAmong_none h]
  rfl

/-- An object with the kind of a filter, of which the members are read as the filter. -/
def ReadFrom (f : Filter) (v : Value) : Prop :=
  ∃ ms, v = .object ms ∧ Once ms "kind" (.string f.kind.name) ∧ ofMembers f.kind [] ms = .ok f

theorem ReadFrom.ofValue {f : Filter} {v : Value} (h : f.ReadFrom v) :
    Filter.ofValue v = .ok f := by
  obtain ⟨ms, rfl, hkind, hmembers⟩ := h
  rw [ofValue_object hkind, hmembers]

/-- The two filters of a combination are read. -/
theorem exists_parts_pair {k : Kind} {ms : List (String × Value)} {a b : Filter} {v w : Value}
    (hk : k.slots = [.a, .b]) (hv : Once ms "a" v) (hw : Once ms "b" w) (ha : a.ReadFrom v)
    (hb : b.ReadFrom w) : ∃ parts, ofMembers k [] ms = k.build parts ∧
      parts.lookup .a = some (.filter a) ∧ parts.lookup .b = some (.filter b) := by
  have hpart : ∀ {f : Filter} {v : Value}, f.ReadFrom v →
      (Filter.ofValue v).map Part.filter = .ok (.filter f) := fun h => by
    rw [h.ofValue]
    rfl
  obtain ⟨parts, hread, hparts⟩ := ofMembers_nil k ms
    (fun | .a => v | _ => w) (fun | .a => .filter a | _ => .filter b) (by
      rw [hk]
      exact List.forall_mem_cons.mpr ⟨⟨hv, hpart ha⟩, List.forall_mem_singleton.mpr
        ⟨hw, hpart hb⟩⟩)
  exact ⟨parts, hread, hparts .a (by simp [hk]), hparts .b (by simp [hk])⟩

theorem WrittenAs.readFrom {f : Filter} {v : Value} (h : f.WrittenAs v) : f.ReadFrom v := by
  induction h with
  | @compare c field x ms hkind hfield hval =>
    obtain ⟨parts, hread, hparts⟩ := ofMembers_nil (.compare c) ms
      (fun | .val => x.toValue | _ => .string field)
      (fun | .val => .operand x | _ => .text field)
      (List.forall_mem_cons.mpr ⟨⟨hfield, rfl⟩, List.forall_mem_singleton.mpr
        ⟨hval, by rw [partOf, operandOf_toValue]; rfl⟩⟩)
    have hf := hparts .field (by simp [Kind.slots])
    have hv := hparts .val (by simp [Kind.slots])
    refine ⟨ms, rfl, hkind, hread.trans ?_⟩
    simp only [Kind.build, Kind.build.text, Kind.build.operand, hf, hv]
    rfl
  | @present field ms hkind hfield =>
    obtain ⟨parts, hread, hparts⟩ := ofMembers_nil .present ms
      (fun _ => .string field) (fun _ => .text field)
      (List.forall_mem_singleton.mpr ⟨hfield, rfl⟩)
    have hf := hparts .field List.mem_cons_self
    refine ⟨ms, rfl, hkind, hread.trans ?_⟩
    simp only [Kind.build, Kind.build.text, hf]
    rfl
  | @always ms hkind =>
    obtain ⟨parts, hread, -⟩ := ofMembers_nil .always ms (fun _ => .null)
      (fun _ => .text "") (List.forall_mem_nil _)
    exact ⟨ms, rfl, hkind, hread⟩
  | @never ms hkind =>
    obtain ⟨parts, hread, -⟩ := ofMembers_nil .never ms (fun _ => .null)
      (fun _ => .text "") (List.forall_mem_nil _)
    exact ⟨ms, rfl, hkind, hread⟩
  | @not f v ms hkind hfilter hf ih =>
    obtain ⟨parts, hread, hparts⟩ := ofMembers_nil .not ms
      (fun _ => v) (fun _ => .filter f)
      (List.forall_mem_singleton.mpr ⟨hfilter, by rw [partOf, ih.ofValue]; rfl⟩)
    have hf := hparts .filter List.mem_cons_self
    refine ⟨ms, rfl, hkind, hread.trans ?_⟩
    simp only [Kind.build, Kind.build.filter, hf]
    rfl
  | @and a b v w ms hkind hv hw _ _ iha ihb =>
    obtain ⟨parts, hread, ha, hb⟩ := exists_parts_pair (k := .and) rfl hv hw iha ihb
    refine ⟨ms, rfl, hkind, hread.trans ?_⟩
    simp only [Kind.build, Kind.build.filter, ha, hb]
    rfl
  | @or a b v w ms hkind hv hw _ _ iha ihb =>
    obtain ⟨parts, hread, ha, hb⟩ := exists_parts_pair (k := .or) rfl hv hw iha ihb
    refine ⟨ms, rfl, hkind, hread.trans ?_⟩
    simp only [Kind.build, Kind.build.filter, ha, hb]
    rfl

/-! ### The outermost filter -/

/-- The members beside the kind are kept to be read later. -/
theorem readMembers_some {depth : Nat} {found : Option Kind} :
    ∀ {ms : List (String × Value)}, Value.membersDepth ms ≤ depth → (∀ m ∈ ms, m.1 ≠ "kind") →
      readMembers depth found (Value.memberNodes ms) = .ok (found, ms)
  | [], _, _ => rfl
  | (key, v) :: ms, hdepth, h => by
    obtain ⟨hv, hms⟩ := Nat.max_le.mp hdepth
    obtain ⟨hkey, hrest⟩ := List.forall_mem_cons.mp h
    rw [Value.memberNodes, readMembers.eq_def]
    dsimp only
    rw [if_neg hkey, readWhole, Value.complete_toNode hv]
    simp only [readMembers_some hms hrest]
    rfl

/-- The kind is read where it stands, and the other members are kept. -/
theorem readMembers_none {depth : Nat} {k : Kind} :
    ∀ {ms : List (String × Value)}, Value.membersDepth ms ≤ depth →
      Once ms "kind" (.string k.name) →
      readMembers depth none (Value.memberNodes ms) =
        .ok (some k, ms.filter (·.1 ≠ "kind"))
  | [], _, h => absurd h not_once_nil
  | (key, v) :: ms, hdepth, h => by
    obtain ⟨hv, hms⟩ := Nat.max_le.mp hdepth
    rw [Value.memberNodes, readMembers]
    by_cases hkey : key = "kind"
    · subst hkey
      obtain ⟨rfl, hothers⟩ := h.of_cons_eq
      rw [if_pos rfl, Value.toNode, readKind, kindNamed_name, List.filter_cons_of_neg (by simp),
        List.filter_eq_self.mpr fun m hm => by simpa using hothers m hm]
      exact readMembers_some hms hothers
    · rw [if_neg hkey, readWhole, Value.complete_toNode hv,
        List.filter_cons_of_pos (by simpa using hkey)]
      simp only [readMembers_none hms (h.of_cons_ne hkey)]
      rfl

/-- The kind is no part of a filter. -/
theorem ofMembers_filter {k : Kind} : ∀ {ms : List (String × Value)} {parts : List (Slot × Part)},
    ofMembers k parts (ms.filter (·.1 ≠ "kind")) = ofMembers k parts ms
  | [], _ => rfl
  | (key, v) :: ms, parts => by
    by_cases hkey : key = "kind"
    · have hnone : k.slots.find? (·.name = key) = none :=
        List.find?_eq_none.mpr fun s _ => by simpa [hkey] using s.name_ne_kind
      rw [List.filter_cons_of_neg (by simpa using hkey), ofMembers_filter, ofMembers, hnone]
    · rw [List.filter_cons_of_pos (by simpa using hkey), ofMembers, ofMembers]
      simp only [ofMembers_filter]

theorem ReadFrom.read {f : Filter} {v : Value} {depth : Nat} (h : f.ReadFrom v)
    (hdepth : v.depth ≤ depth) : Filter.read depth v.toNode = .ok f := by
  obtain ⟨ms, rfl, hkind, hmembers⟩ := h
  obtain ⟨depth, rfl⟩ := Nat.exists_eq_add_one_of_ne_zero (n := depth) (by rintro rfl; cases hdepth)
  rw [Value.toNode, Filter.read, Node.entering, if_neg (Nat.succ_ne_zero depth),
    Nat.add_sub_cancel]
  have hread := readMembers_none (Nat.le_of_succ_le_succ hdepth) hkind
  simp only [bind, Except.bind, hread, Node.closing, if_true, ofMembers_filter, hmembers]

/-- A filter is read from every text of what it is written as. -/
theorem WrittenAs.ofText {f : Filter} {v : Value} {text : String} (h : f.WrittenAs v)
    (hspells : v.Spells text) (hdepth : v.depth ≤ maxDepth) : Filter.ofText text = .ok f := by
  rw [Filter.ofText, readText, hspells.ofText]
  simp only [bind, Except.bind, h.readFrom.read hdepth, Node.closing, if_true]
  rfl

/-! ### The command -/

/-- The text of an object does not begin like an option. -/
theorem head?_ne_of_spells {ms : List (String × Value)} {text : String}
    (h : (Value.object ms).Spells text) : text.toList.head? ≠ some '-' := by
  have hspaced : Json.Spaced (Value.object ms).tokens text.toList := h
  generalize text.toList = cs at hspaced
  rw [Value.tokens] at hspaced
  cases hspaced with
  | @cons _ _ w _ _ hw hbrace _ =>
    cases hbrace
    cases w with
    | nil => exact fun hhead => absurd (Option.some.inj hhead) (by decide)
    | cons c w =>
      have hc := hw c List.mem_cons_self
      rintro hhead
      obtain rfl : c = '-' := Option.some.inj hhead
      exact absurd hc (by decide)

/-- An argument that does not begin like an option is what `filter` is asked for. -/
theorem parse_filter {text : String} (h : text.toList.head? ≠ some '-')
    (env : CommandLine.Environment) :
    CommandLine.parse env ["filter", text] = some (.filter text) := by
  have hne : ∀ option : String, option.toList.head? = some '-' → text ≠ option := by
    rintro option hoption rfl
    exact h hoption
  have hoption : CommandLine.looksLikeOption text = false := by
    simp [CommandLine.looksLikeOption, h]
  have hoperand : CommandLine.parseOperand none [text] = .ok text := by
    rw [CommandLine.parseOperand.eq_def]
    dsimp only
    rw [if_neg (hne "--" rfl), if_neg (by simp [hne "--help" rfl, hne "-h" rfl]),
      if_neg (by simp [hoption])]
    rfl
  simp only [CommandLine.parse, hoperand]

/-- A filter is printed for every text of what it is written as. -/
theorem WrittenAs.printed {f : Filter} {v : Value} {text : String} (h : f.WrittenAs v)
    (hspells : v.Spells text) (hdepth : v.depth ≤ maxDepth) (runner : Runner)
    (env : CommandLine.Environment) (t : Files.Tree) :
    CommandLine.run runner env ["filter", text] t = (⟨0, f.text ++ "\n", ""⟩, t) := by
  have hread := h.ofText hspells hdepth
  obtain ⟨ms, rfl, -, -⟩ := h.readFrom
  rw [CommandLine.run, parse_filter (head?_ne_of_spells hspells)]
  dsimp only
  rw [CommandLine.perform.eq_def]
  dsimp only
  rw [hread]

/-- **A filter is read as it is written.** Every filter has a text, nested as deep as the
filter, if its operands can be written. And whatever text of whatever object it is written
as, nested at most 127 deep, it is read as this filter and no other, and the command prints
the filter's text. -/
theorem readAsWritten (f : Filter) :
    ((∀ x ∈ f.operands, x.IsWritable) →
        ∃ v text, f.WrittenAs v ∧ v.Spells text ∧ v.depth = f.levels) ∧
      ∀ v text, f.WrittenAs v → v.Spells text → v.depth ≤ 127 →
        Filter.ofText text = .ok f ∧
          ∀ runner env t, CommandLine.run runner env ["filter", text] t =
            (⟨0, f.text ++ "\n", ""⟩, t) :=
  ⟨exists_text, fun _ _ hf hv hdepth => ⟨hf.ofText hv hdepth, hf.printed hv hdepth⟩⟩

def kindsLastFilter : Filter := .not (.compare .greaterOrEqual "age" (.number (.integer (-7))))

/-- An object for it in which the kinds come last, with a member that nobody asks for. -/
def kindsLast : Value :=
  .object [("filter", .object [("val", .number (.integer (-7))), ("field", .string "age"),
    ("x", .array [.null, .array []]), ("kind", .string "ge")]), ("kind", .string "!")]

/-- A text of it, with blanks and an escape that need not be there. -/
def kindsLastText : String :=
  "\x7b\"filter\" : \x7b\"val\":-7,\"field\":\"\\u0061ge\"" ++
    ",\"x\":[null,[]],\"kind\":\"ge\"\x7d,\"kind\":\"!\"\x7d\n"

theorem spells_kindsLastText : kindsLast.Spells kindsLastText := by
  have hblank : IsBlank [' '] ∧ IsBlank ['\n'] :=
    ⟨List.forall_mem_singleton.mpr (by decide), List.forall_mem_singleton.mpr (by decide)⟩
  have ha : CharText 'a' "\\u0061".toList :=
    .number (.mk (a := ('0', 0)) (b := ('0', 0)) (c := ('6', 6)) (d := ('1', 1))
      (by decide) (by decide) (by decide) (by decide))
  have hage : CharsText "age".toList ("\\u0061".toList ++ "ge".toList) :=
    .cons ha (charsText_flatMap_escape "ge".toList)
  have hspaced := Json.Spaced.prepend [.openBrace, .string (some "filter")] (by decide) <|
    .cons hblank.1 .colon <| .cons hblank.1 .openBrace <|
    Json.Spaced.prepend [.string (some "val"), .colon, .number (some (.integer (-7))), .comma,
      .string (some "field"), .colon] (by decide) <|
    .cons (List.forall_mem_nil _) (.string hage) <|
    Json.Spaced.prepend [.comma, .string (some "x"), .colon, .openBracket, .null, .comma,
      .openBracket, .closeBracket, .closeBracket, .comma, .string (some "kind"), .colon,
      .string (some "ge"), .closeBrace, .comma, .string (some "kind"), .colon, .string (some "!"),
      .closeBrace]
      (by decide) (.nil hblank.2)
  rw [Value.Spells]
  convert hspaced using 1
  · rfl
  · decide +kernel

theorem readAsWritten_kindsLast :
    Filter.ofText kindsLastText = .ok kindsLastFilter ∧
      ∀ runner env t, CommandLine.run runner env ["filter", kindsLastText] t =
        (⟨0, "!(/age ge -7)\n", ""⟩, t) := by
  have hwritten : kindsLastFilter.WrittenAs kindsLast := .not rfl rfl (.compare rfl rfl rfl)
  have htext : kindsLastFilter.text ++ "\n" = "!(/age ge -7)\n" := by decide +kernel
  have h := (readAsWritten kindsLastFilter).2 _ _ hwritten spells_kindsLastText (by decide)
  rwa [htext] at h

end Filter

end IdentityTypes
