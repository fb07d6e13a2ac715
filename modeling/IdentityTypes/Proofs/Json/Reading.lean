/-
# Documents are read as they are written

The machine that builds a document comes out of the tokens of a node with the node, if it is
whole, whatever is open around it and whatever follows. So any text of a node is read as the
whole document that the node is. Among these are the texts of a value, whose node is
complete within the depth of the value. So no text is that of two values.

Key definitions: `Value.toNode`.
Key theorems: `Node.alternating_tokens`, `Node.read_tokens`, `Node.Spells.ofText`,
`readText_eq_ok`, `Value.complete_toNode`, `Value.Spells.toNode`, `Value.Spells.ofText`,
`Value.Spells.unique`.
-/
import IdentityTypes.Json.Reader
import IdentityTypes.Proofs.Json.Lexing

namespace IdentityTypes.Json

/-! ### Tokens side by side -/

/-- Before a mark the tokens alternate, if they do from the mark on. -/
def Embeds (ts : List Token) : Prop :=
  ∀ mark rest, mark.isMark = true → Alternating (mark :: rest) → Alternating (ts ++ mark :: rest)

theorem alternating_cons {mark : Token} {ts : List Token} (hmark : mark.isMark = true)
    (hts : Alternating ts) : Alternating (mark :: ts) :=
  List.isChain_cons.mpr ⟨fun _ _ => .inl hmark, hts⟩

theorem embeds_singleton (t : Token) : Embeds [t] := fun _ _ hmark hrest =>
  List.isChain_cons_cons.mpr ⟨.inr hmark, hrest⟩

/-- Two marks may stand around tokens. -/
theorem Embeds.enclose {opening closing : Token} {ts : List Token} (h : Embeds ts)
    (hopening : opening.isMark = true) (hclosing : closing.isMark = true) :
    Embeds (opening :: ts ++ [closing]) := by
  intro mark rest hmark hrest
  rw [List.append_assoc, List.cons_append]
  exact alternating_cons hopening (h closing _ hclosing (alternating_cons hclosing hrest))

/-- Commas may stand between tokens. -/
theorem embeds_intercalate : ∀ {parts : List (List Token)}, (∀ ts ∈ parts, Embeds ts) →
    Embeds ([Token.comma].intercalate parts)
  | [], _ => fun _ _ _ hrest => hrest
  | [ts], h => by
    rw [List.intercalate_singleton]
    exact h ts List.mem_cons_self
  | ts :: us :: parts, h => by
    intro mark rest hmark hrest
    have hparts := embeds_intercalate (fun ts hts => h ts (List.mem_cons_of_mem _ hts)) mark rest
      hmark hrest
    rw [List.intercalate_cons_cons, List.append_assoc, List.append_assoc]
    exact h ts List.mem_cons_self .comma _ rfl (alternating_cons rfl hparts)

namespace Node

mutual

theorem embeds_tokens : ∀ n : Node, Embeds n.tokens
  | .null | .bool _ | .number _ | .string _ | .broken => embeds_singleton _
  | .array items _ => (embeds_intercalate (embeds_itemTokens items)).enclose rfl rfl
  | .object members _ => (embeds_intercalate (embeds_memberTokens members)).enclose rfl rfl

theorem embeds_itemTokens : ∀ ns : List Node, ∀ ts ∈ itemTokens ns, Embeds ts
  | [] => List.forall_mem_nil _
  | n :: ns => List.forall_mem_cons.mpr ⟨embeds_tokens n, embeds_itemTokens ns⟩

theorem embeds_memberTokens : ∀ ms : List (Option String × Node), ∀ ts ∈ memberTokens ms, Embeds ts
  | [] => List.forall_mem_nil _
  | (key, n) :: ms => by
    refine List.forall_mem_cons.mpr ⟨fun mark rest hmark hrest => ?_, embeds_memberTokens ms⟩
    exact embeds_singleton (.string key) .colon _ rfl
      (alternating_cons rfl (embeds_tokens n mark rest hmark hrest))

end

/-- Two tokens of a node that stand side by side are not both without a mark. -/
theorem alternating_tokens (n : Node) : Alternating n.tokens :=
  (List.isChain_append.mp (embeds_tokens n .comma [] rfl (List.isChain_singleton _))).1

/-! ### The machine -/

theorem read_cons {m m' : Machine} {t : Token} {ts : List Token} (h : m.step t = some m') :
    Document.read m (t :: ts) = Document.read m' ts := by
  rw [Document.read, h]

/-- What stands between commas begins with its first part. -/
theorem exists_intercalate (ts : List Token) (parts : List (List Token)) :
    ∃ rest, [Token.comma].intercalate (ts :: parts) = ts ++ rest := by
  cases parts with
  | nil => exact ⟨[], by rw [List.intercalate_singleton, List.append_nil]⟩
  | cons us parts => exact ⟨_, by rw [List.intercalate_cons_cons, List.append_assoc]⟩

/-- A first item is read as the items after it are. -/
theorem read_firstItem {n : Node} (h : n.tolerable = true) (ns : List Node) (stack : List Frame)
    (ts : List Token) :
    Document.read ⟨.firstItem, stack⟩ ([Token.comma].intercalate (itemTokens (n :: ns)) ++ ts) =
      Document.read ⟨.value, .array [] :: stack⟩
        ([Token.comma].intercalate (itemTokens (n :: ns)) ++ ts) := by
  obtain ⟨rest, hrest⟩ := exists_intercalate n.tokens (itemTokens ns)
  rw [itemTokens, hrest]
  cases n with
  | broken => cases h
  | _ => rfl

/-- A first key is read as the keys after it are. -/
theorem read_firstKey (m : Option String × Node) (ms : List (Option String × Node))
    (stack : List Frame) (ts : List Token) :
    Document.read ⟨.firstKey, stack⟩ ([Token.comma].intercalate (memberTokens (m :: ms)) ++ ts) =
      Document.read ⟨.key [], stack⟩
        ([Token.comma].intercalate (memberTokens (m :: ms)) ++ ts) := by
  obtain ⟨rest, hrest⟩ := exists_intercalate _ (memberTokens ms)
  rw [memberTokens, hrest]
  rfl

mutual

/-- The machine comes out of the tokens of a whole node with the node. -/
theorem read_tokens : ∀ (n : Node), n.tolerable = true → ∀ (stack : List Frame) (ts : List Token),
    Document.read ⟨.value, stack⟩ (n.tokens ++ ts) = Document.read ⟨.after n, stack⟩ ts
  | .null, _, _, _ | .bool _, _, _, _ | .number _, _, _, _ | .string _, _, _, _ => rfl
  | .array [] true, _, _, _ | .object [] true, _, _, _ => rfl
  | .array (n :: ns) true, h, stack, ts => by
    have hns : tolerableItems (n :: ns) = true := h
    rw [tokens, List.append_assoc, List.cons_append, List.singleton_append, read_cons rfl,
      read_firstItem (Bool.and_eq_true_iff.mp hns).1,
      read_itemTokens (n :: ns) (List.cons_ne_nil n ns) hns]
    rfl
  | .object (m :: ms) true, h, stack, ts => by
    rw [tokens, List.append_assoc, List.cons_append, List.singleton_append, read_cons rfl,
      read_firstKey, read_memberTokens (m :: ms) (List.cons_ne_nil m ms) h]
    rfl

/-- The items of an array are read after those that the machine has. -/
theorem read_itemTokens : ∀ (ns : List Node), ns ≠ [] → tolerableItems ns = true →
    ∀ (stack : List Frame) (items : List Node) (ts : List Token),
    Document.read ⟨.value, .array items :: stack⟩
        ([Token.comma].intercalate (itemTokens ns) ++ .closeBracket :: ts) =
      Document.read ⟨.after (.array (items.reverse ++ ns) true), stack⟩ ts
  | [], h, _, _, _, _ => absurd rfl h
  | [n], _, h, stack, items, ts => by
    have hn : n.tolerable = true := by simpa [tolerableItems] using h
    rw [itemTokens, itemTokens, List.intercalate_singleton, read_tokens n hn, read_cons rfl,
      List.reverse_cons]
  | n :: n' :: ns, _, h, stack, items, ts => by
    obtain ⟨hn, hns⟩ := Bool.and_eq_true_iff.mp h
    rw [itemTokens, itemTokens, List.intercalate_cons_cons, ← itemTokens, List.append_assoc,
      List.append_assoc, read_tokens n hn, List.singleton_append, read_cons rfl,
      read_itemTokens (n' :: ns) (List.cons_ne_nil n' ns) hns, List.reverse_cons,
      List.append_assoc]
    rfl

/-- The members of an object are read after those that the machine has. -/
theorem read_memberTokens : ∀ (ms : List (Option String × Node)), ms ≠ [] →
    tolerableMembers ms = true →
    ∀ (stack : List Frame) (members : List (Option String × Node)) (ts : List Token),
    Document.read ⟨.key members, stack⟩
        ([Token.comma].intercalate (memberTokens ms) ++ .closeBrace :: ts) =
      Document.read ⟨.after (.object (members.reverse ++ ms) true), stack⟩ ts
  | [], h, _, _, _, _ => absurd rfl h
  | [(key, n)], _, h, stack, members, ts => by
    have hn : n.tolerable = true := by simpa [tolerableMembers] using h
    rw [memberTokens, memberTokens, List.intercalate_singleton, List.cons_append, List.cons_append,
      read_cons rfl, read_cons rfl, read_tokens n hn, read_cons rfl, List.reverse_cons]
  | (key, n) :: m :: ms, _, h, stack, members, ts => by
    obtain ⟨hn, hms⟩ := Bool.and_eq_true_iff.mp h
    rw [memberTokens, memberTokens, List.intercalate_cons_cons, ← memberTokens, List.append_assoc,
      List.append_assoc, List.cons_append, List.cons_append, read_cons rfl, read_cons rfl,
      read_tokens n hn, List.singleton_append, read_cons rfl,
      read_memberTokens (m :: ms) (List.cons_ne_nil m ms) hms, List.reverse_cons,
      List.append_assoc]
    rfl

end

/-- The tokens of a whole node are a whole document. -/
theorem ofTokens_tokens {n : Node} (h : n.tolerable = true) :
    Document.ofTokens n.tokens = ⟨n, true⟩ := by
  have hread := read_tokens n h [] []
  rw [List.append_nil] at hread
  exact hread

/-- Every text of a node is read as the node's document. -/
theorem Spells.ofText {n : Node} {text : String} (h : n.Spells text) :
    Document.ofText text = ⟨n, true⟩ := by
  rw [Document.ofText, tokens_of_spaced h.2 n.alternating_tokens, ofTokens_tokens h.1]

end Node

/-- A document is read from a text of what it is written as. -/
theorem readText_eq_ok {α : Type} {read : Nat → Node → Except Fault α} {x : α} {n : Node}
    {text : String} (hread : read maxDepth n = .ok x) (h : n.Spells text) :
    readText read text = .ok x := by
  rw [readText, h.ofText]
  simp only [bind, Except.bind, hread, Node.closing, if_true]
  rfl

/-! ### Values -/

namespace Value

mutual

/-- The node of a value. -/
def toNode : Value → Node
  | .null => .null
  | .bool b => .bool b
  | .number n => .number (some n)
  | .string s => .string (some s)
  | .array items => .array (itemNodes items) true
  | .object members => .object (memberNodes members) true

/-- The nodes of the items of an array. -/
def itemNodes : List Value → List Node
  | [] => []
  | v :: vs => v.toNode :: itemNodes vs

/-- The members of an object with their nodes. -/
def memberNodes : List (String × Value) → List (Option String × Node)
  | [] => []
  | (key, v) :: ms => (some key, v.toNode) :: memberNodes ms

end

mutual

theorem tokens_toNode : ∀ v : Value, v.toNode.tokens = v.tokens
  | .null | .bool _ | .number _ | .string _ => rfl
  | .array items => by rw [toNode, Node.tokens, itemTokens_itemNodes items, tokens]
  | .object members => by rw [toNode, Node.tokens, memberTokens_memberNodes members, tokens]

theorem itemTokens_itemNodes : ∀ vs : List Value, Node.itemTokens (itemNodes vs) = itemTokens vs
  | [] => rfl
  | v :: vs => by
    rw [itemNodes, Node.itemTokens, tokens_toNode v, itemTokens_itemNodes vs, itemTokens]

theorem memberTokens_memberNodes : ∀ ms : List (String × Value),
    Node.memberTokens (memberNodes ms) = memberTokens ms
  | [] => rfl
  | (key, v) :: ms => by
    rw [memberNodes, Node.memberTokens, tokens_toNode v, memberTokens_memberNodes ms, memberTokens]

end

mutual

/-- The node of a value is whole. -/
theorem tolerable_toNode : ∀ v : Value, v.toNode.tolerable = true
  | .null | .bool _ | .number _ | .string _ => rfl
  | .array items => tolerable_itemNodes items
  | .object members => tolerable_memberNodes members

theorem tolerable_itemNodes : ∀ vs : List Value, tolerableItems (itemNodes vs) = true
  | [] => rfl
  | v :: vs => Bool.and_eq_true_iff.mpr ⟨tolerable_toNode v, tolerable_itemNodes vs⟩

theorem tolerable_memberNodes : ∀ ms : List (String × Value),
    tolerableMembers (memberNodes ms) = true
  | [] => rfl
  | (_, v) :: ms => Bool.and_eq_true_iff.mpr ⟨tolerable_toNode v, tolerable_memberNodes ms⟩

end

/-- The texts of a value are texts of its node. -/
theorem Spells.toNode {v : Value} {text : String} (h : v.Spells text) : v.toNode.Spells text :=
  ⟨tolerable_toNode v, by rw [tokens_toNode]; exact h.loosely⟩

/-- Every text of a value is read as the value's document. -/
theorem Spells.ofText {v : Value} {text : String} (h : v.Spells text) :
    Document.ofText text = ⟨v.toNode, true⟩ :=
  h.toNode.ofText

mutual

/-- Within its depth a value is got back from its node. -/
theorem complete_toNode : ∀ {v : Value} {depth : Nat}, v.depth ≤ depth →
    v.toNode.complete depth = some v
  | .null, _, _ | .bool _, _, _ | .number _, _, _ | .string _, _, _ => rfl
  | .array items, depth + 1, h => by
    rw [toNode, Node.complete, if_pos rfl, completeItems_itemNodes (Nat.le_of_succ_le_succ h)]
    rfl
  | .object members, depth + 1, h => by
    rw [toNode, Node.complete, if_pos rfl, completeMembers_memberNodes (Nat.le_of_succ_le_succ h)]
    rfl

theorem completeItems_itemNodes : ∀ {vs : List Value} {depth : Nat}, itemsDepth vs ≤ depth →
    completeItems depth (itemNodes vs) = some vs
  | [], _, _ => rfl
  | v :: vs, depth, h => by
    obtain ⟨hv, hvs⟩ := Nat.max_le.mp h
    rw [itemNodes, completeItems, complete_toNode hv, completeItems_itemNodes hvs]
    rfl

theorem completeMembers_memberNodes : ∀ {ms : List (String × Value)} {depth : Nat},
    membersDepth ms ≤ depth → completeMembers depth (memberNodes ms) = some ms
  | [], _, _ => rfl
  | (key, v) :: ms, depth, h => by
    obtain ⟨hv, hms⟩ := Nat.max_le.mp h
    rw [memberNodes, completeMembers, complete_toNode hv, completeMembers_memberNodes hms]
    rfl

end

/-- A text is that of one value only. -/
theorem Spells.unique {v w : Value} {text : String} (hv : v.Spells text) (hw : w.Spells text) :
    v = w := by
  have hnode : v.toNode = w.toNode := congrArg Document.root (hv.ofText.symm.trans hw.ofText)
  have hsame := congrArg (Node.complete (max v.depth w.depth)) hnode
  rw [complete_toNode (le_max_left _ _), complete_toNode (le_max_right _ _)] at hsame
  exact Option.some.inj hsame

end Value

end IdentityTypes.Json
