/-
# The layout of a configuration does not matter

The documents of a configuration are read as what they are written for, whatever their
layout. Two file trees with the same configuration, and with the connectors' files at the
same paths, therefore give the same catalog, and so the same types.

Key definitions: `HoldsDocument`, `HoldsConfiguration`, `ConfigurationNamesDiffer`.
Key theorems: `prepare_eq`, `documents_readFaithfully`.
-/
import IdentityTypes.Generator
import IdentityTypes.Proofs.Schema.Reading
import IdentityTypes.Proofs.Text.Utf8

namespace IdentityTypes

open Json

/-- A file has a text of a document that is written in this way. -/
def HoldsDocument (t : Files.Tree) (path : String) (written : Node → Prop) : Prop :=
  ∃ n text, t.readText path = .ok text ∧ written n ∧ n.Spells text

/-- The files of a configuration have these managed objects, and for each connector's file
these object types. -/
structure HoldsConfiguration (t : Files.Tree) (dir : String) (objects : List ManagedObject)
    (types : String → List (String × Schema)) : Prop where
  managed : HoldsDocument t (Files.join dir managedFile) (ManagedAs 127 objects)
  connectors : ∀ path ∈ connectorPaths t dir, HoldsDocument t path (ObjectTypesAs 127 (types path))

/-- In all schemas of a configuration the names differ that have to. -/
structure ConfigurationNamesDiffer (objects : List ManagedObject)
    (types : String → List (String × Schema)) : Prop where
  objects : ∀ o ∈ objects, o.schema.NamesDiffer
  typeNames : ∀ path, ((types path).map (·.1)).Nodup
  types : ∀ path, ∀ t ∈ types path, t.2.NamesDiffer

section

variable {t t' : Files.Tree} {dir : String} {objects : List ManagedObject}
  {types : String → List (String × Schema)}

theorem HoldsConfiguration.loadManaged (h : HoldsConfiguration t dir objects types)
    (hnames : ConfigurationNamesDiffer objects types) :
    IdentityTypes.loadManaged t dir = .ok objects := by
  obtain ⟨n, text, htext, hwritten, hspells⟩ := h.managed
  rw [IdentityTypes.loadManaged, loadDocument, htext]
  dsimp only
  rw [hwritten.read hnames.objects hspells]
  rfl

theorem HoldsConfiguration.loadConnector (h : HoldsConfiguration t dir objects types)
    (hnames : ConfigurationNamesDiffer objects types) {path : String}
    (hpath : path ∈ connectorPaths t dir) :
    IdentityTypes.loadConnector t path =
      match connectorName? path with
      | some name => .ok ⟨path, ⟨name, types path⟩⟩
      | none => .error (.unnamedConnector path) := by
  obtain ⟨n, text, htext, hwritten, hspells⟩ := h.connectors path hpath
  rw [IdentityTypes.loadConnector, loadDocument, htext]
  dsimp only
  rw [hwritten.read (hnames.typeNames path) (hnames.types path) hspells]
  rfl

/-- Files with the same configuration, written in whatever way, give the same catalog. -/
theorem prepare_eq {s : Settings} (hnames : ConfigurationNamesDiffer objects types)
    (hpaths : connectorPaths t' s.configDir = connectorPaths t s.configDir)
    (h : HoldsConfiguration t s.configDir objects types)
    (h' : HoldsConfiguration t' s.configDir objects types) : prepare s t' = prepare s t := by
  have hdiscover : discover t' s.configDir = discover t s.configDir := by
    rw [discover, discover, hpaths]
    exact mapM_congr fun path hpath => by
      rw [h.loadConnector hnames hpath, h'.loadConnector hnames (hpaths ▸ hpath)]
  rw [prepare, prepare, load, load, h.loadManaged hnames, h'.loadManaged hnames, hdiscover]

end

/-- **Documents are read faithfully whatever their layout.** Every schema that is nested at
most 127 deep and whose names differ has a text, and is read from every text of every layout
of it. The managed objects and the object types of connectors are read from theirs, and so
the layouts in the files of a configuration have no influence on the catalog. -/
theorem documents_readFaithfully :
    (∀ s : Schema, s.NamesDiffer → s.levels ≤ 127 →
      (∃ n text, s.WrittenAs 127 n ∧ n.Spells text) ∧
        ∀ n text, s.WrittenAs 127 n → n.Spells text → Schema.ofText text = .ok s) ∧
    (∀ objects : List ManagedObject, (∀ o ∈ objects, o.schema.NamesDiffer) →
      ∀ n text, ManagedAs 127 objects n → n.Spells text → readManaged text = .ok objects) ∧
    (∀ types : List (String × Schema), (types.map (·.1)).Nodup →
      (∀ t ∈ types, t.2.NamesDiffer) →
      ∀ n text, ObjectTypesAs 127 types n → n.Spells text → readObjectTypes text = .ok types) ∧
    ∀ (s : Settings) (t t' : Files.Tree) (objects : List ManagedObject)
      (types : String → List (String × Schema)), ConfigurationNamesDiffer objects types →
      connectorPaths t' s.configDir = connectorPaths t s.configDir →
      HoldsConfiguration t s.configDir objects types →
      HoldsConfiguration t' s.configDir objects types → prepare s t' = prepare s t :=
  ⟨fun _ hnames hlevels => ⟨Schema.exists_text hlevels,
      fun _ _ hwritten hspells => readText_eq_ok (hwritten.read hnames).2 hspells⟩,
    fun _ hnames _ _ hwritten hspells => hwritten.read hnames hspells,
    fun _ hdiffer hnames _ _ hwritten hspells => hwritten.read hdiffer hnames hspells,
    fun _ _ _ _ _ hnames hpaths h h' => prepare_eq hnames hpaths h h'⟩

/-- A schema with one property, which it requires. -/
def userSchema : Schema where
  properties := [("mail", { type := some (.union ["string", "null"]) })]
  required := ["mail"]

/-- A layout of it: the members are not in their order, the property has a flag for required
properties and null for its title, and a member that nobody asks for has both faults that
are tolerated there. -/
def userNode : Node :=
  .object [(some "x", .array [.number none, .string none] true),
    (some "required", .array [.string (some "mail")] true),
    (some "properties", .object [(some "mail", .object [(some "required", .bool true),
      (some "title", .null),
      (some "type", .array [.string (some "string"), .string (some "null")] true)] true)] true)]
    true

/-- A text of it. -/
def userText : String :=
  "\x7b\"x\":[ 1e999,\"\\ud800\"],\"required\":[\"mail\"],\"properties\":\x7b\"mail\":" ++
    "\x7b\"required\":true,\"title\":null,\"type\":[\"string\",\"null\"]\x7d\x7d\x7d"

theorem namesDiffer_userSchema : userSchema.NamesDiffer :=
  .mk (by decide) (List.forall_mem_singleton.mpr (.mk (by decide) (List.forall_mem_nil _) nofun))
    nofun

theorem writtenAs_userNode (depth : Nat) : userSchema.WrittenAs (depth + 4) userNode := by
  have hmail : Schema.WrittenAs (depth + 2) { type := some (.union ["string", "null"]) }
      (.object [(some "required", .bool true), (some "title", .null),
        (some "type", .array [.string (some "string"), .string (some "null")] true)] true) := by
    refine ⟨Nat.succ_ne_zero _, _, rfl, ?_, ?_⟩
    · simp [Tolerates, Schema.memberNames]
    · exact {
        type := .given rfl ⟨Nat.succ_ne_zero _, _, rfl, .cons rfl (.cons rfl .nil)⟩
        title := .given rfl rfl
        description := .omitted (by simp [NotGiven]) rfl
        properties := .omitted (by simp [NotGiven]) rfl
        required := .given rfl (.flag true)
        items := .omitted (by simp [NotGiven]) rfl
        collections := .omitted (by simp [NotGiven]) rfl
        returnByDefault := .omitted (by simp [NotGiven]) rfl }
  refine ⟨Nat.succ_ne_zero _, _, rfl, ?_, ?_⟩
  · simp [Tolerates, Schema.memberNames, Node.tolerable, tolerableItems]
  · exact {
      type := .omitted (by simp [NotGiven]) rfl
      title := .omitted (by simp [NotGiven]) rfl
      description := .omitted (by simp [NotGiven]) rfl
      properties := .given rfl ⟨Nat.succ_ne_zero _, _, rfl, .cons ⟨rfl, hmail⟩ .nil⟩
      required := .given rfl (.names ⟨Nat.succ_ne_zero _, _, rfl, .cons rfl .nil⟩)
      items := .omitted (by simp [NotGiven]) rfl
      collections := .omitted (by simp [NotGiven]) rfl
      returnByDefault := .omitted (by simp [NotGiven]) rfl }

theorem spells_userText : userNode.Spells userText := by
  have hpower : ExponentText _ ('e' :: Nat.toDigits 10 999) :=
    .plain (.inl rfl) (isDigits_toDigits 999)
  have hlarge := @NumeralText.mk false _ _ _ _ _ (isDigits_toDigits 1) (head?_toDigits 1) .none hpower
  have hdigits := HexText.mk (a := ('d', 13)) (b := ('8', 8)) (c := ('0', 0)) (d := ('0', 0))
    (by decide) (by decide) (by decide) (by decide)
  have hhalf := (PieceText.number hdigits).pieces
  have hspaced := (spaced_text [.openBrace, .string (some "x"), .colon, .openBracket]
    (by decide)).loosely.append <|
    .cons (List.forall_mem_singleton.mpr (by decide) : IsBlank [' '])
      (.large hlarge (by decide +kernel)) <|
    (spaced_text [.comma] (by decide)).loosely.append <|
    .cons (List.forall_mem_nil _) (.half hhalf fun _ => hhalf.not_charsText (by decide)) <|
    (spaced_text [.closeBracket, .comma, .string (some "required"), .colon, .openBracket,
      .string (some "mail"), .closeBracket, .comma, .string (some "properties"), .colon,
      .openBrace, .string (some "mail"), .colon, .openBrace, .string (some "required"), .colon,
      .bool true, .comma, .string (some "title"), .colon, .null, .comma, .string (some "type"),
      .colon, .openBracket, .string (some "string"), .comma, .string (some "null"),
      .closeBracket, .closeBrace, .closeBrace, .closeBrace] (by decide)).loosely
  refine ⟨by decide, ?_⟩
  convert hspaced using 1
  · rfl
  · decide +kernel

/-- Where the tokens of a node stand among plain ones, so may its text. -/
theorem Json.Node.Spells.around {n m : Node} {text : String} (h : m.Spells text)
    (before after : List Token) (hn : n.tolerable = true)
    (htokens : n.tokens = before ++ m.tokens ++ after)
    (hbefore : ∀ t ∈ before, t.isPlain = true) (hafter : ∀ t ∈ after, t.isPlain = true) :
    n.Spells (String.ofList (before.flatMap Token.text) ++ text ++
      String.ofList (after.flatMap Token.text)) := by
  refine ⟨hn, ?_⟩
  rw [htokens, String.toList_append, String.toList_append, String.toList_ofList,
    String.toList_ofList]
  exact ((spaced_text _ hbefore).loosely.append h.2).append (spaced_text _ hafter).loosely

/-- A document with this layout of the schema of a managed object. -/
def managedNode : Node :=
  .object [(some "objects", .array [.object [(some "schema", userNode),
    (some "name", .string (some "user"))] true] true)] true

def managedText : String :=
  "\x7b\"objects\":[\x7b\"schema\":" ++ userText ++ ",\"name\":\"user\"\x7d]\x7d"

theorem spells_managedText : managedNode.Spells managedText := by
  have h := spells_userText.around (n := managedNode)
    [.openBrace, .string (some "objects"), .colon, .openBracket, .openBrace,
      .string (some "schema"), .colon]
    [.comma, .string (some "name"), .colon, .string (some "user"), .closeBrace, .closeBracket,
      .closeBrace] (by decide) rfl (by decide) (by decide)
  convert h using 1
  decide +kernel

def user : ManagedObject := ⟨"user", userSchema⟩

theorem managedAs_managedNode : ManagedAs 127 [user] managedNode := by
  refine ⟨by decide, _, rfl, by simp [Tolerates], .given rfl ⟨by decide, _, rfl, .cons ?_ .nil⟩⟩
  exact ⟨by decide, _, rfl, by simp [Tolerates], .given rfl rfl,
    .given rfl (writtenAs_userNode 120)⟩

/-- A document with it for an object type. -/
def objectTypesNode : Node :=
  .object [(some "objectTypes", .object [(some "account", userNode)] true)] true

def objectTypesText : String := "\x7b\"objectTypes\":\x7b\"account\":" ++ userText ++ "\x7d\x7d"

theorem spells_objectTypesText : objectTypesNode.Spells objectTypesText := by
  have h := spells_userText.around (n := objectTypesNode)
    [.openBrace, .string (some "objectTypes"), .colon, .openBrace, .string (some "account"), .colon]
    [.closeBrace, .closeBrace] (by decide) rfl (by decide) (by decide)
  convert h using 1
  decide +kernel

theorem objectTypesAs_objectTypesNode :
    ObjectTypesAs 127 [("account", userSchema)] objectTypesNode :=
  ⟨by decide, _, rfl, by simp [Tolerates],
    .given rfl ⟨by decide, _, rfl, .cons ⟨rfl, writtenAs_userNode 121⟩ .nil⟩⟩

/-- The first document in its plainest layout. -/
def plainValue : Value :=
  .object [("objects", .array [.object [("name", .string "user"), ("schema", userSchema.toValue)]])]

def plainText : String := String.ofList (plainValue.tokens.flatMap Token.text)

theorem spells_plainText : plainValue.toNode.Spells plainText :=
  (Value.spells_text (by decide +kernel)).toNode

theorem managedAs_plainNode : ManagedAs 127 [user] plainValue.toNode := by
  refine ⟨by decide, _, rfl, by simp [Tolerates, Value.memberNodes],
    .given rfl ⟨by decide, _, rfl, .cons ?_ .nil⟩⟩
  exact ⟨by decide, _, rfl, by simp [Tolerates, Value.memberNodes], .given rfl rfl,
    .given rfl (Schema.writtenAs_toValue (by decide))⟩

/-- A file tree with a document of managed objects and no connectors. -/
def treeWith (document : String) : Files.Tree :=
  ⟨[(["conf"], .directory), (["conf", "managed.json"], .file (Text.encode document))], []⟩

theorem readText_treeWith (document : String) :
    (treeWith document).readText "conf/managed.json" = .ok document := by
  have hread : (treeWith document).read "conf/managed.json" = .ok (Text.encode document) := rfl
  rw [Files.Tree.readText, hread]
  simp only [bind, Except.bind, Text.decode_encode]

theorem connectorPaths_treeWith (document : String) :
    connectorPaths (treeWith document) "conf" = [] := rfl

theorem holdsConfiguration_treeWith {document : String} {n : Node} (hn : ManagedAs 127 [user] n)
    (h : n.Spells document) : HoldsConfiguration (treeWith document) "conf" [user] fun _ => [] where
  managed := ⟨n, document, readText_treeWith document, hn, h⟩
  connectors := by
    rw [connectorPaths_treeWith]
    exact List.forall_mem_nil _

theorem documents_readFaithfully_user :
    Schema.ofText userText = .ok userSchema ∧ readManaged managedText = .ok [user] ∧
      readObjectTypes objectTypesText = .ok [("account", userSchema)] ∧
      prepare { configDir := "conf" } (treeWith managedText) =
        prepare { configDir := "conf" } (treeWith plainText) := by
  have hnames : ∀ o ∈ [user], o.schema.NamesDiffer :=
    List.forall_mem_singleton.mpr namesDiffer_userSchema
  obtain ⟨hschema, hmanaged, htypes, hprepare⟩ := documents_readFaithfully
  exact ⟨(hschema userSchema namesDiffer_userSchema (by decide)).2 _ _ (writtenAs_userNode 123)
      spells_userText,
    hmanaged [user] hnames _ _ managedAs_managedNode spells_managedText,
    htypes [("account", userSchema)] (by decide)
      (List.forall_mem_singleton.mpr namesDiffer_userSchema) _ _ objectTypesAs_objectTypesNode
      spells_objectTypesText,
    hprepare { configDir := "conf" } (treeWith plainText) (treeWith managedText) [user]
      (fun _ => []) ⟨hnames, fun _ => List.nodup_nil, fun _ => List.forall_mem_nil _⟩
      ((connectorPaths_treeWith managedText).trans (connectorPaths_treeWith plainText).symm)
      (holdsConfiguration_treeWith managedAs_plainNode spells_plainText)
      (holdsConfiguration_treeWith managedAs_managedNode spells_managedText)⟩

end IdentityTypes
