/-
# What filters are written as

A filter is written as an object with its kind and its parts, in any order and with any
other members among them, and so are the filters inside it. The plainest of these objects
has the kind first, then the parts, and nothing else; it has a text, as long as the
numbers among the operands are integers of 64 bits.

Key definitions: `Once`, `Operand.toValue`, `Filter.WrittenAs`, `Filter.toValue`,
`Filter.levels`, `Filter.operands`.
Key theorems: `Filter.writtenAs_toValue`, `Filter.depth_toValue`, `Filter.exists_text`.
-/
import IdentityTypes.Filter.Text
import IdentityTypes.Proofs.Json.Writing

namespace IdentityTypes

open Json

/-- An operand as a JSON value. -/
def Operand.toValue : Operand → Value
  | .null => .null
  | .bool b => .bool b
  | .number n => .number n
  | .string s => .string s

/-- The key is given once among the members, and with this value. -/
def Once (members : List (String × Value)) (key : String) (v : Value) : Prop :=
  members.filter (·.1 = key) = [(key, v)]

namespace Filter

/-- An object is one of those that a filter is written as: it has the kind of the filter,
and for each of its parts the member of that name, each once. -/
inductive WrittenAs : Filter → Value → Prop
  | compare {c : Comparison} {field : String} {x : Operand} {ms : List (String × Value)}
      (hkind : Once ms "kind" (.string (Filter.compare c field x).kind.name))
      (hfield : Once ms "field" (.string field)) (hval : Once ms "val" x.toValue) :
      WrittenAs (.compare c field x) (.object ms)
  | present {field : String} {ms : List (String × Value)}
      (hkind : Once ms "kind" (.string (Filter.present field).kind.name))
      (hfield : Once ms "field" (.string field)) : WrittenAs (.present field) (.object ms)
  | always {ms : List (String × Value)}
      (hkind : Once ms "kind" (.string Filter.always.kind.name)) : WrittenAs .always (.object ms)
  | never {ms : List (String × Value)}
      (hkind : Once ms "kind" (.string Filter.never.kind.name)) : WrittenAs .never (.object ms)
  | not {f : Filter} {v : Value} {ms : List (String × Value)}
      (hkind : Once ms "kind" (.string (Filter.not f).kind.name))
      (hfilter : Once ms "filter" v) (hf : WrittenAs f v) : WrittenAs (.not f) (.object ms)
  | and {a b : Filter} {v w : Value} {ms : List (String × Value)}
      (hkind : Once ms "kind" (.string (Filter.and a b).kind.name))
      (hv : Once ms "a" v) (hw : Once ms "b" w) (ha : WrittenAs a v) (hb : WrittenAs b w) :
      WrittenAs (.and a b) (.object ms)
  | or {a b : Filter} {v w : Value} {ms : List (String × Value)}
      (hkind : Once ms "kind" (.string (Filter.or a b).kind.name))
      (hv : Once ms "a" v) (hw : Once ms "b" w) (ha : WrittenAs a v) (hb : WrittenAs b w) :
      WrittenAs (.or a b) (.object ms)

/-! ### The plainest object -/

/-- The object of the kind and the parts. -/
def toValue : Filter → Value
  | .compare c field x => .object
    [("kind", .string c.name), ("field", .string field), ("val", x.toValue)]
  | .present field => .object [("kind", .string "pr"), ("field", .string field)]
  | .always => .object [("kind", .string "true")]
  | .never => .object [("kind", .string "false")]
  | .not f => .object [("kind", .string "!"), ("filter", f.toValue)]
  | .and a b => .object [("kind", .string "and"), ("a", a.toValue), ("b", b.toValue)]
  | .or a b => .object [("kind", .string "or"), ("a", a.toValue), ("b", b.toValue)]

theorem writtenAs_toValue : ∀ f : Filter, f.WrittenAs f.toValue
  | .compare _ _ _ => .compare rfl rfl rfl
  | .present _ => .present rfl rfl
  | .always => .always rfl
  | .never => .never rfl
  | .not f => .not rfl rfl f.writtenAs_toValue
  | .and a b => .and rfl rfl rfl a.writtenAs_toValue b.writtenAs_toValue
  | .or a b => .or rfl rfl rfl a.writtenAs_toValue b.writtenAs_toValue

/-- How many filters are inside one another. -/
def levels : Filter → Nat
  | .compare _ _ _ | .present _ | .always | .never => 1
  | .not f => f.levels + 1
  | .and a b | .or a b => max a.levels b.levels + 1

theorem depth_toValue : ∀ f : Filter, f.toValue.depth = f.levels
  | .compare _ _ x => by
    cases x <;> rfl
  | .present _ | .always | .never => rfl
  | .not f => by
    simp [toValue, Value.depth, Value.membersDepth, levels, f.depth_toValue]
  | .and a b | .or a b => by
    simp [toValue, Value.depth, Value.membersDepth, levels, a.depth_toValue, b.depth_toValue]

/-- What is compared with in a filter. -/
def operands : Filter → List Operand
  | .compare _ _ x => [x]
  | .present _ | .always | .never => []
  | .not f => f.operands
  | .and a b | .or a b => a.operands ++ b.operands

end Filter

/-- The operand is no number but an integer of 64 bits. -/
def Operand.IsWritable : Operand → Prop
  | .number (.integer n) => FitsWord n
  | .number (.float _) => False
  | .null | .bool _ | .string _ => True

theorem Operand.isPlain_toValue {x : Operand} (h : x.IsWritable) :
    ∀ t ∈ x.toValue.tokens, t.isPlain = true := by
  cases x with
  | null | bool _ | string _ => exact List.forall_mem_singleton.mpr rfl
  | number n =>
    cases n with
    | float y => cases h
    | integer n => exact List.forall_mem_singleton.mpr (decide_eq_true h)

namespace Filter

theorem isPlain_toValue : ∀ {f : Filter}, (∀ x ∈ f.operands, x.IsWritable) →
    ∀ t ∈ f.toValue.tokens, t.isPlain = true
  | .compare _ _ x, h => by
    have hx := Operand.isPlain_toValue (h x List.mem_cons_self)
    exact isPlain_object (by simpa [Value.tokens, Token.isPlain] using hx)
  | .present _, _ | .always, _ | .never, _ =>
    isPlain_object (by simp [Value.tokens, Token.isPlain])
  | .not f, h => by
    have hf := isPlain_toValue (f := f) h
    exact isPlain_object (by simpa [Value.tokens, Token.isPlain] using hf)
  | .and a b, h | .or a b, h => by
    obtain ⟨ha, hb⟩ := List.forall_mem_append.mp h
    exact isPlain_object (by
      simpa [Value.tokens, Token.isPlain] using ⟨isPlain_toValue ha, isPlain_toValue hb⟩)

/-- Every filter whose operands can be written has a text, nested as deep as the filter. -/
theorem exists_text {f : Filter} (h : ∀ x ∈ f.operands, x.IsWritable) :
    ∃ v text, f.WrittenAs v ∧ v.Spells text ∧ v.depth = f.levels :=
  ⟨f.toValue, _, f.writtenAs_toValue, Value.spells_text (isPlain_toValue h), f.depth_toValue⟩

end Filter

end IdentityTypes
