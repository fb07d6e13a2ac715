/-
# Reading filters

A filter is written as an object: the member `kind` says what it does, and its
parts are members named `field`, `val`, `filter`, `a` and `b`. It may also be
written as an array of its kind and its parts in this order. Members that the
kind has no use for are passed over.

The kind of the outermost filter is judged where it stands. All else in the
document has to be complete first, and is then judged in the order of the text;
last come the parts that are not there. In a filter inside another the kind may
also be given by its number.

The words of kinds are listed once more here, for the reader has a list of its own.

Key definitions: `Slot`, `Part`, `Kind.slots`, `Kind.words`, `Kind.build`, `ofValue`, `read`.
-/
import IdentityTypes.Filter.Text
import IdentityTypes.Json.Reader

namespace IdentityTypes.Filter

open Json

/-- The members that hold the parts of a filter. -/
inductive Slot where
  | field
  | val
  | filter
  | a
  | b
  deriving DecidableEq, Repr

/-- The name of a member. -/
def Slot.name : Slot → String
  | .field => "field"
  | .val => "val"
  | .filter => "filter"
  | .a => "a"
  | .b => "b"

/-- A part of a filter. -/
inductive Part where
  | text (s : String)
  | operand (x : Operand)
  | filter (f : Filter)
  deriving Repr

/-- The members of a filter, in their declared order. -/
def Kind.slots : Kind → List Slot
  | .compare _ => [.field, .val]
  | .present => [.field]
  | .always | .never => []
  | .not => [.filter]
  | .and | .or => [.a, .b]

/-- The kind in messages. -/
def Kind.title : Kind → String
  | .compare .equal => "Equals"
  | .compare .greater => "Greater"
  | .compare .greaterOrEqual => "GreaterOrEqual"
  | .compare .less => "Less"
  | .compare .lessOrEqual => "LessOrEqual"
  | .compare .contains => "Contains"
  | .compare .startsWith => "StartsWith"
  | .present => "Presence"
  | .always => "True"
  | .never => "False"
  | .not => "Not"
  | .and => "And"
  | .or => "Or"

/-- The words by which kinds are read, in the order in which they are numbered and listed. -/
def Kind.words : List (String × Kind) :=
  [("eq", .compare .equal), ("gt", .compare .greater), ("ge", .compare .greaterOrEqual),
    ("lt", .compare .less), ("le", .compare .lessOrEqual), ("co", .compare .contains),
    ("sw", .compare .startsWith), ("pr", .present), ("true", .always), ("false", .never),
    ("!", .not), ("and", .and), ("or", .or)]

/-- The kind with the word given. -/
def Kind.ofName? (name : String) : Option Kind := Kind.words.lookup name

/-- The filter made of parts, or the name of the first one that is missing. -/
def Kind.build (k : Kind) (parts : List (Slot × Part)) : Except Fault Filter :=
  match k with
  | .compare c => do .ok (.compare c (← text .field) (← operand .val))
  | .present => do .ok (.present (← text .field))
  | .always => .ok .always
  | .never => .ok .never
  | .not => do .ok (.not (← filter .filter))
  | .and => do .ok (.and (← filter .a) (← filter .b))
  | .or => do .ok (.or (← filter .a) (← filter .b))
where
  missing (slot : Slot) : Fault := .missingField slot.name
  text (slot : Slot) : Except Fault String :=
    match parts.lookup slot with
    | some (.text s) => .ok s
    | _ => .error (missing slot)
  operand (slot : Slot) : Except Fault Operand :=
    match parts.lookup slot with
    | some (.operand x) => .ok x
    | _ => .error (missing slot)
  filter (slot : Slot) : Except Fault Filter :=
    match parts.lookup slot with
    | some (.filter f) => .ok f
    | _ => .error (missing slot)

/-- The operand that a value is. -/
def operandOf (v : Value) : Except Fault Operand :=
  match v with
  | .null => .ok .null
  | .bool b => .ok (.bool b)
  | .number n => .ok (.number n)
  | .string s => .ok (.string s)
  | .array _ | .object _ => .error (.noVariant "FilterValue")

/-- The text that a value is. -/
def textOf (v : Value) : Except Fault String :=
  match v with
  | .string s => .ok s
  | v => .error (v.mismatch "a string")

/-- The kind with a word, or the fault of the word. -/
def kindNamed (name : String) : Except Fault Kind :=
  match Kind.ofName? name with
  | some k => .ok k
  | none => .error (.unknownVariant name (Kind.words.map (·.1)))

/-- The kind of a filter inside another. -/
def kindOf (v : Value) : Except Fault Kind :=
  match v with
  | .string s => kindNamed s
  | .number (.integer (.ofNat n)) =>
    match Kind.words[n]? with
    | some (_, k) => .ok k
    | none => .error (.variantIndex n Kind.words.length)
  | v => .error (v.mismatch "variant identifier")

/-- The kind among the members of a filter inside another, where `found` is the
one met so far. -/
def kindAmong (found : Option Kind) : List (String × Value) → Except Fault Kind
  | [] =>
    match found with
    | some k => .ok k
    | none => .error (.missingField "kind")
  | (key, v) :: ms =>
    if key = "kind" then
      match found with
      | some _ => .error (.duplicateField "kind")
      | none => do kindAmong (some (← kindOf v)) ms
    else kindAmong found ms

/-- The number of elements in messages. -/
def elements (n : Nat) : String :=
  toString n ++ (if n = 1 then " element" else " elements")

/-- The fault of an array with too few parts. -/
def tooShort (k : Kind) (given : Nat) : Fault :=
  .wrongLength given ("struct variant Filter::" ++ k.title ++ " with " ++ elements k.slots.length)

/-- The fault of an array with too many parts. -/
def tooLong (k : Kind) (given : Nat) : Fault :=
  .wrongLength given (elements k.slots.length ++ " in sequence")

/-- The part that a value is, where `nested` is the filter that it is. -/
def partOf (slot : Slot) (v : Value) (nested : Except Fault Filter) : Except Fault Part :=
  match slot with
  | .field => (textOf v).map .text
  | .val => (operandOf v).map .operand
  | .filter | .a | .b => nested.map .filter

mutual

/-- The filter that a value is. -/
def ofValue : Value → Except Fault Filter
  | .object members => do
    let k ← kindAmong none members
    ofMembers k [] members
  | .array [] => .error (.missingField "kind")
  | .array (v :: vs) => do
    let k ← kindOf v
    ofItems k vs.length [] k.slots vs
  | v => .error (v.mismatch "internally tagged enum Filter")

/-- The filter of kind `k` with the members given, where `parts` are read. -/
def ofMembers (k : Kind) (parts : List (Slot × Part)) : List (String × Value) → Except Fault Filter
  | [] => k.build parts
  | (key, v) :: ms =>
    match k.slots.find? (·.name = key) with
    | none => ofMembers k parts ms
    | some slot =>
      if (parts.lookup slot).isSome then .error (.duplicateField key)
      else do
        let part ← partOf slot v (ofValue v)
        ofMembers k ((slot, part) :: parts) ms

/-- The filter of kind `k` with the `given` parts of an array, where `parts` are
read and `slots` are to come. -/
def ofItems (k : Kind) (given : Nat) (parts : List (Slot × Part)) :
    List Slot → List Value → Except Fault Filter
  | [], [] => k.build parts
  | [], _ :: _ => .error (tooLong k given)
  | _ :: _, [] => .error (tooShort k given)
  | slot :: slots, v :: vs => do
    let part ← partOf slot v (ofValue v)
    ofItems k given ((slot, part) :: parts) slots vs

end

/-- Reads the kind of the outermost filter. -/
def readKind (n : Node) : Except Fault Kind :=
  match n with
  | .string (some s) => kindNamed s
  | n => .error (n.mismatch "variant identifier")

/-- Reads a node that is judged later. -/
def readWhole (depth : Nat) (n : Node) : Except Fault Value :=
  match n.complete depth with
  | some v => .ok v
  | none => .error .malformed

/-- Reads the members of the outermost filter: its kind, if it is among them, and
the others. -/
def readMembers (depth : Nat) (found : Option Kind) :
    List (Option String × Node) → Except Fault (Option Kind × List (String × Value))
  | [] => .ok (found, [])
  | (none, _) :: _ => .error .malformed
  | (some key, n) :: ms =>
    if key = "kind" then
      match found with
      | some _ => .error (.duplicateField "kind")
      | none => do
        let k ← readKind n
        readMembers depth (some k) ms
    else do
      let v ← readWhole depth n
      let (k, rest) ← readMembers depth found ms
      pure (k, (key, v) :: rest)

/-- Reads a filter. -/
def read (depth : Nat) (n : Node) : Except Fault Filter :=
  match n with
  | .object members closed => do
    Node.entering depth
    let (kind, members) ← readMembers (depth - 1) none members
    Node.closing closed
    match kind with
    | some k => ofMembers k [] members
    | none => .error (.missingField "kind")
  | .array items closed => do
    Node.entering depth
    match items with
    | [] =>
      Node.closing closed
      .error (.missingField "kind")
    | n :: ns =>
      let k ← readKind n
      let vs ← ns.mapM (readWhole (depth - 1))
      Node.closing closed
      ofItems k vs.length [] k.slots vs
  | n => .error (n.mismatch "internally tagged enum Filter")

/-- Reads the filter in a text. -/
def ofText (s : String) : Except Fault Filter := readText read s

end IdentityTypes.Filter
