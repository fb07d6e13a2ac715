/-
# A document as far as it can be read

A reader that looks for certain members judges a document from left to right,
and the first thing wrong with it counts, be it a fault of the text or a member
of the wrong kind. So a faulty text is not refused at once: it is read into a
tree that has the node `broken` where the text cannot be read on, and arrays and
objects around that place that are not closed.

`ofTokens` builds the tree with a stack of the arrays and objects that are
open, one token at a time.

Key definitions: `Node`, `Machine.step`, `Document.ofText`, `Node.tolerable`,
`Node.complete`.
-/
import IdentityTypes.Json.Token
import IdentityTypes.Json.Value

namespace IdentityTypes.Json

/-- A node of a document. A number is `none` if it is too large, and a string or
key if it holds half of a surrogate pair. -/
inductive Node where
  | null
  | bool (b : Bool)
  | number (n : Option Number)
  | string (s : Option String)
  | array (items : List Node) (closed : Bool)
  | object (members : List (Option String × Node)) (closed : Bool)
  | broken
  deriving Repr

/-- An array or object that is open, with what it has so far, backwards. In an
object a value is being read for `key`. -/
inductive Frame where
  | array (items : List Node)
  | object (members : List (Option String × Node)) (key : Option String)
  deriving Repr

/-- What has to come next: a value, a value or the end of the array just opened,
a key or the end of the object just opened, a key, a colon, or what may stand
after a value. The members of an object that waits for a key are kept here. -/
inductive Need where
  | value
  | firstItem
  | firstKey
  | key (members : List (Option String × Node))
  | colon (members : List (Option String × Node)) (key : Option String)
  | after (node : Node)
  deriving Repr

/-- A reader in the middle of a text. -/
structure Machine where
  need : Need
  stack : List Frame
  deriving Repr

namespace Machine

/-- The value that a token alone is. -/
def scalar : Token → Option Node
  | .null => some .null
  | .bool b => some (.bool b)
  | .number n => some (.number n)
  | .string s => some (.string s)
  | _ => none

/-- Reads the first token of a value. -/
def startValue (stack : List Frame) : Token → Option Machine
  | .openBracket => some ⟨.firstItem, stack⟩
  | .openBrace => some ⟨.firstKey, stack⟩
  | t => (scalar t).map fun n => ⟨.after n, stack⟩

/-- Reads one token, unless it must not stand there. -/
def step : Machine → Token → Option Machine
  | ⟨.value, stack⟩, t => startValue stack t
  | ⟨.firstItem, stack⟩, .closeBracket => some ⟨.after (.array [] true), stack⟩
  | ⟨.firstItem, stack⟩, t => startValue (.array [] :: stack) t
  | ⟨.firstKey, stack⟩, .closeBrace => some ⟨.after (.object [] true), stack⟩
  | ⟨.firstKey, stack⟩, .string s => some ⟨.colon [] s, stack⟩
  | ⟨.key members, stack⟩, .string s => some ⟨.colon members s, stack⟩
  | ⟨.colon members key, stack⟩, .colon => some ⟨.value, .object members key :: stack⟩
  | ⟨.after node, .array items :: stack⟩, .comma => some ⟨.value, .array (node :: items) :: stack⟩
  | ⟨.after node, .array items :: stack⟩, .closeBracket =>
    some ⟨.after (.array (node :: items).reverse true), stack⟩
  | ⟨.after node, .object members key :: stack⟩, .comma =>
    some ⟨.key ((key, node) :: members), stack⟩
  | ⟨.after node, .object members key :: stack⟩, .closeBrace =>
    some ⟨.after (.object ((key, node) :: members).reverse true), stack⟩
  | _, _ => none

/-- The node inside an open array or object, as an array or object that is not
closed. -/
def enclose (node : Node) : Frame → Node
  | .array items => .array (node :: items).reverse false
  | .object members key => .object ((key, node) :: members).reverse false

/-- The node that the reader was at when it could not go on. -/
def unfinished : Need → Node
  | .value => .broken
  | .firstItem => .array [] false
  | .firstKey => .object [] false
  | .key members => .object members.reverse false
  | .colon members key => .object ((key, .broken) :: members).reverse false
  | .after node => node

/-- The tree that the reader has built when it could not go on. -/
def abandon (m : Machine) : Node :=
  m.stack.foldl enclose (unfinished m.need)

end Machine

/-- A document: its tree, and whether the text holds that tree and no more. -/
structure Document where
  root : Node
  whole : Bool
  deriving Repr

namespace Document

/-- Reads tokens from the middle of a text. -/
def read (m : Machine) : List Token → Document
  | [] =>
    match m with
    | ⟨.after node, []⟩ => ⟨node, true⟩
    | m => ⟨m.abandon, false⟩
  | t :: ts =>
    match m.step t with
    | some m => read m ts
    | none => ⟨m.abandon, false⟩

/-- The document with the tokens given. -/
def ofTokens (ts : List Token) : Document := read ⟨.value, []⟩ ts

/-- The document in a text. -/
def ofText (s : String) : Document := ofTokens (tokens s.toList)

end Document

/-- The deepest nesting of arrays and objects that is read. -/
def maxDepth : Nat := 127

mutual

/-- Whether a node may stand where nobody asks for it: the text of it is complete.
Its depth, its numbers and the characters of its strings do not matter. -/
def Node.tolerable : Node → Bool
  | .null | .bool _ | .number _ | .string _ => true
  | .array items closed => closed && tolerableItems items
  | .object members closed => closed && tolerableMembers members
  | .broken => false

/-- Whether every item may stand where nobody asks for it. -/
def tolerableItems : List Node → Bool
  | [] => true
  | n :: ns => n.tolerable && tolerableItems ns

/-- Whether every member may stand where nobody asks for it. -/
def tolerableMembers : List (Option String × Node) → Bool
  | [] => true
  | (_, n) :: ms => n.tolerable && tolerableMembers ms

end

mutual

/-- The value of a node that is complete and nested at most `depth` deep. -/
def Node.complete (depth : Nat) : Node → Option Value
  | .null => some .null
  | .bool b => some (.bool b)
  | .number n => n.map .number
  | .string s => s.map .string
  | .array items closed =>
    match depth with
    | 0 => none
    | depth + 1 => if closed then (completeItems depth items).map .array else none
  | .object members closed =>
    match depth with
    | 0 => none
    | depth + 1 => if closed then (completeMembers depth members).map .object else none
  | .broken => none

/-- The values of the items of an array. -/
def completeItems (depth : Nat) : List Node → Option (List Value)
  | [] => some []
  | n :: ns => do
    let v ← n.complete depth
    let vs ← completeItems depth ns
    pure (v :: vs)

/-- The members of an object with their values. -/
def completeMembers (depth : Nat) : List (Option String × Node) → Option (List (String × Value))
  | [] => some []
  | (key, n) :: ms => do
    let key ← key
    let v ← n.complete depth
    let rest ← completeMembers depth ms
    pure ((key, v) :: rest)

end

end IdentityTypes.Json
