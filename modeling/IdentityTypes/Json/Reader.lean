/-
# Reading typed data from documents

Readers of the usual shapes: texts, flags, lists, maps and records. Each judges
its node from left to right and stops at the first fault (`Json.Node`). A reader
of a shape with parts takes the depth that is left for it and fails at zero.

A record is an object with known members, each at most once and in any order;
other members are passed over. It may also be written as an array of its
members in their declared order.

Key definitions: `Node.readString`, `Node.readBool`, `Node.readNullable`,
`Node.readList`, `Node.readMap`, `Field`, `Record`, `Record.read`, `readText`.
-/
import IdentityTypes.Json.Fault

namespace IdentityTypes.Json

namespace Node

/-- Reads a text. -/
def readString (n : Node) : Except Fault String :=
  match n with
  | .string (some s) => .ok s
  | n => .error (n.mismatch "a string")

/-- Reads a flag. -/
def readBool (n : Node) : Except Fault Bool :=
  match n with
  | .bool b => .ok b
  | n => .error (n.mismatch "a boolean")

/-- Reads what `read` reads, or null. -/
def readNullable {α : Type} (read : Node → Except Fault α) (n : Node) : Except Fault (Option α) :=
  match n with
  | .null => .ok none
  | n => (read n).map some

/-- The fault at the end of an array or object that is not closed. -/
def closing (closed : Bool) : Except Fault Unit :=
  if closed then .ok () else .error .malformed

/-- The fault of nesting too deep. -/
def entering (depth : Nat) : Except Fault Unit :=
  if depth = 0 then .error .malformed else .ok ()

/-- Reads a list. -/
def readList {α : Type} (depth : Nat) (item : Node → Except Fault α) (n : Node) :
    Except Fault (List α) :=
  match n with
  | .array items closed => do
    entering depth
    let xs ← items.mapM item
    closing closed
    pure xs
  | n => .error (n.mismatch "a sequence")

end Node

/-- Sets the value of a key. A key that is there already keeps its place. -/
def put {α : Type} (key : String) (value : α) : List (String × α) → List (String × α)
  | [] => [(key, value)]
  | (k, v) :: r => if k = key then (key, value) :: r else (k, v) :: put key value r

/-- Reads the members of a map into what is read so far. -/
def readEntries {α : Type} (value : Node → Except Fault α) :
    List (String × α) → List (Option String × Node) → Except Fault (List (String × α))
  | entries, [] => .ok entries
  | _, (none, _) :: _ => .error .malformed
  | entries, (some key, n) :: ms => do
    let v ← value n
    readEntries value (put key v entries) ms

/-- Reads a map, in the order in which its keys first appear. The last value of a
key counts. -/
def Node.readMap {α : Type} (depth : Nat) (value : Node → Except Fault α) (n : Node) :
    Except Fault (List (String × α)) :=
  match n with
  | .object members closed => do
    entering depth
    let entries ← readEntries value [] members
    closing closed
    pure entries
  | n => .error (n.mismatch "a map")

/-- What it means that a member of a record is not given: it must be, or it has
a value of its own. When the record is written as an array, only a member of the
last kind may be left out at the end. -/
inductive Absence where
  | mandatory
  | optional
  | defaulted
  deriving DecidableEq, Repr

/-- A member of a record of type `σ`. -/
structure Field (σ : Type) where
  name : String
  absence : Absence
  read : Node → σ → Except Fault σ

/-- The member that `read` reads and `set` puts into the record. -/
def Field.of {σ α : Type} (name : String) (absence : Absence) (read : Node → Except Fault α)
    (set : α → σ → σ) : Field σ :=
  ⟨name, absence, fun n s => (read n).map (set · s)⟩

/-- A record of type `σ`: its name in messages, its members in their declared
order, and the record before any of them is read. -/
structure Record (σ : Type) where
  name : String
  fields : List (Field σ)
  blank : σ

namespace Record

variable {σ : Type}

/-- The record with its number of members, as messages have it. -/
def withElements (r : Record σ) : String :=
  r.name ++ " with " ++ toString r.fields.length ++
    (if r.fields.length = 1 then " element" else " elements")

/-- Reads the members of an object into `s`, where those in `seen` are read. -/
def readMembers (r : Record σ) :
    List String → σ → List (Option String × Node) → Except Fault (List String × σ)
  | seen, s, [] => .ok (seen, s)
  | _, _, (none, _) :: _ => .error .malformed
  | seen, s, (some key, n) :: ms =>
    match r.fields.find? (·.name = key) with
    | none => if n.tolerable then r.readMembers seen s ms else .error .malformed
    | some f =>
      if seen.contains key then .error (.duplicateField key)
      else do
        let s ← f.read n s
        r.readMembers (key :: seen) s ms

/-- Reads the items of an array as the members `fields`, the first of which has
the number `i`. -/
def readItems (r : Record σ) (closed : Bool) :
    Nat → σ → List (Field σ) → List Node → Except Fault σ
  | _, s, [], [] => if closed then .ok s else .error .malformed
  | _, _, [], _ :: _ => .error .malformed
  | i, s, f :: fs, [] =>
    if !closed then .error .malformed
    else if f.absence = .defaulted then r.readItems closed (i + 1) s fs []
    else .error (.wrongLength i r.withElements)
  | i, s, f :: fs, n :: ns => do
    let s ← f.read n s
    r.readItems closed (i + 1) s fs ns

/-- Reads a record. -/
def read (r : Record σ) (depth : Nat) (n : Node) : Except Fault σ :=
  match n with
  | .object members closed => do
    Node.entering depth
    let (seen, s) ← r.readMembers [] r.blank members
    Node.closing closed
    match r.fields.find? fun f => f.absence = .mandatory && !seen.contains f.name with
    | some f => .error (.missingField f.name)
    | none => pure s
  | .array items closed => do
    Node.entering depth
    r.readItems closed 0 r.blank r.fields items
  | n => .error (n.mismatch r.name)

end Record

/-- Reads the document in a text, after which the text must end. -/
def readText {α : Type} (read : Nat → Node → Except Fault α) (s : String) : Except Fault α := do
  let document := Document.ofText s
  let a ← read maxDepth document.root
  Node.closing document.whole
  pure a

end IdentityTypes.Json
