/-
# Reading schemas

A schema is a record of eight members, none of which has to be given. Two of them
are read as a whole before they are judged. The type may be one tag, a list of
tags or null. The required properties are a list of names; a flag in their
place, which some configurations put on the property itself, says nothing here.

Key definitions: `readTypeTag`, `readRequired`, `Schema.record`, `Schema.read`.
-/
import IdentityTypes.Schema.Basic
import IdentityTypes.Json.Reader

namespace IdentityTypes

open Json

/-- The texts in a list of values, if it holds nothing else. -/
def textsOf : List Value → Option (List String)
  | [] => some []
  | .string s :: vs => (textsOf vs).map (s :: ·)
  | _ :: _ => none

/-- The type tag that a value stands for. -/
def typeTagOf (v : Value) : Except Fault TypeTag :=
  match v with
  | .string s => .ok (.single s)
  | .array vs =>
    match textsOf vs with
    | some tags => .ok (.union tags)
    | none => .error (.noVariant "SchemaType")
  | _ => .error (.noVariant "SchemaType")

/-- Reads the type of a schema. -/
def readTypeTag (depth : Nat) (n : Node) : Except Fault TypeTag :=
  match n.complete depth with
  | none => .error .malformed
  | some v => typeTagOf v

/-- The names in a list of values. -/
def namesOf : List Value → Except Fault (List String)
  | [] => .ok []
  | .string s :: vs => (namesOf vs).map (s :: ·)
  | v :: _ => .error (v.mismatch "a string")

/-- The required properties that a value stands for. -/
def requiredOf (v : Value) : Except Fault (List String) :=
  match v with
  | .array vs => namesOf vs
  | .bool _ | .null => .ok []
  | v => .error (.unusable "required" "a list of property names" v)

/-- Reads the required properties. -/
def readRequired (depth : Nat) (n : Node) : Except Fault (List String) :=
  match n.complete depth with
  | none => .error .malformed
  | some v => requiredOf v

/-- The record of a collection. -/
def ResourceCollection.record : Record ResourceCollection where
  name := "struct ResourceCollection"
  fields := [.of "path" .mandatory Node.readString fun path c => { c with path }]
  blank := ⟨""⟩

namespace Schema

/-- The record of a schema whose members may be nested `depth` deep, with the
readers of the items' schema and of the properties' schemas. -/
def record (depth : Nat) (item property : Node → Except Fault Schema) : Record Schema where
  name := "struct PropertySchema"
  fields := [
    .of "type" .optional (Node.readNullable (readTypeTag depth)) fun type s => { s with type },
    .of "title" .optional (Node.readNullable Node.readString) fun title s => { s with title },
    .of "description" .optional (Node.readNullable Node.readString) fun description s =>
      { s with description },
    .of "properties" .defaulted (Node.readMap depth property) fun properties s =>
      { s with properties },
    .of "required" .defaulted (readRequired depth) fun required s => { s with required },
    .of "items" .optional (Node.readNullable item) fun items s => { s with items },
    .of "resourceCollection" .defaulted
      (Node.readList depth (ResourceCollection.record.read (depth - 1))) fun collections s =>
      { s with collections },
    .of "returnByDefault" .optional (Node.readNullable Node.readBool) fun returnByDefault s =>
      { s with returnByDefault }]
  blank := {}

/-- Reads a schema nested at most `depth` deep. The schema of a property lies two
levels deeper than the schema that declares it, below the map of the
properties. -/
def read : Nat → Node → Except Fault Schema
  | 0, n => (record 0 (fun _ => .error .malformed) (fun _ => .error .malformed)).read 0 n
  | 1, n =>
    (record 0 (fun n => read 0 n) (fun _ => .error .malformed)).read 1 n
  | depth + 2, n =>
    (record (depth + 1) (fun n => read (depth + 1) n) (fun n => read depth n)).read (depth + 2) n

/-- Reads the schema in a text. -/
def ofText (s : String) : Except Fault Schema := readText read s

end Schema

end IdentityTypes
