/-
# Configuration documents

The documents that the server is configured with, as far as types are made from
them: one with the managed objects, and one for each connector with the types of
objects it gives access to.

Key definitions: `ManagedObject`, `Connector`, `readManaged`, `readObjectTypes`.
-/
import IdentityTypes.Schema.Reader

namespace IdentityTypes

open Json

/-- A managed object. -/
structure ManagedObject where
  name : String
  schema : Schema
  deriving Repr

/-- A connector, with the schemas of its object types by their names. -/
structure Connector where
  name : String
  objectTypes : List (String × Schema)
  deriving Repr

/-- The record of a managed object nested at most `depth` deep. -/
def ManagedObject.record (depth : Nat) : Record ManagedObject where
  name := "struct ManagedObject"
  fields := [
    .of "name" .mandatory Node.readString fun name o => { o with name },
    .of "schema" .mandatory (Schema.read (depth - 1)) fun schema o => { o with schema }]
  blank := ⟨"", {}⟩

/-- The record of the managed objects. -/
def managedRecord (depth : Nat) : Record (List ManagedObject) where
  name := "struct ManagedObjects"
  fields := [
    .of "objects" .mandatory
      (Node.readList (depth - 1) ((ManagedObject.record (depth - 2)).read (depth - 2)))
      fun objects _ => objects]
  blank := []

/-- The record of a connector's object types. -/
def objectTypesRecord (depth : Nat) : Record (List (String × Schema)) where
  name := "struct ConnectorConfig"
  fields := [
    .of "objectTypes" .mandatory (Node.readMap (depth - 1) (Schema.read (depth - 2)))
      fun types _ => types]
  blank := []

/-- Reads the document of the managed objects. -/
def readManaged (text : String) : Except Fault (List ManagedObject) :=
  readText (fun depth => (managedRecord depth).read depth) text

/-- Reads the document of a connector. -/
def readObjectTypes (text : String) : Except Fault (List (String × Schema)) :=
  readText (fun depth => (objectTypesRecord depth).read depth) text

end IdentityTypes
