/-
# Finding the configuration

The configuration lies in one directory: the managed objects in one file, and a
file for each connector, whose name has the connector's name between a fixed
beginning and a fixed end. Connectors are loaded in the order of their files.

To find the connectors the directory is followed segment by segment, and the
paths found are what was followed: a dot at the beginning is left out and
slashes that repeat are written once.

Key definitions: `LoadError`, `connectorName?`, `loadManaged`, `loadConnector`,
`connectorPaths`, `discover`.
-/
import IdentityTypes.Configuration.Document
import IdentityTypes.Files.Tree
import IdentityTypes.Sorting

namespace IdentityTypes

open Files

/-- Why the configuration cannot be loaded. -/
inductive LoadError where
  | unreadable (path : String) (cause : Files.Fault)
  | refused (path : String) (cause : Json.Fault)
  | unnamedConnector (path : String)
  deriving Repr

/-- How an error is worded. -/
def LoadError.message : LoadError → String
  | .unreadable path _ => "failed to load schema file [" ++ path ++ "]"
  | .refused path _ => "failed to parse schema file [" ++ path ++ "]"
  | .unnamedConnector path => "unable to determine system type name for [" ++ path ++ "]"

/-- The file with the managed objects. -/
def managedFile : String := "managed.json"

/-- How the name of a connector's file begins. -/
def connectorFileStart : String := "provisioner.openicf-"

/-- How the name of a connector's file ends. -/
def connectorFileEnd : String := ".json"

/-- The text between the beginning and the end of a connector's file name. -/
def connectorFileMiddle? (fileName : String) : Option String := do
  Text.dropEnd? connectorFileEnd (← Text.dropStart? connectorFileStart fileName)

/-- The name of the connector whose file has the path given. -/
def connectorName? (path : String) : Option String := do
  let middle ← connectorFileMiddle? (← fileName? path)
  if middle = "" then none else some middle

/-- A connector with the file that it was loaded from. -/
structure ConnectorFile where
  path : String
  connector : Connector
  deriving Repr

/-- The document in a file, read by `read`. -/
def loadDocument {α : Type} (t : Tree) (read : String → Except Json.Fault α) (path : String) :
    Except LoadError α :=
  match t.readText path with
  | .error fault => .error (.unreadable path fault)
  | .ok text => (read text).mapError (.refused path)

/-- Loads the managed objects. -/
def loadManaged (t : Tree) (dir : String) : Except LoadError (List ManagedObject) :=
  loadDocument t readManaged (join dir managedFile)

/-- Loads a connector. Its file is read before its name is judged. -/
def loadConnector (t : Tree) (path : String) : Except LoadError ConnectorFile := do
  let objectTypes ← loadDocument t readObjectTypes path
  match connectorName? path with
  | some name => .ok ⟨path, ⟨name, objectTypes⟩⟩
  | none => .error (.unnamedConnector path)

/-- Follows the segments of a directory from the path `here`. -/
def follow (t : Tree) : String → List String → Option String
  | here, [] => some here
  | here, s :: rest =>
    let next := if here = "." then s else join here s
    if s = "." || s = ".." then
      if (t.directory? here).isSome then follow t next rest else none
    else if t.reaches next then follow t next rest
    else none

/-- The path at which the search in a directory arrives. The empty directory is
the root, since a slash follows it. -/
def searchPath (t : Tree) (dir : String) : Option String :=
  if dir = "" then some "/"
  else if isAbsolute dir then follow t "/" (segments dir).tail
  else follow t "." (segments dir)

/-- The names of connectors' files in a list of names, in ascending order. -/
def connectorFileNames (names : List String) : List String :=
  sortOn id (names.filter fun n => (connectorFileMiddle? n).isSome)

/-- The paths of the connectors' files in a directory, in ascending order. -/
def connectorPaths (t : Tree) (dir : String) : List String :=
  match searchPath t dir with
  | none => []
  | some here =>
    match t.directory? here with
    | none => []
    | some place =>
      (connectorFileNames (t.names place)).map fun n => if here = "." then n else join here n

/-- Loads the connectors in a directory. -/
def discover (t : Tree) (dir : String) : Except LoadError (List ConnectorFile) :=
  (connectorPaths t dir).mapM (loadConnector t)

example : connectorName? "conf/provisioner.openicf-scripted-sql.json" = some "scripted-sql" := by
  decide
example : connectorName? "provisioner.openicf-.json" = none := by decide
example : connectorName? "provisioner.openicf-a.json/." = some "a" := by decide

end IdentityTypes
