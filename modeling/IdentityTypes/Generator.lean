/-
# A run of the generator

A run reads the configuration, makes the catalog of types, renders and formats
it and writes one file. It either succeeds or leaves all files as they were, as far
as the formatter does.

Key definitions: `Settings`, `GenerationError`, `load`, `build`, `prepare`,
`generate`.
-/
import IdentityTypes.Configuration.Discovery
import IdentityTypes.Resources
import IdentityTypes.TypeScript.Module
import IdentityTypes.Formatter

namespace IdentityTypes

/-- What a run is asked to do. -/
structure Settings where
  configDir : String := "./conf"
  output : String := "src/idm.ts"
  managedKind : ValueKind := .unknown
  connectorKind : ValueKind := .unknown
  runtimeModule : String := "idm-ts"
  formatter : Option String := none
  deriving DecidableEq, Repr

/-- Why a run fails. -/
inductive GenerationError where
  | load (e : LoadError)
  | inference (e : InferenceError)
  | collision (c : Collision)
  | format (f : FormatFailure)
  | write (path : String) (cause : Files.Fault)
  deriving Repr

namespace GenerationError

/-- How an error is worded; one without a wording ends the program. -/
def message : GenerationError → Option String
  | .load e => some e.message
  | .inference e => e.message
  | .collision c => some c.message
  | .format f => some f.message
  | .write path _ => some ("failed to write typescript types to [" ++ path ++ "]")

/-- What lies behind an error, if there is more to say. -/
def cause : GenerationError → Option String
  | .load (.unreadable _ fault) => some fault.message
  | .load (.refused _ fault) => some (fault.message.getD "malformed document")
  | .write _ fault => some fault.message
  | _ => none

end GenerationError

/-- The managed objects and the connectors of a configuration. -/
def load (t : Files.Tree) (dir : String) :
    Except GenerationError (List ManagedObject × List Connector) := do
  let objects ← (loadManaged t dir).mapError .load
  let files ← (discover t dir).mapError .load
  pure (objects, files.map (·.connector))

/-- The catalog of a configuration. -/
def build (s : Settings) (objects : List ManagedObject) (connectors : List Connector) :
    Except GenerationError Catalog := do
  let managed ← (managedResources s.managedKind objects).mapError .inference
  let system ← (systemResources s.connectorKind connectors).mapError .inference
  (Catalog.assemble managed system).mapError .collision

/-- The catalog of the configuration in a file tree. -/
def prepare (s : Settings) (t : Files.Tree) : Except GenerationError Catalog := do
  let (objects, connectors) ← load t s.configDir
  build s objects connectors

/-- Formats and writes a text. The tree that comes out goes with the error, if there
is one. -/
def write (format : Formatter) (s : Settings) (text : String) (t : Files.Tree) :
    Except GenerationError Unit × Files.Tree :=
  match format text s.output t with
  | (.error failure, left) => (.error (.format failure), left)
  | (.ok formatted, left) =>
    match left.replaceFile s.output (Text.encode formatted) with
    | (.ok _, written) => (.ok (), written)
    | (.error fault, left) => (.error (.write s.output fault), left)

/-- Runs the generator. The tree that comes out goes with the catalog or with the
error. -/
def generate (format : Formatter) (s : Settings) (t : Files.Tree) :
    Except GenerationError Catalog × Files.Tree :=
  match prepare s t with
  | .error e => (.error e, t)
  | .ok catalog =>
    match write format s (TypeScript.render s.runtimeModule catalog) t with
    | (.ok _, written) => (.ok catalog, written)
    | (.error e, left) => (.error e, left)

end IdentityTypes
