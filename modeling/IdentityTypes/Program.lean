/-
# The program

Runs the command line on the files of the machine. The directories that a run may
look at are read into a file tree first, the run itself is a function of that
tree (`CommandLine.run`), and the files that it has written are then put in place of
the old ones. How the machine runs the formatter's command is up to the caller, who
gives a `Runner`.

Key definitions: `Program.snapshot`, `Program.run`.
-/
import IdentityTypes.CommandLine

namespace IdentityTypes.Program

/-- The environment variables that the command line knows. -/
def variableNames : List String :=
  ["IDM_CONFIG_DIR", "IDM_TS_TYPES", "IDM_TS_RUNTIME_MODULE", "IDM_TS_FORMATTER",
    "IDM_TS_MANAGED_ANY", "IDM_TS_CONNECTOR_ANY"]

/-- The locations that a path passes, from the one where it begins. -/
def passed (home : Files.Location) (path : String) : List Files.Location :=
  let start := if Files.isAbsolute path then [] else home
  let parts := (Files.segments path).filter fun s => s ≠ "" && s ≠ "."
  parts.foldl (fun places s =>
    let here := places.getLastD start
    places ++ [if s = ".." then here.dropLast else here ++ [s]]) [start]

/-- The path of a location. -/
def pathOf (place : Files.Location) : String := "/" ++ "/".intercalate place

/-- The location as an entry, if it is a directory. -/
def directoryEntry (place : Files.Location) : IO (List (Files.Location × Files.Entry)) := do
  let root ← IO.currentDir
  return if ← (root / pathOf place).isDir then [(place, .directory)] else []

/-- What is in a directory, without what cannot be read. -/
def contents (place : Files.Location) : IO (List (Files.Location × Files.Entry)) := do
  let root ← IO.currentDir
  let dir := root / pathOf place
  if !(← dir.isDir) then
    return []
  let mut found := []
  for e in ← dir.readDir do
    let here := place ++ [e.fileName]
    if ← e.path.isDir then
      found := (here, .directory) :: found
    else
      try
        let bytes ← IO.FS.readBinFile e.path
        found := (here, .file bytes.toList) :: found
      catch _ => pure ()
  return found

/-- The files that a run may look at: those in the directories given, with all
directories on the way there. -/
def snapshot (home : Files.Location) (dirs : List String) : IO Files.Tree := do
  let mut entries := []
  for place in (List.range (home.length + 1)).map home.take do
    entries := entries ++ (← directoryEntry place)
  for dir in dirs do
    let places := passed home dir
    for place in places do
      entries := entries ++ (← directoryEntry place)
    entries := entries ++ (← contents (places.getLastD home))
  return ⟨entries.filter (·.1 ≠ []), home⟩

/-- Puts the contents in place of the file that may be at a path. -/
def replace (path : String) (bytes : List UInt8) : IO Unit := do
  let temporary := path ++ ".tmp"
  IO.FS.writeBinFile temporary ⟨bytes.toArray⟩
  IO.FS.rename temporary path

/-- The directories that matter to a request. -/
def directoriesOf : CommandLine.Request → List String
  | .generate s => [".", s.configDir, "/".intercalate ((Files.segments s.output).dropLast ++ ["."])]
  | _ => []

/-- Writes the files that a run has left, those that are new or changed. -/
def store (before after : Files.Tree) : IO Unit := do
  for (place, entry) in after.entries do
    match entry with
    | .file bytes => if before.find? place ≠ some entry then replace (pathOf place) bytes
    | .directory => pure ()

/-- Runs the program on its arguments, and says with which code it exits. -/
def run (runner : Runner) (args : List String) : IO UInt32 := do
  let mut values := []
  for name in variableNames do
    values := (name, ← IO.getEnv name) :: values
  let env : CommandLine.Environment := fun name => (values.lookup name).join
  let home := (Files.segments (toString (← IO.currentDir))).filter (· ≠ "")
  let request := (CommandLine.parse env args).getD .help
  let before ← snapshot home (directoriesOf request)
  let (reply, after) := CommandLine.run runner env args before
  store before after
  IO.print reply.output
  IO.eprint reply.errors
  return reply.exit.toUInt32

end IdentityTypes.Program
