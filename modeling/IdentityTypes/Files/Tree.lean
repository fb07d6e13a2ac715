/-
# File trees

The files that a program sees, as a value: directories and files by their
location, the list of segments that leads to them from the root. Programs run in
the directory `home`, at which relative paths begin.

A file is written in two steps, so that nobody sees half of it: into a temporary
file beside it, which is then moved over it. If the second step fails, the
temporary file is removed.

Key definitions: `Entry`, `Tree`, `Tree.find?`, `Tree.resolve`, `Tree.read`,
`Tree.readText`, `Tree.names`, `Tree.replaceFile`.
-/
import IdentityTypes.Files.Path
import IdentityTypes.Text.Utf8

namespace IdentityTypes.Files

/-- Where something is: the segments from the root. -/
abbrev Location := List String

/-- A file or a directory. -/
inductive Entry where
  | file (bytes : List UInt8)
  | directory
  deriving DecidableEq, Repr

/-- Why a file cannot be used. -/
inductive Fault where
  | notFound
  | notDirectory
  | isDirectory
  | nameTooLong
  | busy
  | zeroByte
  | notText
  deriving DecidableEq, Repr

/-- How a fault is worded. -/
def Fault.message : Fault → String
  | .notFound => "No such file or directory (os error 2)"
  | .notDirectory => "Not a directory (os error 20)"
  | .isDirectory => "Is a directory (os error 21)"
  | .nameTooLong => "File name too long (os error 36)"
  | .busy => "Device or resource busy (os error 16)"
  | .zeroByte => "file name contained an unexpected NUL byte"
  | .notText => "stream did not contain valid UTF-8"

/-- A file tree, with the directory that relative paths begin at. -/
structure Tree where
  entries : List (Location × Entry)
  home : Location
  deriving Repr

namespace Tree

/-- What is at a location. The root is always there. -/
def find? (t : Tree) (place : Location) : Option Entry :=
  if place = [] then some .directory else t.entries.lookup place

/-- Whether a directory is at a location. -/
def isDirectory (t : Tree) (place : Location) : Bool := t.find? place == some .directory

/-- The tree with an entry at a location, in place of what is there. -/
def put (t : Tree) (place : Location) (e : Entry) : Tree :=
  { t with entries := (place, e) :: t.entries.filter (·.1 != place) }

/-- The tree without what is at a location. -/
def erase (t : Tree) (place : Location) : Tree :=
  { t with entries := t.entries.filter (·.1 != place) }

/-- The names of what is in a directory. -/
def names (t : Tree) (dir : Location) : List String :=
  t.entries.filterMap fun e =>
    match e.1.getLast? with
    | some name => if e.1 = dir ++ [name] then some name else none
    | none => none

/-- The longest name that a file can have, in bytes. -/
def maxName : Nat := 255

/-- The longest path that leads anywhere, in bytes. -/
def maxPath : Nat := 4095

/-- What is wrong with a path itself, wherever it leads. -/
def pathFault? (path : String) : Option Fault :=
  if path.toList.contains '\x00' then some .zeroByte
  else if path = "" then some .notFound
  else if maxPath < path.utf8ByteSize then some .nameTooLong
  else none

/-- Follows segments from a location. -/
def walk (t : Tree) : Location → List String → Except Fault Location
  | here, [] => .ok here
  | here, s :: rest =>
    if !t.isDirectory here then .error .notDirectory
    else if s = "" || s = "." then t.walk here rest
    else if s = ".." then t.walk here.dropLast rest
    else if maxName < s.utf8ByteSize then .error .nameTooLong
    else if (t.find? (here ++ [s])).isSome then t.walk (here ++ [s]) rest
    else .error .notFound

/-- The location at which a path begins. -/
def start (t : Tree) (path : String) : Location := if isAbsolute path then [] else t.home

/-- The location that a path leads to. -/
def resolve (t : Tree) (path : String) : Except Fault Location :=
  match pathFault? path with
  | some fault => .error fault
  | none => t.walk (t.start path) (segments path)

/-- Whether a path leads to something. -/
def reaches (t : Tree) (path : String) : Bool := (t.resolve path).isOk

/-- The directory that a path leads to, if it leads to one. -/
def directory? (t : Tree) (path : String) : Option Location :=
  match t.resolve path with
  | .ok place => if t.isDirectory place then some place else none
  | .error _ => none

/-- The contents of a file. -/
def read (t : Tree) (path : String) : Except Fault (List UInt8) := do
  let place ← t.resolve path
  match t.find? place with
  | some (.file bytes) => .ok bytes
  | some .directory => .error .isDirectory
  | none => .error .notFound

/-- The contents of a file as text. -/
def readText (t : Tree) (path : String) : Except Fault String := do
  let bytes ← t.read path
  match Text.decode bytes with
  | .ok s => .ok s
  | .error _ => .error .notText

/-- A name that nothing in the tree has: it is longer than all others. -/
def freshName (t : Tree) : String :=
  let longest := (t.entries.flatMap (·.1)).foldl (fun n s => max n s.length) 0
  ".tmp" ++ String.ofList (List.replicate longest 'x')

/-- The directory that segments lead to. -/
def directoryAt (t : Tree) (here : Location) (segments : List String) : Except Fault Location := do
  let dir ← t.walk here segments
  if t.isDirectory dir then .ok dir else .error .notDirectory

/-- Moves a file to a path, over the file that may be there. The last segment must
name something in a directory, and not a directory itself. -/
def rename (t : Tree) (source : Location) (bytes : List UInt8) (path : String) :
    Except Fault Tree :=
  let backwards := (segments path).reverse
  match pathFault? path, backwards.dropWhile (· = "") with
  | some fault, _ => .error fault
  | none, [] => .error .busy
  | none, last :: front => do
    let dir ← t.directoryAt (t.start path) front.reverse
    if last = "." || last = ".." then .error .busy
    else if maxName < last.utf8ByteSize then .error .nameTooLong
    else if backwards.head? = some "" then .error .notDirectory
    else if t.isDirectory (dir ++ [last]) then .error .isDirectory
    else .ok ((t.erase source).put (dir ++ [last]) (.file bytes))

/-- The directory in which a path's temporary file is made: the one above, where
segments at the end that stay in the same directory do not count. -/
def parent (t : Tree) (path : String) : Except Fault Location :=
  match (segments path).reverse.dropWhile fun s => s = "" || s = "." with
  | [] => .ok t.home
  | _ :: front => t.directoryAt (t.start path) front.reverse

/-- Writes a file as a whole. The tree that comes out goes with the fault that
may have stopped the writing. -/
def replaceFile (t : Tree) (path : String) (bytes : List UInt8) : Except Fault Unit × Tree :=
  match t.parent path with
  | .error fault => (.error fault, t)
  | .ok dir =>
    let temporary := dir ++ [t.freshName]
    let written := t.put temporary (.file bytes)
    match written.rename temporary bytes path with
    | .ok moved => (.ok (), moved)
    | .error fault => (.error fault, written.erase temporary)

end Tree

end IdentityTypes.Files
