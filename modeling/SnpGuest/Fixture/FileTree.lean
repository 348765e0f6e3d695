import SnpGuest.Fixture.FileSystem
import SnpGuest.OrderedMap

namespace SnpGuest

/-!
# Trees of files

A file system as a value.  Every file and directory is kept under its location, the names from the
root to it; the root itself is always there.  Walking along a path takes each step in the tree: two
dots lead to the directory above the one that was reached, a step through a file fails, and so does
one to a name that is not there.  A whole path that is too long is refused before the first step,
and a name that is too long when the step to it comes up.
-/

inductive FileEntry where
  | directory
  | file (contents : Bytes)
deriving DecidableEq

/-- The names from the root to a file or directory. -/
abbrev Location := List String

/-- Files and directories, and the directory in which relative paths start. -/
structure FileTree where
  workingDirectory : Location
  entries : OrderedMap Location FileEntry

namespace FileTree

/-- A tree with an empty working directory of the given name. -/
def ofWorkingDirectory (name : String) : FileTree where
  workingDirectory := [name]
  entries := OrderedMap.empty.insert [name] .directory

/-- What stands at a location, if anything. -/
def entryAt (tree : FileTree) (location : Location) : Option FileEntry :=
  if location = [] then some .directory else tree.entries.get? location

/-- Puts an entry at a location. -/
def put (tree : FileTree) (location : Location) (entry : FileEntry) : FileTree :=
  { tree with entries := tree.entries.insert location entry }

/-- Makes the directories along a location that are not there yet. -/
def makeParents (tree : FileTree) (place : Location) : List String → FileTree
  | [] => tree
  | name :: rest =>
    let here := place ++ [name]
    let tree := if (tree.entryAt here).isSome then tree else tree.put here .directory
    makeParents tree here rest

/-- Puts an entry below the working directory, together with the directories above it. -/
def plant (tree : FileTree) (names : List String) (entry : FileEntry) : FileTree :=
  let tree := tree.makeParents tree.workingDirectory names.dropLast
  tree.put (tree.workingDirectory ++ names) entry

/-- The entries below the working directory that are not the same in an earlier tree, by their
names from the working directory on. -/
def changesSince (tree earlier : FileTree) : List (List String × FileEntry) :=
  let root := tree.workingDirectory
  (tree.entries.entries.filter fun entry =>
    root.isPrefixOf entry.1 && decide (earlier.entryAt entry.1 ≠ some entry.2)).map fun entry =>
      (entry.1.drop root.length, entry.2)

abbrev maxName : Nat := 255

abbrev maxPath : Nat := 4095

/-- What stands under a name in a directory, if anything. -/
def child (tree : FileTree) (place : Location) (name : String) :
    Except OsError (Option FileEntry) :=
  if maxName < name.utf8ByteSize then .error .nameTooLong
  else .ok (tree.entryAt (place ++ [name]))

/-- Walks from a directory along pieces that must all lead to directories. -/
def walk (tree : FileTree) (place : Location) : List String → Except OsError Location
  | [] => .ok place
  | piece :: rest =>
    if Path.isIdle piece then walk tree place rest
    else if piece = ".." then walk tree place.dropLast rest
    else
      match tree.child place piece with
      | .error cause => .error cause
      | .ok none => .error .notFound
      | .ok (some (.file _)) => .error .notDirectory
      | .ok (some .directory) => walk tree (place ++ [piece]) rest

/-- Where a path starts. -/
def start (tree : FileTree) (path : String) : Location :=
  if Path.isAbsolute path then [] else tree.workingDirectory

/-- The directory that holds the last piece of a path, and that piece. -/
def approach (tree : FileTree) (path : String) (pieces : List String) :
    Except OsError (Location × String) :=
  if path = "" then .error .notFound
  else if maxPath < path.utf8ByteSize then .error .nameTooLong
  else
    match tree.walk (tree.start path) pieces.dropLast with
    | .error cause => .error cause
    | .ok place => .ok (place, pieces.getLastD "")

/-- What stands at the end of a path. -/
def find (tree : FileTree) (path : String) : Except OsError FileEntry :=
  match tree.approach path (Path.pieces path) with
  | .error cause => .error cause
  | .ok (place, piece) =>
    if Path.isIdle piece || piece = ".." then .ok .directory
    else
      match tree.child place piece with
      | .error cause => .error cause
      | .ok none => .error .notFound
      | .ok (some entry) => .ok entry

def readFile (tree : FileTree) (path : String) : Except OsError Bytes :=
  match tree.find path with
  | .error cause => .error cause
  | .ok .directory => .error .isDirectory
  | .ok (.file contents) => .ok contents

def isDirectory (tree : FileTree) (path : String) : Bool :=
  match tree.find path with
  | .ok .directory => true
  | _ => false

/-- The pieces of a path without empty ones at the end. -/
def withoutTrailing (pieces : List String) : List String :=
  (pieces.reverse.dropWhile (· = "")).reverse

/-- Makes a directory at the end of a path. -/
def makeDirectory (tree : FileTree) (path : String) : Except OsError FileTree :=
  -- Slashes at the end of the path do not count here; for a file they do.
  match tree.approach path (withoutTrailing (Path.pieces path)) with
  | .error cause => .error cause
  | .ok (place, piece) =>
    if Path.isIdle piece || piece = ".." then .error .alreadyExists
    else
      match tree.child place piece with
      | .error cause => .error cause
      | .ok none => .ok (tree.put (place ++ [piece]) .directory)
      | .ok (some _) => .error .alreadyExists

/-- Makes a file at the end of a path, or replaces what it holds. -/
def writeFile (tree : FileTree) (path : String) (contents : Bytes) : Except OsError FileTree :=
  match tree.approach path (Path.pieces path) with
  | .error cause => .error cause
  | .ok (place, piece) =>
    if Path.isIdle piece || piece = ".." then .error .isDirectory
    else
      match tree.child place piece with
      | .error cause => .error cause
      | .ok (some .directory) => .error .isDirectory
      | .ok _ => .ok (tree.put (place ++ [piece]) (.file contents))

/-- Goes on with the new tree if there is one, and else with the old. -/
def update (result : Except OsError FileTree) : StateM FileTree (Except OsError Unit) := fun tree =>
  match result with
  | .ok tree => (.ok (), tree)
  | .error cause => (.error cause, tree)

/-- The operations on files as steps from tree to tree. -/
def fileSystem : FileSystem (StateM FileTree) where
  readFile path := fun tree => (tree.readFile path, tree)
  makeDirectory path := fun tree => update (tree.makeDirectory path) tree
  isDirectory path := fun tree => (tree.isDirectory path, tree)
  writeFile path contents := fun tree => update (tree.writeFile path contents) tree

end FileTree

end SnpGuest
