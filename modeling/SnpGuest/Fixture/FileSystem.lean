import SnpGuest.Bytes.Basic
import SnpGuest.Fixture.Path

namespace SnpGuest

/-!
# File systems

What the fixture tool asks of a file system, over any kind of effects, and how a directory is made
together with the directories above it.
-/

/-- Why an operation on files failed. -/
inductive OsError where
  | notFound
  | alreadyExists
  | notDirectory
  | isDirectory
  | nameTooLong
  | other (code : Nat) (text : String)
deriving DecidableEq

namespace OsError

def code : OsError → Nat
  | notFound => 2
  | alreadyExists => 17
  | notDirectory => 20
  | isDirectory => 21
  | nameTooLong => 36
  | other code _ => code

/-- What an error says, without its number. -/
def text : OsError → String
  | notFound => "No such file or directory"
  | alreadyExists => "File exists"
  | notDirectory => "Not a directory"
  | isDirectory => "Is a directory"
  | nameTooLong => "File name too long"
  | other _ text => text

def message (error : OsError) : String :=
  error.text ++ " (os error " ++ toString error.code ++ ")"

end OsError

/-- Operations on files, each named by a path. -/
structure FileSystem (m : Type → Type) where
  readFile : String → m (Except OsError Bytes)
  makeDirectory : String → m (Except OsError Unit)
  isDirectory : String → m Bool
  /-- Makes a file or replaces what it holds. -/
  writeFile : String → Bytes → m (Except OsError Unit)

namespace FileSystem

variable {m : Type → Type} [Monad m]

/-- Makes a directory; one that is there already will do. -/
def ensureDirectory (files : FileSystem m) (path : String) : m (Except OsError Unit) := do
  match ← files.makeDirectory path with
  | .ok () => return .ok ()
  | .error cause => if ← files.isDirectory path then return .ok () else return .error cause

/-- Makes the first of some directories, each inside the next; those further on are made only when
the one before them is missing its place. -/
def ensureNested (files : FileSystem m) : List String → m (Except OsError Unit)
  | [] => return .ok ()
  | path :: above => do
    match ← files.ensureDirectory path with
    | .ok () => return .ok ()
    | .error .notFound =>
      match ← files.ensureNested above with
      | .ok () => files.ensureDirectory path
      | .error cause => return .error cause
    | .error cause => return .error cause

/-- Makes a directory and whatever is missing above it. -/
def createDirectories (files : FileSystem m) (path : String) : m (Except OsError Unit) :=
  files.ensureNested (Path.ancestors path)

end FileSystem

end SnpGuest
