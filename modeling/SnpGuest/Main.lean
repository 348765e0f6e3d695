import SnpGuest.Crypto.Ecdsa
import SnpGuest.Fixture.Generate

namespace SnpGuest

/-!
# Command line

The fixture tool on the files of the machine that it runs on.
-/

namespace CommandLine

/-- The error with a given number, which the machine may report negated. -/
def ofNumber (code : UInt32) (details : String) : OsError :=
  let number := if code < 0x80000000 then code else 0 - code
  let known := [OsError.notFound, .alreadyExists, .notDirectory, .isDirectory, .nameTooLong]
  (known.find? fun error => error.code = number.toNat).getD (.other number.toNat details)

/-- What an error of the machine means for the tool. -/
def osError (error : IO.Error) : OsError :=
  match error with
  | .noFileOrDirectory .. => .notFound
  | .noSuchThing _ code details => ofNumber code details
  | .alreadyExists _ code details => ofNumber code details
  | .inappropriateType _ code details => ofNumber code details
  | .permissionDenied _ code details => ofNumber code details
  | .invalidArgument _ code details => ofNumber code details
  | .resourceExhausted _ code details => ofNumber code details
  | .otherError code details => ofNumber code details
  | error => .other 5 (toString error)

/-- Catches the errors of an action. -/
def attempt {α : Type} (action : IO α) : IO (Except OsError α) := do
  try
    return .ok (← action)
  catch error =>
    return .error (osError error)

/-- Operations on the files of the machine. -/
def fileSystem : FileSystem IO where
  readFile path := attempt do return (← IO.FS.readBinFile path).data.toList
  makeDirectory path := attempt (IO.FS.createDir path)
  isDirectory path := do
    -- The whole path counts as the place of an entry, so it is looked up as it stands.
    let entry : IO.FS.DirEntry := { root := path, fileName := "." }
    entry.root.isDir
  writeFile path contents := attempt (IO.FS.writeBinFile path ⟨contents.toArray⟩)

end CommandLine

end SnpGuest

/-- Runs the fixture tool and prints what it says. -/
def main (arguments : List String) : IO UInt32 := do
  let outcome ← SnpGuest.Fixture.run SnpGuest.Ecdsa.p384 SnpGuest.CommandLine.fileSystem arguments
  IO.print outcome.output
  IO.eprint outcome.errorOutput
  return outcome.exitCode
