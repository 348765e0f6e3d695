import SnpGuest.Fixture.FileSystem
import SnpGuest.Fixture.Settings
import SnpGuest.Simulator.Device

namespace SnpGuest

/-!
# Generating fixtures

The tool asks a simulated device for an extended report over given data and writes the report, the
certificates if there are any, and the public key of the signer.  Everything that can be refused is
read and checked before the output directory is made, so a refusal leaves no trace.
-/

/-- Why no fixture was made. -/
inductive FixtureError where
  | reportDataHex (cause : Hex.DecodeError)
  | reportDataTooLong (length : Nat)
  | seed
  | certificate (path : String) (cause : OsError)
  | device (cause : Error)
  | outputDirectory (path : String) (cause : OsError)
  | output (path : String) (cause : OsError)
deriving DecidableEq

namespace FixtureError

/-- What a failure says first. -/
def headline : FixtureError → String
  | reportDataHex cause => "report data is not valid hex: " ++ cause.message
  | reportDataTooLong length =>
    "report data is " ++ toString length ++ " bytes, at most 64 are allowed"
  | seed => "seed does not yield a valid P-384 scalar"
  | certificate path _ => "couldn't read certificate " ++ path
  | device cause => cause.message
  | outputDirectory path _ => "couldn't create " ++ path
  | output path _ => "couldn't write " ++ path

/-- What lies behind a failure, if anything. -/
def cause? : FixtureError → Option String
  | certificate _ cause | outputDirectory _ cause | output _ cause => some cause.message
  | seed => some "signature error"
  | reportDataHex _ | reportDataTooLong _ | device _ => none

/-- The text that the tool prints for a failure. -/
def message (error : FixtureError) : String :=
  let cause :=
    match error.cause? with
    | some cause => "\n\nCaused by:\n    " ++ cause
    | none => ""
  "Error: " ++ error.headline ++ cause ++ "\n"

end FixtureError

structure Fixture where
  report : Report
  certificates : Bytes
  publicKey : Bytes
deriving DecidableEq

namespace Fixture

/-- The data that a hexadecimal text gives, zero-padded on the right. -/
def reportDataOfText (text : String) : Except FixtureError (Block 64) :=
  match Hex.decode text with
  | .error cause => .error (.reportDataHex cause)
  | .ok bytes =>
    if bytes.length ≤ 64 then .ok (Block.padded 64 bytes)
    else .error (.reportDataTooLong bytes.length)

/-- A simulated device that has a successful response for the data and the certificates of the
table. -/
def prepare (signer : Signer) (reportData : Block 64) (table : CertificateTable) :
    Except Error SimulatedDevice :=
  let device := ((SimulatedDevice.new signer).register reportData (.accepted reportData)).2
  -- An empty table would be written as a page of zeros; the device then has no certificates.
  if table.isEmpty then .ok device
  else
    match CertificateTable.toBytes table with
    | .error cause => .error (.certificateTable cause)
    | .ok bytes => .ok (device.withCertificates bytes)

/-- Runs the protocol for an extended report against the prepared device. -/
def make (scheme : SignatureScheme) (key : scheme.PrivateKey) (reportData : Block 64)
    (vmpl : UInt32) (table : CertificateTable) : Except Error Fixture := do
  let device ← prepare (.ofKey scheme key) reportData table
  let device ← device.openDevice
  let (result, device) :=
    Client.requestWithCertificates SimulatedDevice.guestDevice reportData vmpl device
  let (report, certificates) ← result
  let _ ← device.closeDevice
  return ⟨report, certificates, scheme.encodeKey (scheme.publicKey key)⟩

/-- The files of a fixture: names and contents. -/
def files (fixture : Fixture) : List (String × Bytes) :=
  [("report.bin", fixture.report.toBlock.toList)] ++
    (if fixture.certificates.isEmpty then [] else [("certs.bin", fixture.certificates)]) ++
    [("vcek_public_key.hex", utf8 (Hex.encode fixture.publicKey))]

variable {m : Type → Type} [Monad m]

/-- The certificates of the files that are given, in order. -/
def readCertificates (system : FileSystem m) :
    List (CertificateKind × Option String) → CertificateTable →
      m (Except FixtureError CertificateTable)
  | [], table => return .ok table
  | (_, none) :: rest, table => readCertificates system rest table
  | (kind, some path) :: rest, table => do
    match ← system.readFile path with
    | .error cause => return .error (.certificate path cause)
    | .ok bytes => readCertificates system rest (table.insert kind bytes)

/-- Writes files into a directory, in order, until one fails. -/
def writeFiles (system : FileSystem m) (directory : String) :
    List (String × Bytes) → m (Except FixtureError Unit)
  | [] => return .ok ()
  | (name, contents) :: rest => do
    let path := Path.join directory name
    match ← system.writeFile path contents with
    | .error cause => return .error (.output path cause)
    | .ok () => writeFiles system directory rest

/-- Writes a fixture into a directory, which is made if need be. -/
def write (system : FileSystem m) (directory : String) (fixture : Fixture) :
    m (Except FixtureError Unit) := do
  match ← system.createDirectories directory with
  | .error cause => return .error (.outputDirectory directory cause)
  | .ok () => writeFiles system directory fixture.files

def summary (reportData : Block 64) : String :=
  "Report data: " ++ Hex.encode reportData.toList ++ "\n"

/-- Makes and writes the fixture that the settings ask for. -/
def generate (scheme : SignatureScheme) (system : FileSystem m) (settings : Settings) :
    m (Except FixtureError String) :=
  match reportDataOfText settings.reportData with
  | .error cause => return .error cause
  | .ok reportData =>
    match Signer.keyOfSeed? scheme (utf8 settings.seed) with
    | none => return .error .seed
    | some key => do
      let sources :=
        [(.ark, settings.ark), (.ask, settings.ask), (.vcek, settings.vcek)]
      match ← readCertificates system sources .empty with
      | .error cause => return .error cause
      | .ok table =>
        match make scheme key reportData settings.vmpl table with
        | .error cause => return .error (.device cause)
        | .ok fixture =>
          match ← write system settings.outputDir fixture with
          | .error cause => return .error cause
          | .ok () => return .ok (summary reportData)

structure Outcome where
  exitCode : UInt32
  output : String
  errorOutput : String
deriving DecidableEq

def run (scheme : SignatureScheme) (system : FileSystem m) (arguments : List String) :
    m Outcome :=
  match Settings.parse arguments with
  | .error cause => return ⟨2, "", cause.message ++ "\n"⟩
  | .ok settings => do
    match ← generate scheme system settings with
    | .error cause => return ⟨1, "", cause.message⟩
    | .ok line => return ⟨0, line, ""⟩

end Fixture

end SnpGuest
