import SnpGuest.Report.Policy
import SnpGuest.Report.Signature

namespace SnpGuest

/-!
# Attestation report

What the firmware says about a guest and its platform, and the signature over it.  All numbers are
fixed-width words, and all other fields are blocks of their exact width, so every value of the type
is a report of the format, including those that no firmware would make.
-/

/-- The key that signs reports. -/
inductive SigningKey where
  | vcek
  | vlek
  | none
deriving DecidableEq

namespace SigningKey

def code : SigningKey → UInt32
  | vcek => 0
  | vlek => 1
  | none => 7

def ofCode? (code : UInt32) : Option SigningKey :=
  [vcek, vlek, none].find? fun key => key.code == code

end SigningKey

/-- The algorithm that signs reports. -/
inductive SigningAlgorithm where
  | invalid
  | ecdsaP384Sha384
deriving DecidableEq

namespace SigningAlgorithm

def code : SigningAlgorithm → UInt32
  | invalid => 0
  | ecdsaP384Sha384 => 1

def ofCode? (code : UInt32) : Option SigningAlgorithm :=
  [invalid, ecdsaP384Sha384].find? fun algorithm => algorithm.code == code

end SigningAlgorithm

/-- The part of a report that its signature covers. -/
structure ReportBody where
  version : UInt32
  guestSvn : UInt32
  policy : GuestPolicy
  familyId : Block 16
  imageId : Block 16
  vmpl : UInt32
  signatureAlgo : UInt32
  currentTcb : Block 8
  platformInfo : UInt64
  /-- Bits 2 to 4 name the signing key. -/
  keyInfo : UInt32
  reservedKey : UInt32
  reportData : Block 64
  measurement : Block 48
  hostData : Block 32
  idKeyDigest : Block 48
  authorKeyDigest : Block 48
  reportId : Block 32
  reportIdMa : Block 32
  reportedTcb : Block 8
  cpuidFamily : UInt8
  cpuidModel : UInt8
  cpuidStepping : UInt8
  reservedCpuid : Block 21
  chipId : Block 64
  committedTcb : Block 8
  currentBuild : UInt8
  currentMinor : UInt8
  currentMajor : UInt8
  reservedCurrent : UInt8
  committedBuild : UInt8
  committedMinor : UInt8
  committedMajor : UInt8
  reservedCommitted : UInt8
  launchTcb : Block 8
  launchMitigations : UInt64
  currentMitigations : UInt64
  reservedTail : Block 152
deriving DecidableEq

structure Report where
  body : ReportBody
  signature : SignatureArea
deriving DecidableEq

namespace Report

abbrev size : Nat := 1184

/-- The bytes of a report before its signature. -/
abbrev signatureOffset : Nat := 672

/-- The version that current firmware writes. -/
def currentVersion : UInt32 := 5

def zero : Report where
  body := {
    version := 0, guestSvn := 0
    policy := { abiMinor := 0, abiMajor := 0, flags := 0, reserved := 0 }
    familyId := .zero 16, imageId := .zero 16, vmpl := 0, signatureAlgo := 0
    currentTcb := .zero 8, platformInfo := 0, keyInfo := 0, reservedKey := 0
    reportData := .zero 64, measurement := .zero 48, hostData := .zero 32
    idKeyDigest := .zero 48, authorKeyDigest := .zero 48, reportId := .zero 32
    reportIdMa := .zero 32, reportedTcb := .zero 8
    cpuidFamily := 0, cpuidModel := 0, cpuidStepping := 0, reservedCpuid := .zero 21
    chipId := .zero 64, committedTcb := .zero 8
    currentBuild := 0, currentMinor := 0, currentMajor := 0, reservedCurrent := 0
    committedBuild := 0, committedMinor := 0, committedMajor := 0, reservedCommitted := 0
    launchTcb := .zero 8, launchMitigations := 0, currentMitigations := 0
    reservedTail := .zero 152 }
  signature := { r := .zero 72, s := .zero 72, reserved := .zero 368 }

instance : Inhabited Report := ⟨zero⟩

/-- The zero report with the guest's own data filled in. -/
def ofReportData (data : Block 64) : Report :=
  { zero with body := { zero.body with reportData := data } }

/-- The key that signed the report, if its number is known. -/
def signingKey? (report : Report) : Option SigningKey :=
  SigningKey.ofCode? ((report.body.keyInfo &&& 0x1c) >>> 2)

/-- Names the signing key and leaves the other bits of the key word. -/
def withSigningKey (report : Report) (key : SigningKey) : Report :=
  let word := (report.body.keyInfo &&& ~~~(0x1c : UInt32)) ||| (key.code <<< 2)
  { report with body := { report.body with keyInfo := word } }

/-- The algorithm that signed the report, if its number is known. -/
def signingAlgorithm? (report : Report) : Option SigningAlgorithm :=
  SigningAlgorithm.ofCode? report.body.signatureAlgo

end Report

end SnpGuest
