import SnpGuest.Report.Basic

namespace SnpGuest

/-!
# Layout of a report

A report is packed: its fields stand one after the other, in declaration order, with nothing
between them, and numbers have their low byte first.  `Report.Field` lists the fields of the
format, and each has a width and an access to its bytes.  Where a field stands follows from the
widths before it.  Bytes are written field by field, and read by assigning each field the bytes at
its place.
-/

namespace Report

/-- A field of the format, public or reserved. -/
inductive Field where
  | version
  | guestSvn
  | policyAbiMinor
  | policyAbiMajor
  | policyFlags
  | policyReserved
  | familyId
  | imageId
  | vmpl
  | signatureAlgo
  | currentTcb
  | platformInfo
  | keyInfo
  | reservedKey
  | reportData
  | measurement
  | hostData
  | idKeyDigest
  | authorKeyDigest
  | reportId
  | reportIdMa
  | reportedTcb
  | cpuidFamily
  | cpuidModel
  | cpuidStepping
  | reservedCpuid
  | chipId
  | committedTcb
  | currentBuild
  | currentMinor
  | currentMajor
  | reservedCurrent
  | committedBuild
  | committedMinor
  | committedMajor
  | reservedCommitted
  | launchTcb
  | launchMitigations
  | currentMitigations
  | reservedTail
  | signatureR
  | signatureS
  | signatureReserved
deriving DecidableEq

namespace Field

/-- The fields that the signature covers, in declaration order. -/
def body : List Field :=
  [.version, .guestSvn, .policyAbiMinor, .policyAbiMajor, .policyFlags, .policyReserved,
    .familyId, .imageId, .vmpl, .signatureAlgo, .currentTcb, .platformInfo, .keyInfo,
    .reservedKey, .reportData, .measurement, .hostData, .idKeyDigest, .authorKeyDigest,
    .reportId, .reportIdMa, .reportedTcb, .cpuidFamily, .cpuidModel, .cpuidStepping,
    .reservedCpuid, .chipId, .committedTcb, .currentBuild, .currentMinor, .currentMajor,
    .reservedCurrent, .committedBuild, .committedMinor, .committedMajor, .reservedCommitted,
    .launchTcb, .launchMitigations, .currentMitigations, .reservedTail]

/-- The fields of the signature area. -/
def signature : List Field :=
  [.signatureR, .signatureS, .signatureReserved]

def all : List Field :=
  body ++ signature

def width : Field → Nat
  | .policyAbiMinor | .policyAbiMajor | .cpuidFamily | .cpuidModel | .cpuidStepping
  | .currentBuild | .currentMinor | .currentMajor | .reservedCurrent | .committedBuild
  | .committedMinor | .committedMajor | .reservedCommitted => 1
  | .policyFlags => 2
  | .version | .guestSvn | .policyReserved | .vmpl | .signatureAlgo | .keyInfo
  | .reservedKey => 4
  | .currentTcb | .platformInfo | .reportedTcb | .committedTcb | .launchTcb
  | .launchMitigations | .currentMitigations => 8
  | .familyId | .imageId => 16
  | .reservedCpuid => 21
  | .hostData | .reportId | .reportIdMa => 32
  | .measurement | .idKeyDigest | .authorKeyDigest => 48
  | .reportData | .chipId => 64
  | .signatureR | .signatureS => 72
  | .reservedTail => 152
  | .signatureReserved => 368

/-- Whether a field holds a number; the others are plain bytes. -/
def isNumber : Field → Bool
  | .version | .guestSvn | .policyAbiMinor | .policyAbiMajor | .policyFlags
  | .policyReserved | .vmpl | .signatureAlgo | .platformInfo | .keyInfo | .reservedKey
  | .cpuidFamily | .cpuidModel | .cpuidStepping | .currentBuild | .currentMinor
  | .currentMajor | .reservedCurrent | .committedBuild | .committedMinor | .committedMajor
  | .reservedCommitted | .launchMitigations | .currentMitigations => true
  | _ => false

/-- Whether callers may assign a field: all but the reserved ones and the word that packs the
signing key. -/
def isPublic : Field → Bool
  | .policyReserved | .keyInfo | .reservedKey | .reservedCpuid | .reservedCurrent
  | .reservedCommitted | .reservedTail | .signatureReserved => false
  | _ => true

def totalWidth : List Field → Nat
  | [] => 0
  | field :: fields => field.width + totalWidth fields

/-- The place of the first byte of a field: the widths of all fields before it. -/
def offset (field : Field) : Nat :=
  totalWidth (all.takeWhile (· ≠ field))

/-- Where the fields stand, as the firmware interface has it. -/
theorem map_offset_all : (all.map fun field => (field, field.offset)) =
    [(.version, 0x000), (.guestSvn, 0x004), (.policyAbiMinor, 0x008), (.policyAbiMajor, 0x009),
      (.policyFlags, 0x00A), (.policyReserved, 0x00C), (.familyId, 0x010), (.imageId, 0x020),
      (.vmpl, 0x030), (.signatureAlgo, 0x034), (.currentTcb, 0x038), (.platformInfo, 0x040),
      (.keyInfo, 0x048), (.reservedKey, 0x04C), (.reportData, 0x050), (.measurement, 0x090),
      (.hostData, 0x0C0), (.idKeyDigest, 0x0E0), (.authorKeyDigest, 0x110), (.reportId, 0x140),
      (.reportIdMa, 0x160), (.reportedTcb, 0x180), (.cpuidFamily, 0x188), (.cpuidModel, 0x189),
      (.cpuidStepping, 0x18A), (.reservedCpuid, 0x18B), (.chipId, 0x1A0), (.committedTcb, 0x1E0),
      (.currentBuild, 0x1E8), (.currentMinor, 0x1E9), (.currentMajor, 0x1EA),
      (.reservedCurrent, 0x1EB), (.committedBuild, 0x1EC), (.committedMinor, 0x1ED),
      (.committedMajor, 0x1EE), (.reservedCommitted, 0x1EF), (.launchTcb, 0x1F0),
      (.launchMitigations, 0x1F8), (.currentMitigations, 0x200), (.reservedTail, 0x208),
      (.signatureR, 0x2A0), (.signatureS, 0x2E8), (.signatureReserved, 0x330)] := by
  decide

theorem mem_all (field : Field) : field ∈ all := by
  cases field <;> decide

theorem nodup_all : all.Nodup := by
  decide

theorem totalWidth_body : totalWidth body = signatureOffset := rfl

theorem totalWidth_all : totalWidth all = size := rfl

theorem offset_add_width_le (field : Field) : field.offset + field.width ≤ size := by
  cases field <;> decide

end Field

def get (report : Report) : (field : Field) → Block field.width
  | .version => .ofUInt32 report.body.version
  | .guestSvn => .ofUInt32 report.body.guestSvn
  | .policyAbiMinor => .ofUInt8 report.body.policy.abiMinor
  | .policyAbiMajor => .ofUInt8 report.body.policy.abiMajor
  | .policyFlags => .ofUInt16 report.body.policy.flags
  | .policyReserved => .ofUInt32 report.body.policy.reserved
  | .familyId => report.body.familyId
  | .imageId => report.body.imageId
  | .vmpl => .ofUInt32 report.body.vmpl
  | .signatureAlgo => .ofUInt32 report.body.signatureAlgo
  | .currentTcb => report.body.currentTcb
  | .platformInfo => .ofUInt64 report.body.platformInfo
  | .keyInfo => .ofUInt32 report.body.keyInfo
  | .reservedKey => .ofUInt32 report.body.reservedKey
  | .reportData => report.body.reportData
  | .measurement => report.body.measurement
  | .hostData => report.body.hostData
  | .idKeyDigest => report.body.idKeyDigest
  | .authorKeyDigest => report.body.authorKeyDigest
  | .reportId => report.body.reportId
  | .reportIdMa => report.body.reportIdMa
  | .reportedTcb => report.body.reportedTcb
  | .cpuidFamily => .ofUInt8 report.body.cpuidFamily
  | .cpuidModel => .ofUInt8 report.body.cpuidModel
  | .cpuidStepping => .ofUInt8 report.body.cpuidStepping
  | .reservedCpuid => report.body.reservedCpuid
  | .chipId => report.body.chipId
  | .committedTcb => report.body.committedTcb
  | .currentBuild => .ofUInt8 report.body.currentBuild
  | .currentMinor => .ofUInt8 report.body.currentMinor
  | .currentMajor => .ofUInt8 report.body.currentMajor
  | .reservedCurrent => .ofUInt8 report.body.reservedCurrent
  | .committedBuild => .ofUInt8 report.body.committedBuild
  | .committedMinor => .ofUInt8 report.body.committedMinor
  | .committedMajor => .ofUInt8 report.body.committedMajor
  | .reservedCommitted => .ofUInt8 report.body.reservedCommitted
  | .launchTcb => report.body.launchTcb
  | .launchMitigations => .ofUInt64 report.body.launchMitigations
  | .currentMitigations => .ofUInt64 report.body.currentMitigations
  | .reservedTail => report.body.reservedTail
  | .signatureR => report.signature.r
  | .signatureS => report.signature.s
  | .signatureReserved => report.signature.reserved

def set (report : Report) : (field : Field) → Block field.width → Report
  | .version, value => { report with body.version := value.toUInt32 }
  | .guestSvn, value => { report with body.guestSvn := value.toUInt32 }
  | .policyAbiMinor, value => { report with body.policy.abiMinor := value.toUInt8 }
  | .policyAbiMajor, value => { report with body.policy.abiMajor := value.toUInt8 }
  | .policyFlags, value => { report with body.policy.flags := value.toUInt16 }
  | .policyReserved, value => { report with body.policy.reserved := value.toUInt32 }
  | .familyId, value => { report with body.familyId := value }
  | .imageId, value => { report with body.imageId := value }
  | .vmpl, value => { report with body.vmpl := value.toUInt32 }
  | .signatureAlgo, value => { report with body.signatureAlgo := value.toUInt32 }
  | .currentTcb, value => { report with body.currentTcb := value }
  | .platformInfo, value => { report with body.platformInfo := value.toUInt64 }
  | .keyInfo, value => { report with body.keyInfo := value.toUInt32 }
  | .reservedKey, value => { report with body.reservedKey := value.toUInt32 }
  | .reportData, value => { report with body.reportData := value }
  | .measurement, value => { report with body.measurement := value }
  | .hostData, value => { report with body.hostData := value }
  | .idKeyDigest, value => { report with body.idKeyDigest := value }
  | .authorKeyDigest, value => { report with body.authorKeyDigest := value }
  | .reportId, value => { report with body.reportId := value }
  | .reportIdMa, value => { report with body.reportIdMa := value }
  | .reportedTcb, value => { report with body.reportedTcb := value }
  | .cpuidFamily, value => { report with body.cpuidFamily := value.toUInt8 }
  | .cpuidModel, value => { report with body.cpuidModel := value.toUInt8 }
  | .cpuidStepping, value => { report with body.cpuidStepping := value.toUInt8 }
  | .reservedCpuid, value => { report with body.reservedCpuid := value }
  | .chipId, value => { report with body.chipId := value }
  | .committedTcb, value => { report with body.committedTcb := value }
  | .currentBuild, value => { report with body.currentBuild := value.toUInt8 }
  | .currentMinor, value => { report with body.currentMinor := value.toUInt8 }
  | .currentMajor, value => { report with body.currentMajor := value.toUInt8 }
  | .reservedCurrent, value => { report with body.reservedCurrent := value.toUInt8 }
  | .committedBuild, value => { report with body.committedBuild := value.toUInt8 }
  | .committedMinor, value => { report with body.committedMinor := value.toUInt8 }
  | .committedMajor, value => { report with body.committedMajor := value.toUInt8 }
  | .reservedCommitted, value => { report with body.reservedCommitted := value.toUInt8 }
  | .launchTcb, value => { report with body.launchTcb := value }
  | .launchMitigations, value => { report with body.launchMitigations := value.toUInt64 }
  | .currentMitigations, value => { report with body.currentMitigations := value.toUInt64 }
  | .reservedTail, value => { report with body.reservedTail := value }
  | .signatureR, value => { report with signature.r := value }
  | .signatureS, value => { report with signature.s := value }
  | .signatureReserved, value => { report with signature.reserved := value }

/-- The bytes of some fields, one field after the other. -/
def bytesOf (report : Report) (fields : List Field) : Bytes :=
  fields.flatMap fun field => (report.get field).toList

theorem length_bytesOf (report : Report) (fields : List Field) :
    (report.bytesOf fields).length = Field.totalWidth fields := by
  induction fields with
  | nil => rfl
  | cons field fields ih =>
    have hStep : report.bytesOf (field :: fields) =
        (report.get field).toList ++ report.bytesOf fields := rfl
    rw [hStep, List.length_append, ih, Block.length_toList, Field.totalWidth]

def toBlock (report : Report) : Block size :=
  ⟨report.bytesOf Field.all, by rw [length_bytesOf, Field.totalWidth_all]⟩

/-- The bytes that the signature covers. -/
def signedBytes (report : Report) : Block signatureOffset :=
  ⟨report.bytesOf Field.body, by rw [length_bytesOf, Field.totalWidth_body]⟩

/-- The signature covers the bytes in front of it. -/
theorem toList_signedBytes (report : Report) :
    report.signedBytes.toList = report.toBlock.toList.take signatureOffset := by
  have hSplit : report.toBlock.toList =
      report.signedBytes.toList ++ report.bytesOf Field.signature := List.flatMap_append
  rw [hSplit, List.take_left' report.signedBytes.length_toList]

theorem bytesOf_zero (fields : List Field) :
    zero.bytesOf fields = List.replicate (Field.totalWidth fields) 0 := by
  have hBytes : ∀ field : Field, (zero.get field).toList = List.replicate field.width 0 := by
    intro field
    cases field <;> rfl
  induction fields with
  | nil => rfl
  | cons field fields ih =>
    have hStep : zero.bytesOf (field :: fields) =
        (zero.get field).toList ++ zero.bytesOf fields := rfl
    rw [hStep, ih, hBytes, List.replicate_append_replicate, Field.totalWidth]

theorem toBlock_zero : zero.toBlock = .zero size :=
  Block.ext (bytesOf_zero Field.all)

/-- The bytes at the place of a field. -/
def Field.read (field : Field) (block : Block size) : Block field.width :=
  block.slice field.offset field.width field.offset_add_width_le

def ofBlock (block : Block size) : Report :=
  Field.all.foldl (fun report field => report.set field (field.read block)) zero

/-- The report with the given bytes, if their number is right. -/
def ofBytes? (bytes : Bytes) : Option Report :=
  (Block.ofList? size bytes).map ofBlock

end Report

end SnpGuest
