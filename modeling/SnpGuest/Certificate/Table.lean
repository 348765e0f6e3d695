import SnpGuest.Bytes.LittleEndian
import SnpGuest.Certificate.Kind
import SnpGuest.OrderedMap

namespace SnpGuest

/-!
# Certificate tables

The certificates that a host hands to a guest, one for each kind, in the order in which the kinds
came in.

The written form starts with a record of 24 bytes for each certificate (its GUID, and the place and
length of its data) and ends the records with one of zeros.  The data follow one another from there
on, and zeros fill the last page.  Reading is freer than writing: the data may lie anywhere inside
the bytes, even over one another or over the records, and nothing after the ending record is looked
at but the data.
-/

/-- One certificate for each kind, in order of first insertion. -/
abbrev CertificateTable := OrderedMap CertificateKind Bytes

/-- Why a table cannot be written or read. -/
inductive TableError where
  | tableTooLarge
  | certificateTooLarge
  | outsideTable
  | duplicateKind
  | missingTerminator
deriving DecidableEq

def TableError.message : TableError → String
  | .tableTooLarge => "table exceeds 4 GiB"
  | .certificateTooLarge => "certificate exceeds 4 GiB"
  | .outsideTable => "entry points outside the table"
  | .duplicateKind => "duplicate certificate type"
  | .missingTerminator => "missing terminating entry"

/-- Where the data of one certificate lie. -/
structure CertificateRecord where
  guid : Guid
  offset : UInt32
  length : UInt32
deriving DecidableEq

namespace CertificateRecord

abbrev size : Nat := 24

def toBlock (record : CertificateRecord) : Block size :=
  (record.guid.append (.ofUInt32 record.offset)).append (.ofUInt32 record.length)

def ofBlock (block : Block size) : CertificateRecord where
  guid := block.slice 0 16 (by decide)
  offset := (block.slice 16 4 (by decide)).toUInt32
  length := (block.slice 20 4 (by decide)).toUInt32

/-- The data that a record points at, if they lie inside the bytes. -/
def data? (whole : Bytes) (record : CertificateRecord) : Option Bytes :=
  let start := record.offset.toNat
  let count := record.length.toNat
  if start + count ≤ whole.length then some ((whole.drop start).take count) else none

/-- A record is its 24 bytes. -/
theorem toBlock_ofBlock (block : Block size) : (ofBlock block).toBlock = block := by
  have hFront : (block.slice 0 16 (by decide)).append (block.slice 16 4 (by decide)) =
      block.slice 0 20 (by decide) := block.append_slice (by decide)
  have hWhole : (block.slice 0 20 (by decide)).append (block.slice 20 4 (by decide)) =
      block.slice 0 24 (by decide) := block.append_slice (by decide)
  calc (ofBlock block).toBlock
      = ((block.slice 0 16 (by decide)).append (block.slice 16 4 (by decide))).append
          (block.slice 20 4 (by decide)) := by simp only [toBlock, ofBlock, Block.ofUInt32_toUInt32]
    _ = (block.slice 0 20 (by decide)).append (block.slice 20 4 (by decide)) :=
        congrArg (fun joined : Block 20 => joined.append (block.slice 20 4 _)) hFront
    _ = block.slice 0 24 (by decide) := hWhole
    _ = block := block.slice_all

end CertificateRecord

namespace CertificateTable

open CertificateRecord (size)

/-- Tables are written in whole pages. -/
abbrev pageSize : Nat := 4096

/-- The first number that four bytes cannot hold. -/
abbrev wordLimit : Nat := 4294967296

/-- The written records of some certificates whose data start at `offset`. -/
def records (offset : Nat) : List (CertificateKind × Bytes) → Except TableError Bytes
  | [] => .ok []
  | (kind, data) :: rest =>
    if wordLimit ≤ offset then .error .tableTooLarge
    else if wordLimit ≤ data.length then .error .certificateTooLarge
    else
      let record : CertificateRecord :=
        ⟨kind.guid, UInt32.ofNat offset, UInt32.ofNat data.length⟩
      match records (offset + data.length) rest with
      | .error cause => .error cause
      | .ok bytes => .ok (record.toBlock.toList ++ bytes)

/-- The least multiple of the page size that is not below a length. -/
def pageCeiling (length : Nat) : Nat :=
  (length + (pageSize - 1)) / pageSize * pageSize

def toBytes (table : CertificateTable) : Except TableError Bytes :=
  match records (size * (table.size + 1)) table.entries with
  | .error cause => .error cause
  | .ok header =>
    -- The record of zeros ends the records, also when the table is empty.
    let content := header ++ List.replicate size 0 ++ table.entries.flatMap (·.2)
    .ok (Bytes.resize (pageCeiling content.length) content)

/-- The first `count` records of a byte string. -/
def readRecords : Nat → Bytes → List CertificateRecord
  | 0, _ => []
  | count + 1, bytes =>
    .ofBlock (Block.padded size (bytes.take size)) :: readRecords count (bytes.drop size)

/-- Takes up the certificates of the records in turn, up to the ending record. -/
def collect (whole : Bytes) (table : CertificateTable) :
    List CertificateRecord → Except TableError CertificateTable
  | [] => .error .missingTerminator
  | record :: rest =>
    if record.guid = Guid.nil then .ok table
    else
      -- The range is looked at before the kind.
      match record.data? whole with
      | none => .error .outsideTable
      | some data =>
        let kind := CertificateKind.ofGuid record.guid
        match table.get? kind with
        | some _ => .error .duplicateKind
        | none => collect whole (table.insert kind data) rest

def parse (bytes : Bytes) : Except TableError CertificateTable :=
  -- A rest shorter than a record is none.
  collect bytes .empty (readRecords (bytes.length / size) bytes)

end CertificateTable

end SnpGuest
