import SnpGuest.Bytes.Hex

namespace SnpGuest

/-!
# Kinds of certificates

A certificate table names each certificate by a GUID.  Five of these stand for the certificates of
the platform's own chain; any other GUID is a kind of its own.  A kind written `other` with one of
the five GUIDs is still different from the known kind; only reading a GUID settles on the latter.
-/

/-- A globally unique identifier: sixteen bytes in the order in which its text shows them. -/
abbrev Guid := Block 16

namespace Guid

def nil : Guid := Block.zero 16

/-- The text of an identifier: its digits in groups of 8, 4, 4, 4 and 12. -/
def text (guid : Guid) : String :=
  let group (start count : Nat) := Hex.encode ((guid.toList.drop start).take count)
  "-".intercalate [group 0 4, group 4 2, group 6 2, group 8 2, group 10 6]

end Guid

/-- What a certificate in a table is for. -/
inductive CertificateKind where
  /-- The root key of the vendor. -/
  | ark
  /-- The intermediate key of the vendor. -/
  | ask
  /-- The key of a chip. -/
  | vcek
  /-- The key of a cloud provider. -/
  | vlek
  /-- The revocation list. -/
  | crl
  | other (guid : Guid)
deriving DecidableEq

namespace CertificateKind

/-- The kinds with a GUID of their own. -/
def known : List CertificateKind :=
  [ark, ask, vcek, vlek, crl]

def guid : CertificateKind → Guid
  | ark => ⟨[0xc0, 0xb4, 0x06, 0xa4, 0xa8, 0x03, 0x49, 0x52,
      0x97, 0x43, 0x3f, 0xb6, 0x01, 0x4c, 0xd0, 0xae], rfl⟩
  | ask => ⟨[0x4a, 0xb7, 0xb3, 0x79, 0xbb, 0xac, 0x4f, 0xe4,
      0xa0, 0x2f, 0x05, 0xae, 0xf3, 0x27, 0xc7, 0x82], rfl⟩
  | vcek => ⟨[0x63, 0xda, 0x75, 0x8d, 0xe6, 0x64, 0x45, 0x64,
      0xad, 0xc5, 0xf4, 0xb9, 0x3b, 0xe8, 0xac, 0xcd], rfl⟩
  | vlek => ⟨[0xa8, 0x07, 0x4b, 0xc2, 0xa2, 0x5a, 0x48, 0x3e,
      0xaa, 0xe6, 0x39, 0xc0, 0x45, 0xa0, 0xb8, 0xa1], rfl⟩
  | crl => ⟨[0x92, 0xf8, 0x1b, 0xc3, 0x58, 0x11, 0x4d, 0x3d,
      0x97, 0xff, 0xd1, 0x9f, 0x88, 0xdc, 0x67, 0xea], rfl⟩
  | other guid => guid

/-- The kind that a GUID stands for. -/
def ofGuid (guid : Guid) : CertificateKind :=
  (known.find? fun kind => kind.guid = guid).getD (other guid)

theorem ofGuid_guid_of_mem {kind : CertificateKind} (hKnown : kind ∈ known) :
    ofGuid kind.guid = kind := by
  have hAll : ∀ kind ∈ known, ofGuid kind.guid = kind := by decide
  exact hAll kind hKnown

/-- Reading a GUID keeps it. -/
theorem guid_ofGuid (guid : Guid) : (ofGuid guid).guid = guid := by
  unfold ofGuid
  cases hFound : known.find? fun kind => kind.guid = guid with
  | none => rfl
  | some kind => simpa using List.find?_some hFound

end CertificateKind

end SnpGuest
