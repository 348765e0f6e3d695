import Mathlib.Data.List.Nodup
import SnpGuest.Proofs.Certificate.RoundTrip

namespace SnpGuest

/-!
# Tables that come from reading

The bytes of a table say more than the table: where the data lie, what stands between them, what
follows the GUID of the ending record.  Reading forgets all that, and names every certificate by the
kind that its GUID stands for.  So what was read is a table of the sort that writing keeps, and
writing it gives one form for all byte strings that say the same.
-/

/-- Reading a GUID never gives the long name of a known kind, nor of the end of the records. -/
theorem CertificateKind.ofGuid_ne_other {guid : Guid} (hGuid : guid ≠ Guid.nil) :
    ofGuid guid ≠ .other Guid.nil ∧ ∀ kind ∈ known, ofGuid guid ≠ .other kind.guid := by
  constructor
  · rw [ne_eq, ← guid_eq_nil_iff, guid_ofGuid]
    exact hGuid
  · rw [← ofGuid_guid_eq_self_iff, guid_ofGuid]

namespace CertificateTable

variable {bytes : Bytes} {table : CertificateTable}

/-- Every entry that was read is named by the GUID of a record. -/
theorem exists_guid_of_mem (hParse : parse bytes = .ok table) {entry : CertificateKind × Bytes}
    (hEntry : entry ∈ table.entries) :
    ∃ guid : Guid, guid ≠ Guid.nil ∧ entry.1 = .ofGuid guid := by
  obtain ⟨k, -, hTaken, -, hHolds⟩ := (parse_eq_ok_iff bytes table).mp hParse
  rw [hHolds] at hEntry
  obtain ⟨i, hi, rfl⟩ := List.mem_map.mp hEntry
  exact ⟨(recordAt bytes i).guid, (hTaken i (List.mem_range.mp hi)).guid_ne_nil, rfl⟩

theorem kind_ne_other_of_parse (hParse : parse bytes = .ok table) :
    ∀ entry ∈ table.entries, entry.1 ≠ .other Guid.nil ∧
      ∀ kind ∈ CertificateKind.known, entry.1 ≠ .other kind.guid := by
  intro entry hEntry
  obtain ⟨guid, hGuid, hKind⟩ := exists_guid_of_mem hParse hEntry
  rw [hKind]
  exact CertificateKind.ofGuid_ne_other hGuid

/-- Entries that were read have different GUIDs, not only different kinds. -/
theorem nodup_guid_of_parse (hParse : parse bytes = .ok table) :
    (table.entries.map fun entry => entry.1.guid).Nodup := by
  -- Each kind can be found again from its GUID, so two equal GUIDs would give two equal kinds.
  have hKinds : (table.entries.map fun entry => entry.1.guid).map CertificateKind.ofGuid =
      table.entries.map Prod.fst := by
    rw [List.map_map]
    apply List.map_congr_left
    intro entry hEntry
    exact (CertificateKind.ofGuid_guid_eq_self_iff entry.1).mpr
      (kind_ne_other_of_parse hParse entry hEntry).2
  have hNodup := table.nodup
  rw [← hKinds] at hNodup
  exact hNodup.of_map _

/-- What was read from one byte string is read again from its own written form. -/
theorem parse_written_of_parse (hParse : parse bytes = .ok table) {written : Bytes}
    (hWritten : toBytes table = .ok written) : parse written = .ok table := by
  apply parse_written_of_readBack hWritten
  rw [readBack_eq_entries_iff]
  exact kind_ne_other_of_parse hParse

/-- Reading any byte string gives a table in which no kind stands under a longer name and no two
entries share a kind or a GUID.  If this table can be written again, its written form is read as the
same table, with all entries and data in their order, and writing that once more changes nothing. -/
theorem parse_canonical (hParse : parse bytes = .ok table) :
    (∀ entry ∈ table.entries, entry.1 ≠ .other Guid.nil ∧
      ∀ kind ∈ CertificateKind.known, entry.1 ≠ .other kind.guid) ∧
    (table.entries.map fun entry => entry.1).Nodup ∧
    (table.entries.map fun entry => entry.1.guid).Nodup ∧
    ∀ written, toBytes table = .ok written →
      parse written = .ok table ∧ (parse written >>= toBytes) = .ok written := by
  refine ⟨kind_ne_other_of_parse hParse, table.nodup, nodup_guid_of_parse hParse, ?_⟩
  intro written hWritten
  have hAgain := parse_written_of_parse hParse hWritten
  refine ⟨hAgain, ?_⟩
  rw [hAgain]
  exact hWritten

/-- A host's bytes in which the second certificate lies in front of the first, both over the
records, and more bytes follow the GUID of the ending record. -/
theorem parse_canonical_of_overlapping :
    let blob : Bytes := CertificateKind.vcek.guid.toList ++ [20, 0, 0, 0] ++ [30, 0, 0, 0] ++
      List.replicate 16 5 ++ [0, 0, 0, 0] ++ [24, 0, 0, 0] ++ List.replicate 16 0 ++
      List.replicate 8 9
    let table : CertificateTable :=
      .ofList [(.vcek, (blob.drop 20).take 30), (.other ⟨List.replicate 16 5, rfl⟩, blob.take 24)]
    parse blob = .ok table ∧
      ∃ written, toBytes table = .ok written ∧ parse written = .ok table ∧
        (parse written >>= toBytes) = .ok written := by
  intro blob table
  have hParse : parse blob = .ok table := by decide
  obtain ⟨written, hWritten⟩ := (exists_toBytes_iff table).mpr (by decide)
  obtain ⟨-, -, -, hAgain⟩ := parse_canonical hParse
  exact ⟨hParse, written, hWritten, hAgain written hWritten⟩

end CertificateTable

end SnpGuest
