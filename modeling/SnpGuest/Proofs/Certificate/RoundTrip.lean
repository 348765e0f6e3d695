import Mathlib.Data.List.TakeWhile
import SnpGuest.Proofs.Certificate.Writing

namespace SnpGuest

/-!
# Reading a written certificate table

Writing keeps nothing of a kind but its GUID, and the nil GUID ends the records, so a table does
not always come back as it was.  `readBack` says what comes back: the entries before the first
with the nil GUID, each under the kind that its GUID stands for.  If two of them now share a kind,
reading fails, and in no other case.
-/

namespace CertificateKind

/-- Only a GUID of its own can be the nil one. -/
theorem guid_eq_nil_iff (kind : CertificateKind) :
    kind.guid = Guid.nil ↔ kind = .other Guid.nil := by
  cases kind with
  | other own => simp [guid]
  | _ => decide

/-- A kind survives the way through its GUID unless it is written with the GUID of a known kind. -/
theorem ofGuid_guid_eq_self_iff (kind : CertificateKind) :
    ofGuid kind.guid = kind ↔ ∀ knownKind ∈ known, kind ≠ .other knownKind.guid := by
  constructor
  · -- A known kind would have to be written as `other`, and none is.
    rintro hSelf knownKind hKnown rfl
    rw [guid, ofGuid_guid_of_mem hKnown] at hSelf
    rw [hSelf] at hKnown
    simp [known] at hKnown
  · intro hOther
    cases kind with
    | other own =>
        have hNone : known.find? (fun kind => decide (kind.guid = own)) = none := by
          rw [List.find?_eq_none]
          intro knownKind hKnown hSame
          exact hOther knownKind hKnown (by rw [of_decide_eq_true hSame])
        show (known.find? fun kind => decide (kind.guid = own)).getD (other own) = other own
        rw [hNone, Option.getD_none]
    | _ => exact ofGuid_guid_of_mem (by decide)

end CertificateKind

namespace CertificateTable

open CertificateRecord (size)

/-- What a written table says to a reader. -/
def readBack (table : CertificateTable) : List (CertificateKind × Bytes) :=
  (table.entries.takeWhile fun entry => entry.1.guid ≠ Guid.nil).map fun entry =>
    (.ofGuid entry.1.guid, entry.2)

/-- The number of entries before the first with the nil GUID. -/
def visible (table : CertificateTable) : Nat :=
  table.entries.findIdx fun entry => entry.1.guid = Guid.nil

theorem visible_le (table : CertificateTable) : table.visible ≤ table.entries.length :=
  List.findIdx_le_length

theorem readBack_eq_map_take (table : CertificateTable) :
    table.readBack = (table.entries.take table.visible).map fun entry =>
      (.ofGuid entry.1.guid, entry.2) := by
  rw [readBack, List.takeWhile_eq_take_findIdx_not]
  simp [visible]

section Written

variable {table : CertificateTable} {bytes : Bytes}

theorem guid_recordAt_of_lt_visible (hWritten : toBytes table = .ok bytes) {i : Nat}
    (hi : i < table.visible) : (recordAt bytes i).guid ≠ Guid.nil := by
  have hEntry : i < table.entries.length := lt_of_lt_of_le hi table.visible_le
  rw [recordAt_written hWritten i hEntry]
  show (table.entries[i]).1.guid ≠ Guid.nil
  simpa using List.not_of_lt_findIdx hi

theorem guid_recordAt_visible (hWritten : toBytes table = .ok bytes) :
    (recordAt bytes table.visible).guid = Guid.nil := by
  -- Either an entry ends the records, or the record of zeros behind them does.
  rcases lt_or_eq_of_le table.visible_le with hEntry | hAll
  · have hNil := @List.findIdx_getElem _ _ _ hEntry
    rw [recordAt_written hWritten _ hEntry]
    exact of_decide_eq_true hNil
  · rw [hAll]
    exact recordAt_written_end hWritten

/-- The records before the first with the nil GUID name the entries that are read back. -/
theorem map_entryAt_written (hWritten : toBytes table = .ok bytes) :
    (List.range table.visible).map (entryAt bytes) = table.readBack := by
  rw [readBack_eq_map_take]
  apply List.ext_getElem
  · simp [table.visible_le]
  · intro i hi _
    have hEntry : i < table.entries.length :=
      lt_of_lt_of_le (by simpa using hi) table.visible_le
    have hKind : (recordAt bytes i).kind = .ofGuid (table.entries[i]).1.guid := by
      rw [recordAt_written hWritten i hEntry]
      rfl
    simp [entryAt, hKind, (range_written hWritten i hEntry).2]

theorem map_kind_written (hWritten : toBytes table = .ok bytes) :
    ((List.range table.visible).map fun i => (recordAt bytes i).kind) =
      table.readBack.map Prod.fst := by
  rw [← map_entryAt_written hWritten, List.map_map]
  rfl

/-- A written table is read back, unless two of the kinds that come back are the same. -/
theorem parse_written (hWritten : toBytes table = .ok bytes) :
    ((table.readBack.map Prod.fst).Nodup →
        ∃ result, parse bytes = .ok result ∧ result.entries = table.readBack) ∧
      (¬ (table.readBack.map Prod.fst).Nodup → parse bytes = .error .duplicateKind) := by
  have hRoom : size * (table.visible + 1) ≤ bytes.length :=
    le_trans (Nat.mul_le_mul_left size (Nat.succ_le_succ table.visible_le))
      (dataBase_le_length hWritten)
  have hSound := parse_of_sound hRoom (guid_recordAt_visible hWritten) fun i hi =>
    ⟨guid_recordAt_of_lt_visible hWritten hi,
      (range_written hWritten i (lt_of_lt_of_le hi table.visible_le)).1⟩
  rw [map_kind_written hWritten] at hSound
  refine ⟨fun hDistinct => ?_, hSound.2⟩
  obtain ⟨result, hHolds, hParse⟩ := hSound.1 hDistinct
  exact ⟨result, hParse, hHolds.trans (map_entryAt_written hWritten)⟩

end Written

/-- Nothing is lost or renamed exactly when no entry is written with the nil GUID, or with the GUID
of a known kind instead of the kind. -/
theorem readBack_eq_entries_iff (table : CertificateTable) :
    table.readBack = table.entries ↔
      ∀ entry ∈ table.entries, entry.1 ≠ .other Guid.nil ∧
        ∀ kind ∈ CertificateKind.known, entry.1 ≠ .other kind.guid := by
  simp only [← CertificateKind.ofGuid_guid_eq_self_iff, ne_eq, ← CertificateKind.guid_eq_nil_iff]
  constructor
  · intro hSame
    have hAll : (table.entries.takeWhile fun entry => entry.1.guid ≠ Guid.nil) =
        table.entries := by
      refine (List.takeWhile_prefix _).eq_of_length ?_
      rw [readBack] at hSame
      simpa using congrArg List.length hSame
    rw [readBack, hAll] at hSame
    have hKept := List.map_inj_left.mp (hSame.trans (List.map_id _).symm)
    intro entry hEntry
    refine ⟨by simpa using List.takeWhile_eq_self_iff.mp hAll entry hEntry, ?_⟩
    exact congrArg Prod.fst (hKept entry hEntry)
  · intro hEach
    have hAll : (table.entries.takeWhile fun entry => entry.1.guid ≠ Guid.nil) =
        table.entries :=
      List.takeWhile_eq_self_iff.mpr fun entry hEntry => by simpa using (hEach entry hEntry).1
    rw [readBack, hAll]
    refine (List.map_congr_left fun entry hEntry => ?_).trans (List.map_id _)
    exact Prod.ext (hEach entry hEntry).2 rfl

/-- A table comes back as it was if nothing of it is lost or renamed. -/
theorem parse_written_of_readBack {table : CertificateTable} {bytes : Bytes}
    (hWritten : toBytes table = .ok bytes) (hSame : table.readBack = table.entries) :
    parse bytes = .ok table := by
  have hDistinct : (table.readBack.map Prod.fst).Nodup := by
    rw [hSame]
    exact table.nodup
  obtain ⟨result, hParse, hEntries⟩ := (parse_written hWritten).1 hDistinct
  rw [hParse, OrderedMap.ext (hEntries.trans hSame)]

theorem parse_written_of_known {table : CertificateTable} {bytes : Bytes}
    (hWritten : toBytes table = .ok bytes)
    (hKnown : ∀ entry ∈ table.entries, entry.1 ∈ CertificateKind.known) :
    parse bytes = .ok table := by
  have hOther : ∀ guid, .other guid ∉ CertificateKind.known := by simp [CertificateKind.known]
  apply parse_written_of_readBack hWritten
  rw [readBack_eq_entries_iff]
  intro entry hEntry
  have hKind := hKnown entry hEntry
  exact ⟨fun hNil => hOther _ (hNil ▸ hKind), fun kind _ hGuid => hOther _ (hGuid ▸ hKind)⟩

/-- Writing succeeds when all places and lengths fit into their words.  Reading the result gives
the entries before the first with the nil GUID, each under the kind of its GUID, or refuses two of
one kind; nothing else can go wrong.  So a table comes back as it was exactly when no entry is
written with the nil GUID or under the GUID of a known kind. -/
theorem parse_toBytes (table : CertificateTable) :
    ((∃ bytes, toBytes table = .ok bytes) ↔ WordsFit (dataBase table) table.entries) ∧
    ∀ bytes, toBytes table = .ok bytes →
      ((table.readBack.map Prod.fst).Nodup →
        ∃ result, parse bytes = .ok result ∧ result.entries = table.readBack) ∧
      (¬ (table.readBack.map Prod.fst).Nodup →
        ∃ cause, parse bytes = .error cause ∧ cause.message = "duplicate certificate type") ∧
      (parse bytes = .ok table ↔
        ∀ entry ∈ table.entries, entry.1 ≠ .other Guid.nil ∧
          ∀ kind ∈ CertificateKind.known, entry.1 ≠ .other kind.guid) := by
  refine ⟨exists_toBytes_iff table, fun bytes hWritten => ?_⟩
  obtain ⟨hRead, hRefused⟩ := parse_written hWritten
  refine ⟨hRead, fun hRepeated => ⟨.duplicateKind, hRefused hRepeated, rfl⟩, ?_⟩
  rw [← readBack_eq_entries_iff]
  constructor
  · intro hSame
    by_cases hDistinct : (table.readBack.map Prod.fst).Nodup
    · obtain ⟨result, hParse, hEntries⟩ := hRead hDistinct
      obtain rfl : result = table := Except.ok.inj (hParse.symm.trans hSame)
      exact hEntries.symm
    · rw [hRefused hDistinct] at hSame
      cases hSame
  · intro hSame
    have hDistinct : (table.readBack.map Prod.fst).Nodup := by
      rw [hSame]
      exact table.nodup
    obtain ⟨result, hParse, hEntries⟩ := hRead hDistinct
    rw [hParse, OrderedMap.ext (hEntries.trans hSame)]

/-- A root certificate and another entry written with its GUID: the two are written, and refused
when they are read. -/
theorem parse_toBytes_of_twin_roots :
    let twins : CertificateTable :=
      .ofList [(.ark, [1, 2, 3]), (.other CertificateKind.ark.guid, []), (.vcek, [4])]
    ∃ bytes, toBytes twins = .ok bytes ∧
      ∃ cause, parse bytes = .error cause ∧ cause.message = "duplicate certificate type" := by
  intro twins
  obtain ⟨hWrites, hReads⟩ := parse_toBytes twins
  obtain ⟨bytes, hWritten⟩ := hWrites.mpr (by decide)
  exact ⟨bytes, hWritten, (hReads bytes hWritten).2.1 (by decide)⟩

end CertificateTable

end SnpGuest
