import Mathlib.Data.List.Range
import Mathlib.Data.Nat.Find
import SnpGuest.Certificate.Table

namespace SnpGuest

/-!
# What reading a certificate table accepts

The bytes come from the host, so nothing about them is assumed.  Record `i` is read where it must
lie, at `24 * i`, without regard to the records before it; `recordAt` and what follows say this by
position alone.  `TakenUp` says when the reader goes on behind record `i`.

The invariant of the loop is `parse_eq_collect`: behind `k` records that were taken up, the reader
holds exactly their kinds and data and has the other whole records before it.  The four ways to
stop at a record follow from it, and one of them must happen.
-/

theorem Block.slice_padded {n offset width : Nat} (bytes : Bytes) (hFits : offset + width ≤ n)
    (hLong : n ≤ bytes.length) :
    (Block.padded n (bytes.take n)).slice offset width hFits =
      Block.padded width (bytes.drop offset) := by
  have hRest : width ≤ (bytes.drop offset).length := by
    rw [List.length_drop]
    omega
  apply Block.ext
  show ((Block.padded n (bytes.take n)).toList.drop offset).take width = _
  rw [padded_take, toList_padded_of_le hLong, toList_padded_of_le hRest, List.drop_take,
    List.take_take, Nat.min_eq_left (by omega)]

namespace CertificateRecord

/-- The kind of certificate that a record names. -/
def kind (record : CertificateRecord) : CertificateKind :=
  .ofGuid record.guid

/-- The bytes that a record points at. -/
def range (whole : Bytes) (record : CertificateRecord) : Bytes :=
  (whole.drop record.offset.toNat).take record.length.toNat

/-- Whether the range of a record ends inside the bytes.  The sum does not wrap. -/
def Inside (whole : Bytes) (record : CertificateRecord) : Prop :=
  record.offset.toNat + record.length.toNat ≤ whole.length

theorem data?_of_inside {whole : Bytes} {record : CertificateRecord}
    (hInside : record.Inside whole) : record.data? whole = some (record.range whole) :=
  if_pos hInside

theorem data?_of_not_inside {whole : Bytes} {record : CertificateRecord}
    (hOutside : ¬ record.Inside whole) : record.data? whole = none :=
  if_neg hOutside

end CertificateRecord

namespace CertificateTable

open CertificateRecord (size)

/-! ## Records by position -/

/-- The record whose 24 bytes start at `24 * i`: a GUID of 16 bytes and two little-endian words. -/
def recordAt (bytes : Bytes) (i : Nat) : CertificateRecord where
  guid := .padded 16 (bytes.drop (size * i))
  offset := (Block.padded 4 (bytes.drop (size * i + 16))).toUInt32
  length := (Block.padded 4 (bytes.drop (size * i + 20))).toUInt32

/-- The kind that record `i` names, and the data that it points at. -/
def entryAt (bytes : Bytes) (i : Nat) : CertificateKind × Bytes :=
  ((recordAt bytes i).kind, (recordAt bytes i).range bytes)

theorem ofBlock_take_eq_recordAt {bytes : Bytes} (hLong : size ≤ bytes.length) :
    CertificateRecord.ofBlock (Block.padded size (bytes.take size)) = recordAt bytes 0 := by
  unfold CertificateRecord.ofBlock recordAt
  rw [Block.slice_padded bytes _ hLong, Block.slice_padded bytes _ hLong,
    Block.slice_padded bytes _ hLong]
  simp only [Nat.mul_zero, Nat.zero_add]

/-- Record `i` is its 24 bytes. -/
theorem toList_recordAt {bytes : Bytes} {i : Nat} (hWhole : size * (i + 1) ≤ bytes.length) :
    (recordAt bytes i).toBlock.toList = (bytes.drop (size * i)).take size := by
  have hLong : size ≤ (bytes.drop (size * i)).length := by
    rw [Nat.mul_succ] at hWhole
    rw [List.length_drop]
    omega
  have hShift : recordAt bytes i = recordAt (bytes.drop (size * i)) 0 := by
    simp only [recordAt, List.drop_drop, Nat.mul_zero, Nat.zero_add, Nat.add_zero]
  rw [hShift, ← ofBlock_take_eq_recordAt hLong, CertificateRecord.toBlock_ofBlock,
    Block.padded_take, Block.toList_padded_of_le hLong]

theorem recordAt_drop (bytes : Bytes) (i : Nat) :
    recordAt (bytes.drop size) i = recordAt bytes (i + 1) := by
  have hPlace : ∀ place, size + (size * i + place) = size * (i + 1) + place := by
    intro place
    rw [Nat.mul_succ]
    omega
  have hGuid : size + size * i = size * (i + 1) := hPlace 0
  simp only [recordAt, List.drop_drop, hPlace, hGuid]

/-- The reader sees the whole records in their order. -/
theorem readRecords_eq (count : Nat) (bytes : Bytes) (hLong : size * count ≤ bytes.length) :
    readRecords count bytes = (List.range count).map (recordAt bytes) := by
  induction count generalizing bytes with
  | zero => rfl
  | succ count ih =>
      -- The other records are read from the bytes behind the first, as its position there is zero.
      rw [Nat.mul_succ] at hLong
      rw [readRecords, ofBlock_take_eq_recordAt (by omega),
        ih (bytes.drop size) (by rw [List.length_drop]; omega), List.range_succ_eq_map,
        List.map_cons, List.map_map]
      congr 1
      apply List.map_congr_left
      intro i _
      exact recordAt_drop bytes i

/-- The whole records from number `k` on. -/
def recordsFrom (bytes : Bytes) (k : Nat) : List CertificateRecord :=
  (List.range' k (bytes.length / size - k)).map (recordAt bytes)

theorem recordsFrom_eq_cons {bytes : Bytes} {k : Nat} (hWhole : size * (k + 1) ≤ bytes.length) :
    recordsFrom bytes k = recordAt bytes k :: recordsFrom bytes (k + 1) := by
  have hMore : bytes.length / size - k = bytes.length / size - (k + 1) + 1 := by
    simp only [size] at hWhole ⊢
    omega
  rw [recordsFrom, hMore, List.range'_succ, List.map_cons, recordsFrom]

theorem recordsFrom_eq_nil {bytes : Bytes} {k : Nat} (hShort : bytes.length < size * (k + 1)) :
    recordsFrom bytes k = [] := by
  have hNone : bytes.length / size - k = 0 := by
    simp only [size] at hShort ⊢
    omega
  rw [recordsFrom, hNone]
  rfl

/-! ## One record -/

section Step

variable {whole : Bytes} {table : CertificateTable} {record : CertificateRecord}

theorem collect_end (rest : List CertificateRecord) (hEnd : record.guid = Guid.nil) :
    collect whole table (record :: rest) = .ok table := by
  rw [collect, if_pos hEnd]

theorem collect_outside (rest : List CertificateRecord) (hGuid : record.guid ≠ Guid.nil)
    (hOutside : ¬ record.Inside whole) :
    collect whole table (record :: rest) = .error .outsideTable := by
  rw [collect, if_neg hGuid, CertificateRecord.data?_of_not_inside hOutside]

/-- A kind that is there already is refused, but only after the range was looked at. -/
theorem collect_duplicate (rest : List CertificateRecord) (hGuid : record.guid ≠ Guid.nil)
    (hInside : record.Inside whole) (hPresent : table.get? record.kind ≠ none) :
    collect whole table (record :: rest) = .error .duplicateKind := by
  obtain ⟨data, hData⟩ := Option.ne_none_iff_exists'.mp hPresent
  rw [CertificateRecord.kind] at hData
  rw [collect, if_neg hGuid, CertificateRecord.data?_of_inside hInside]
  simp only [hData]

theorem collect_takeUp (rest : List CertificateRecord) (hGuid : record.guid ≠ Guid.nil)
    (hInside : record.Inside whole) (hFresh : table.get? record.kind = none) :
    collect whole table (record :: rest) =
      collect whole (table.insert record.kind (record.range whole)) rest := by
  rw [CertificateRecord.kind] at hFresh
  rw [collect, if_neg hGuid, CertificateRecord.data?_of_inside hInside]
  simp only [hFresh, CertificateRecord.kind]

end Step

/-! ## The loop -/

/-- Record `i` is one that the reader goes past: it does not end the records, its range lies
inside the bytes, and no record before it names its kind. -/
structure TakenUp (bytes : Bytes) (i : Nat) : Prop where
  guid_ne_nil : (recordAt bytes i).guid ≠ Guid.nil
  inside : (recordAt bytes i).Inside bytes
  fresh : ∀ j < i, (recordAt bytes j).kind ≠ (recordAt bytes i).kind

/-- A record that is sound in itself stops the reader only when its kind was there before. -/
theorem exists_seen_of_not_takenUp {bytes : Bytes} {i : Nat}
    (hGuid : (recordAt bytes i).guid ≠ Guid.nil) (hInside : (recordAt bytes i).Inside bytes)
    (hNot : ¬ TakenUp bytes i) :
    ∃ j < i, (recordAt bytes j).kind = (recordAt bytes i).kind := by
  by_contra hNone
  exact hNot ⟨hGuid, hInside, fun j hj hSame => hNone ⟨j, hj, hSame⟩⟩

/-- The reader comes to number `k`: the `k` records before it are whole and were taken up. -/
structure Reaches (bytes : Bytes) (k : Nat) : Prop where
  whole : size * k ≤ bytes.length
  takenUp : ∀ i < k, TakenUp bytes i

/-- The table of the reader behind the first `k` records. -/
def Holds (bytes : Bytes) (k : Nat) (table : CertificateTable) : Prop :=
  table.entries = (List.range k).map (entryAt bytes)

theorem Holds.get?_eq_none_iff {bytes : Bytes} {k : Nat} {table : CertificateTable}
    (hTable : Holds bytes k table) (kind : CertificateKind) :
    table.get? kind = none ↔ ∀ j < k, (recordAt bytes j).kind ≠ kind := by
  have hKeys : table.keys = (List.range k).map fun j => (recordAt bytes j).kind := by
    rw [OrderedMap.keys, hTable, List.map_map]
    rfl
  rw [OrderedMap.get?_eq_none_iff, hKeys]
  simp

/-- The invariant of the loop. -/
theorem parse_eq_collect {bytes : Bytes} {k : Nat} (hReach : Reaches bytes k) :
    ∃ table, Holds bytes k table ∧
      parse bytes = collect bytes table (recordsFrom bytes k) := by
  induction k with
  | zero =>
      refine ⟨.empty, rfl, ?_⟩
      rw [parse, readRecords_eq _ _ (Nat.mul_div_le _ _), recordsFrom, Nat.sub_zero,
        List.range_eq_range']
  | succ k ih =>
      have hBefore : Reaches bytes k :=
        ⟨le_trans (Nat.mul_le_mul_left size k.le_succ) hReach.whole,
          fun i hi => hReach.takenUp i (by omega)⟩
      obtain ⟨table, hTable, hParse⟩ := ih hBefore
      -- Record `k` is new to the table because no record before it has its kind.
      have hRecord := hReach.takenUp k (by omega)
      have hFresh : table.get? (recordAt bytes k).kind = none :=
        (hTable.get?_eq_none_iff _).mpr hRecord.fresh
      refine ⟨table.insert (recordAt bytes k).kind ((recordAt bytes k).range bytes), ?_, ?_⟩
      · rw [Holds, OrderedMap.entries_insert_of_absent _ _ hFresh, hTable, List.range_succ,
          List.map_append]
        rfl
      · rw [hParse, recordsFrom_eq_cons hReach.whole,
          collect_takeUp _ hRecord.guid_ne_nil hRecord.inside hFresh]

/-! ## Where the reader stops -/

section Stop

variable {bytes : Bytes} {k : Nat}

theorem parse_of_end (hReach : Reaches bytes k) (hWhole : size * (k + 1) ≤ bytes.length)
    (hEnd : (recordAt bytes k).guid = Guid.nil) :
    ∃ table, Holds bytes k table ∧ parse bytes = .ok table := by
  obtain ⟨table, hTable, hParse⟩ := parse_eq_collect hReach
  refine ⟨table, hTable, ?_⟩
  rw [hParse, recordsFrom_eq_cons hWhole, collect_end _ hEnd]

theorem parse_of_outside (hReach : Reaches bytes k) (hWhole : size * (k + 1) ≤ bytes.length)
    (hGuid : (recordAt bytes k).guid ≠ Guid.nil) (hOutside : ¬ (recordAt bytes k).Inside bytes) :
    parse bytes = .error .outsideTable := by
  obtain ⟨table, -, hParse⟩ := parse_eq_collect hReach
  rw [hParse, recordsFrom_eq_cons hWhole, collect_outside _ hGuid hOutside]

theorem parse_of_duplicate (hReach : Reaches bytes k) (hWhole : size * (k + 1) ≤ bytes.length)
    (hGuid : (recordAt bytes k).guid ≠ Guid.nil) (hInside : (recordAt bytes k).Inside bytes)
    (hSeen : ∃ j < k, (recordAt bytes j).kind = (recordAt bytes k).kind) :
    parse bytes = .error .duplicateKind := by
  obtain ⟨table, hTable, hParse⟩ := parse_eq_collect hReach
  have hPresent : table.get? (recordAt bytes k).kind ≠ none := by
    intro hNone
    obtain ⟨j, hj, hSame⟩ := hSeen
    exact (hTable.get?_eq_none_iff _).mp hNone j hj hSame
  rw [hParse, recordsFrom_eq_cons hWhole, collect_duplicate _ hGuid hInside hPresent]

theorem parse_of_exhausted (hReach : Reaches bytes k) (hShort : bytes.length < size * (k + 1)) :
    parse bytes = .error .missingTerminator := by
  obtain ⟨table, -, hParse⟩ := parse_eq_collect hReach
  rw [hParse, recordsFrom_eq_nil hShort, collect]

end Stop

/-- The reader stops somewhere: where no whole record is left, or at a record that is not taken
up. -/
theorem exists_stop (bytes : Bytes) :
    ∃ k, Reaches bytes k ∧
      (bytes.length < size * (k + 1) ∨
        (size * (k + 1) ≤ bytes.length ∧ ¬ TakenUp bytes k)) := by
  classical
  -- The least number at which one of the two holds; it is at most the number of bytes.
  have hSome : ∃ k, bytes.length < size * (k + 1) ∨ ¬ TakenUp bytes k :=
    ⟨bytes.length, Or.inl (by simp only [size]; omega)⟩
  have hBefore : ∀ i < Nat.find hSome, size * (i + 1) ≤ bytes.length ∧ TakenUp bytes i := by
    intro i hi
    have hNot := Nat.find_min hSome hi
    rw [not_or, not_lt, not_not] at hNot
    exact hNot
  refine ⟨Nat.find hSome, ⟨?_, fun i hi => (hBefore i hi).2⟩, ?_⟩
  · cases hStop : Nat.find hSome with
    | zero => exact Nat.zero_le _
    | succ i => exact (hBefore i (by omega)).1
  · rcases Nat.lt_or_ge bytes.length (size * (Nat.find hSome + 1)) with hShort | hWhole
    · exact Or.inl hShort
    · have hStop := (Nat.find_spec hSome).resolve_left (Nat.not_lt.mpr hWhole)
      exact Or.inr ⟨hWhole, hStop⟩

theorem Reaches.of_takenUp {bytes : Bytes} {k : Nat} (hWhole : size * (k + 1) ≤ bytes.length)
    (hTaken : ∀ i < k, TakenUp bytes i) : Reaches bytes k :=
  ⟨le_trans (Nat.mul_le_mul_left size k.le_succ) hWhole, hTaken⟩

/-- Reading ends in one of four ways, each at the first record that is not taken up. -/
theorem parse_cases (bytes : Bytes) :
    ∃ k, Reaches bytes k ∧
      ((size * (k + 1) ≤ bytes.length ∧ (recordAt bytes k).guid = Guid.nil ∧
          ∃ table, Holds bytes k table ∧ parse bytes = .ok table) ∨
        (size * (k + 1) ≤ bytes.length ∧ (recordAt bytes k).guid ≠ Guid.nil ∧
          ¬ (recordAt bytes k).Inside bytes ∧ parse bytes = .error .outsideTable) ∨
        (size * (k + 1) ≤ bytes.length ∧ (recordAt bytes k).guid ≠ Guid.nil ∧
          (recordAt bytes k).Inside bytes ∧
          (∃ j < k, (recordAt bytes j).kind = (recordAt bytes k).kind) ∧
          parse bytes = .error .duplicateKind) ∨
        (bytes.length < size * (k + 1) ∧ parse bytes = .error .missingTerminator)) := by
  obtain ⟨k, hReach, hShort | ⟨hWhole, hStop⟩⟩ := exists_stop bytes
  · exact ⟨k, hReach, .inr (.inr (.inr ⟨hShort, parse_of_exhausted hReach hShort⟩))⟩
  refine ⟨k, hReach, ?_⟩
  by_cases hGuid : (recordAt bytes k).guid = Guid.nil
  · exact .inl ⟨hWhole, hGuid, parse_of_end hReach hWhole hGuid⟩
  by_cases hInside : (recordAt bytes k).Inside bytes
  · have hSeen := exists_seen_of_not_takenUp hGuid hInside hStop
    exact .inr (.inr (.inl ⟨hWhole, hGuid, hInside, hSeen,
      parse_of_duplicate hReach hWhole hGuid hInside hSeen⟩))
  · exact .inr (.inl ⟨hWhole, hGuid, hInside, parse_of_outside hReach hWhole hGuid hInside⟩)

/-- That the first `k` records are taken up says that none of them ends the records or points
outside, and that their kinds are pairwise different. -/
theorem forall_takenUp_iff (bytes : Bytes) (k : Nat) :
    (∀ i < k, TakenUp bytes i) ↔
      (∀ i < k, (recordAt bytes i).guid ≠ Guid.nil ∧ (recordAt bytes i).Inside bytes) ∧
        ((List.range k).map fun i => (recordAt bytes i).kind).Nodup := by
  rw [List.Nodup, List.pairwise_map]
  constructor
  · intro hTaken
    refine ⟨fun i hi => ⟨(hTaken i hi).guid_ne_nil, (hTaken i hi).inside⟩, ?_⟩
    refine List.pairwise_lt_range.imp_of_mem ?_
    intro j i _ hi hLt
    exact (hTaken i (List.mem_range.mp hi)).fresh j hLt
  · rintro ⟨hEach, hDistinct⟩ i hi
    refine ⟨(hEach i hi).1, (hEach i hi).2, ?_⟩
    intro j hj
    have hPair := List.pairwise_iff_getElem.mp hDistinct j i (by simp; omega) (by simpa using hi) hj
    simpa using hPair

/-- When record `k` ends the records and those before it are sound in themselves, only two records
of one kind can make reading fail. -/
theorem parse_of_sound {bytes : Bytes} {k : Nat} (hWhole : size * (k + 1) ≤ bytes.length)
    (hEnd : (recordAt bytes k).guid = Guid.nil)
    (hEach : ∀ i < k, (recordAt bytes i).guid ≠ Guid.nil ∧ (recordAt bytes i).Inside bytes) :
    (((List.range k).map fun i => (recordAt bytes i).kind).Nodup →
        ∃ table, Holds bytes k table ∧ parse bytes = .ok table) ∧
      (¬ ((List.range k).map fun i => (recordAt bytes i).kind).Nodup →
        parse bytes = .error .duplicateKind) := by
  constructor
  · intro hDistinct
    have hTaken := (forall_takenUp_iff bytes k).mpr ⟨hEach, hDistinct⟩
    exact parse_of_end (.of_takenUp hWhole hTaken) hWhole hEnd
  · intro hRepeated
    obtain ⟨stop, hReach, hStop⟩ := exists_stop bytes
    -- The reader does not get past record `k`, and getting there would need different kinds.
    have hBefore : stop < k := by
      refine lt_of_le_of_ne (not_lt.mp fun hLater => ?_) ?_
      · exact (hReach.takenUp k hLater).guid_ne_nil hEnd
      · rintro rfl
        exact hRepeated ((forall_takenUp_iff bytes stop).mp hReach.takenUp).2
    have hRoom : size * (stop + 1) ≤ bytes.length :=
      le_trans (Nat.mul_le_mul_left size (by omega)) hWhole
    obtain ⟨hGuid, hInside⟩ := hEach stop hBefore
    have hNot : ¬ TakenUp bytes stop := by
      rcases hStop with hShort | ⟨-, hNot⟩
      · exact absurd hRoom (Nat.not_le.mpr hShort)
      · exact hNot
    exact parse_of_duplicate hReach hRoom hGuid hInside
      (exists_seen_of_not_takenUp hGuid hInside hNot)

theorem parse_eq_ok_iff (bytes : Bytes) (table : CertificateTable) :
    parse bytes = .ok table ↔
      ∃ k, size * (k + 1) ≤ bytes.length ∧ (∀ i < k, TakenUp bytes i) ∧
        (recordAt bytes k).guid = Guid.nil ∧ Holds bytes k table := by
  constructor
  · intro hOk
    obtain ⟨k, hReach, ⟨hWhole, hEnd, table', hTable, hParse⟩ | ⟨-, -, -, hParse⟩ |
      ⟨-, -, -, -, hParse⟩ | ⟨-, hParse⟩⟩ := parse_cases bytes
    all_goals
      rw [hParse] at hOk
      cases hOk
    exact ⟨k, hWhole, hReach.takenUp, hEnd, hTable⟩
  · rintro ⟨k, hWhole, hTaken, hEnd, hEntries⟩
    obtain ⟨table', hTable, hParse⟩ := parse_of_end (.of_takenUp hWhole hTaken) hWhole hEnd
    have hSame : table' = table := OrderedMap.ext (hTable.trans hEntries.symm)
    rw [hParse, hSame]

theorem parse_eq_error_iff (bytes : Bytes) (cause : TableError) :
    parse bytes = .error cause ↔
      (cause = .outsideTable ∧
        ∃ k, size * (k + 1) ≤ bytes.length ∧ (∀ i < k, TakenUp bytes i) ∧
          (recordAt bytes k).guid ≠ Guid.nil ∧ ¬ (recordAt bytes k).Inside bytes) ∨
      (cause = .duplicateKind ∧
        ∃ k, size * (k + 1) ≤ bytes.length ∧ (∀ i < k, TakenUp bytes i) ∧
          (recordAt bytes k).guid ≠ Guid.nil ∧ (recordAt bytes k).Inside bytes ∧
          ∃ j < k, (recordAt bytes j).kind = (recordAt bytes k).kind) ∨
      (cause = .missingTerminator ∧ ∀ i, size * (i + 1) ≤ bytes.length → TakenUp bytes i) := by
  constructor
  · intro hError
    obtain ⟨k, hReach, ⟨hWhole, hEnd, table, hTable, hParse⟩ | ⟨hWhole, hGuid, hRange, hParse⟩ |
      ⟨hWhole, hGuid, hRange, hSeen, hParse⟩ | ⟨hShort, hParse⟩⟩ := parse_cases bytes
    all_goals
      rw [hParse] at hError
      cases hError
    · exact .inl ⟨rfl, k, hWhole, hReach.takenUp, hGuid, hRange⟩
    · exact .inr (.inl ⟨rfl, k, hWhole, hReach.takenUp, hGuid, hRange, hSeen⟩)
    · refine .inr (.inr ⟨rfl, fun i hi => hReach.takenUp i ?_⟩)
      exact Nat.lt_of_succ_lt_succ (Nat.lt_of_mul_lt_mul_left (lt_of_le_of_lt hi hShort))
  · rintro (⟨rfl, k, hWhole, hTaken, hGuid, hRange⟩ |
      ⟨rfl, k, hWhole, hTaken, hGuid, hRange, hSeen⟩ | ⟨rfl, hAll⟩)
    · exact parse_of_outside (.of_takenUp hWhole hTaken) hWhole hGuid hRange
    · exact parse_of_duplicate (.of_takenUp hWhole hTaken) hWhole hGuid hRange hSeen
    · have hShort : bytes.length < size * (bytes.length / size + 1) :=
        Nat.lt_mul_div_succ _ (by decide)
      refine parse_of_exhausted ⟨Nat.mul_div_le _ _, fun i hi => hAll i ?_⟩ hShort
      exact le_trans (Nat.mul_le_mul_left size hi) (Nat.mul_div_le _ _)

/-- What reading answers, for any bytes.  It succeeds exactly when some whole record has the nil
GUID and the records before it have other GUIDs, ranges inside the bytes and pairwise different
kinds; the table then has an entry for each of these records.  Otherwise the first record that is
not taken up decides: its range is looked at before its kind, and a rest that is shorter than a
record is none. -/
theorem parse_outcome (bytes : Bytes) :
    (∀ table, parse bytes = .ok table ↔
      ∃ k, size * (k + 1) ≤ bytes.length ∧
        (∀ i < k, (recordAt bytes i).guid ≠ Guid.nil ∧ (recordAt bytes i).Inside bytes) ∧
        ((List.range k).map fun i => (recordAt bytes i).kind).Nodup ∧
        (recordAt bytes k).guid = Guid.nil ∧
        table.entries = (List.range k).map (entryAt bytes)) ∧
    (∀ cause, parse bytes = .error cause ↔
      (cause.message = "entry points outside the table" ∧
        ∃ k, size * (k + 1) ≤ bytes.length ∧ (∀ i < k, TakenUp bytes i) ∧
          (recordAt bytes k).guid ≠ Guid.nil ∧ ¬ (recordAt bytes k).Inside bytes) ∨
      (cause.message = "duplicate certificate type" ∧
        ∃ k, size * (k + 1) ≤ bytes.length ∧ (∀ i < k, TakenUp bytes i) ∧
          (recordAt bytes k).guid ≠ Guid.nil ∧ (recordAt bytes k).Inside bytes ∧
          ∃ j < k, (recordAt bytes j).kind = (recordAt bytes k).kind) ∨
      (cause.message = "missing terminating entry" ∧
        ∀ i, size * (i + 1) ≤ bytes.length → TakenUp bytes i)) := by
  constructor
  · intro table
    rw [parse_eq_ok_iff]
    simp only [forall_takenUp_iff, Holds, and_assoc]
  · intro cause
    have hOutside : cause.message = "entry points outside the table" ↔ cause = .outsideTable := by
      cases cause <;> simp [TableError.message]
    have hDuplicate : cause.message = "duplicate certificate type" ↔ cause = .duplicateKind := by
      cases cause <;> simp [TableError.message]
    have hMissing : cause.message = "missing terminating entry" ↔ cause = .missingTerminator := by
      cases cause <;> simp [TableError.message]
    rw [hOutside, hDuplicate, hMissing]
    exact parse_eq_error_iff bytes cause

end CertificateTable

end SnpGuest
