import Mathlib.Algebra.GroupWithZero.Nat
import Mathlib.Order.Bounds.Basic
import SnpGuest.Proofs.Certificate.Reading

namespace SnpGuest

/-!
# What writing a certificate table produces

The writer goes over the entries with the place of the next data in hand; `dataStart` names that
place for entry `i` by position.  Main statements: writing succeeds exactly when every place and
every length fits into its word, and then record `i` names the GUID, place and length of entry `i`,
the record behind the last is all zero, and the range of each record holds the data of its entry.
-/

namespace CertificateTable

open CertificateRecord (size)

/-! ## Places -/

/-- Where the data of entry `i` start, when those of the first entry start at `base`. -/
def dataStart (base : Nat) (entries : List (CertificateKind × Bytes)) (i : Nat) : Nat :=
  base + ((entries.take i).map fun entry => entry.2.length).sum

@[simp] theorem dataStart_zero (base : Nat) (entries : List (CertificateKind × Bytes)) :
    dataStart base entries 0 = base := by
  simp [dataStart]

@[simp] theorem dataStart_succ (base : Nat) (entry : CertificateKind × Bytes)
    (entries : List (CertificateKind × Bytes)) (i : Nat) :
    dataStart base (entry :: entries) (i + 1) = dataStart (base + entry.2.length) entries i := by
  simp [dataStart, Nat.add_assoc]

/-- The length of all data together. -/
def dataLength (entries : List (CertificateKind × Bytes)) : Nat :=
  (entries.map fun entry => entry.2.length).sum

@[simp] theorem dataLength_cons (entry : CertificateKind × Bytes)
    (entries : List (CertificateKind × Bytes)) :
    dataLength (entry :: entries) = entry.2.length + dataLength entries := by
  simp [dataLength]

/-- The next data start where these end. -/
theorem dataStart_next (base : Nat) (entries : List (CertificateKind × Bytes)) (i : Nat)
    (hi : i < entries.length) :
    dataStart base entries (i + 1) = dataStart base entries i + entries[i].2.length := by
  rw [dataStart, dataStart, List.take_succ_eq_append_getElem hi, List.map_append, List.sum_append,
    List.map_singleton, List.sum_singleton, Nat.add_assoc]

theorem dataStart_length (base : Nat) (entries : List (CertificateKind × Bytes)) :
    dataStart base entries entries.length = base + dataLength entries := by
  rw [dataStart, List.take_length, dataLength]

/-- The data of each entry end where all data end, or before. -/
theorem dataStart_add_le (base : Nat) (entries : List (CertificateKind × Bytes)) (i : Nat)
    (hi : i < entries.length) :
    dataStart base entries i + entries[i].2.length ≤ base + dataLength entries := by
  induction entries generalizing base i with
  | nil => exact absurd hi (Nat.not_lt_zero i)
  | cons entry entries ih =>
      rw [dataLength_cons]
      cases i with
      | zero =>
          rw [dataStart_zero, List.getElem_cons_zero]
          omega
      | succ i =>
          have hRest := ih (base + entry.2.length) i (Nat.lt_of_succ_lt_succ hi)
          rw [dataStart_succ, List.getElem_cons_succ]
          omega

/-- Every place and every length fits into a word of four bytes. -/
def WordsFit (base : Nat) (entries : List (CertificateKind × Bytes)) : Prop :=
  ∀ i, (hi : i < entries.length) →
    dataStart base entries i < wordLimit ∧ entries[i].2.length < wordLimit

instance (base : Nat) (entries : List (CertificateKind × Bytes)) :
    Decidable (WordsFit base entries) :=
  inferInstanceAs (Decidable (∀ i, (hi : i < entries.length) →
    dataStart base entries i < wordLimit ∧ entries[i].2.length < wordLimit))

theorem wordsFit_cons_iff (base : Nat) (entry : CertificateKind × Bytes)
    (entries : List (CertificateKind × Bytes)) :
    WordsFit base (entry :: entries) ↔
      (base < wordLimit ∧ entry.2.length < wordLimit) ∧
        WordsFit (base + entry.2.length) entries := by
  constructor
  · intro hFit
    have hFirst := hFit 0 (Nat.succ_pos _)
    rw [dataStart_zero] at hFirst
    refine ⟨hFirst, fun i hi => ?_⟩
    have hNext := hFit (i + 1) (Nat.succ_lt_succ hi)
    rw [dataStart_succ] at hNext
    exact hNext
  · rintro ⟨hFirst, hRest⟩ i hi
    cases i with
    | zero =>
        rw [dataStart_zero]
        exact hFirst
    | succ i =>
        rw [dataStart_succ]
        exact hRest i (Nat.lt_of_succ_lt_succ hi)

/-- The record of entry `i`. -/
def recordOf (base : Nat) (entries : List (CertificateKind × Bytes)) (i : Nat)
    (hi : i < entries.length) : CertificateRecord where
  guid := entries[i].1.guid
  offset := UInt32.ofNat (dataStart base entries i)
  length := UInt32.ofNat entries[i].2.length

/-! ## Records -/

theorem recordAt_append_zero (record : CertificateRecord) (rest : Bytes) :
    recordAt (record.toBlock.toList ++ rest) 0 = record := by
  have hGuid : record.toBlock.toList ++ rest = record.guid.toList ++
      ((Block.ofUInt32 record.offset).toList ++
        ((Block.ofUInt32 record.length).toList ++ rest)) := by
    simp [CertificateRecord.toBlock]
  have hOffset : (record.toBlock.toList ++ rest).drop 16 =
      (Block.ofUInt32 record.offset).toList ++
        ((Block.ofUInt32 record.length).toList ++ rest) := by
    rw [hGuid, List.drop_left' record.guid.length_toList]
  have hLength : (record.toBlock.toList ++ rest).drop 20 =
      (Block.ofUInt32 record.length).toList ++ rest := by
    rw [show 20 = 16 + 4 from rfl, ← List.drop_drop, hOffset,
      List.drop_left' (Block.ofUInt32 record.offset).length_toList]
  simp only [recordAt, Nat.mul_zero, Nat.zero_add, List.drop_zero, hOffset, hLength,
    Block.padded_append, Block.toUInt32_ofUInt32]
  rw [hGuid, Block.padded_append]

theorem recordAt_append_succ {front : Bytes} (rest : Bytes) (hFront : front.length = size)
    (i : Nat) : recordAt (front ++ rest) (i + 1) = recordAt rest i := by
  rw [← recordAt_drop, List.drop_left' hFront]

/-- One step of the writer, read backwards. -/
theorem records_cons_eq_ok_iff (base : Nat) (entry : CertificateKind × Bytes)
    (entries : List (CertificateKind × Bytes)) (header : Bytes) :
    records base (entry :: entries) = .ok header ↔
      (base < wordLimit ∧ entry.2.length < wordLimit) ∧
        ∃ rest, records (base + entry.2.length) entries = .ok rest ∧
          header = (CertificateRecord.mk entry.1.guid (UInt32.ofNat base)
            (UInt32.ofNat entry.2.length)).toBlock.toList ++ rest := by
  obtain ⟨kind, data⟩ := entry
  rw [records]
  by_cases hBase : wordLimit ≤ base
  · simp [hBase, Nat.not_lt.mpr hBase]
  by_cases hData : wordLimit ≤ data.length
  · simp [hBase, hData, Nat.not_lt.mpr hData]
  rw [if_neg hBase, if_neg hData]
  cases hRest : records (base + data.length) entries with
  | error cause => simp
  | ok rest => simp [Nat.not_le.mp hBase, Nat.not_le.mp hData, eq_comm]

theorem exists_records_iff (base : Nat) (entries : List (CertificateKind × Bytes)) :
    (∃ header, records base entries = .ok header) ↔ WordsFit base entries := by
  induction entries generalizing base with
  | nil => exact ⟨fun _ i hi => absurd hi (Nat.not_lt_zero i), fun _ => ⟨[], rfl⟩⟩
  | cons entry entries ih =>
      rw [wordsFit_cons_iff, ← ih]
      simp only [records_cons_eq_ok_iff]
      constructor
      · rintro ⟨-, hFirst, rest, hRest, -⟩
        exact ⟨hFirst, rest, hRest⟩
      · rintro ⟨hFirst, rest, hRest⟩
        exact ⟨_, hFirst, rest, hRest, rfl⟩

theorem length_of_records {base : Nat} {entries : List (CertificateKind × Bytes)}
    {header : Bytes} (hRecords : records base entries = .ok header) :
    header.length = size * entries.length := by
  induction entries generalizing base header with
  | nil =>
      obtain rfl : [] = header := Except.ok.inj hRecords
      rfl
  | cons entry entries ih =>
      obtain ⟨-, rest, hRest, rfl⟩ := (records_cons_eq_ok_iff _ _ _ _).mp hRecords
      rw [List.length_append, Block.length_toList, ih hRest, List.length_cons, Nat.mul_succ,
        Nat.add_comm]

/-- The written records are found again at their places, whatever follows them. -/
theorem recordAt_of_records {base : Nat} {entries : List (CertificateKind × Bytes)}
    {header : Bytes} (hRecords : records base entries = .ok header) (tail : Bytes) (i : Nat)
    (hi : i < entries.length) : recordAt (header ++ tail) i = recordOf base entries i hi := by
  induction entries generalizing base header i with
  | nil => exact absurd hi (Nat.not_lt_zero i)
  | cons entry entries ih =>
      obtain ⟨-, rest, hRest, rfl⟩ := (records_cons_eq_ok_iff _ _ _ _).mp hRecords
      -- Behind the first record, the rest is a header of its own with a later start of data.
      rw [List.append_assoc]
      cases i with
      | zero =>
          rw [recordAt_append_zero]
          simp [recordOf]
      | succ i =>
          rw [recordAt_append_succ _ (Block.length_toList _), ih hRest i (by simpa using hi)]
          simp [recordOf]

/-! ## The whole table -/

theorem le_pageCeiling (length : Nat) : length ≤ pageCeiling length := by
  simp only [pageCeiling, pageSize]
  omega

/-- Tables fill their pages as far as they can. -/
theorem isLeast_pageCeiling (length : Nat) :
    IsLeast {total | pageSize ∣ total ∧ length ≤ total} (pageCeiling length) := by
  refine ⟨⟨Nat.dvd_mul_left _ _, le_pageCeiling length⟩, ?_⟩
  rintro total ⟨⟨pages, rfl⟩, hRoom⟩
  simp only [pageCeiling, pageSize] at hRoom ⊢
  omega

/-- Where the data of the first entry start: right behind the zero record. -/
def dataBase (table : CertificateTable) : Nat :=
  size * (table.size + 1)

/-- Writing fails only when a place or a length does not fit into its word. -/
theorem exists_toBytes_iff (table : CertificateTable) :
    (∃ bytes, toBytes table = .ok bytes) ↔ WordsFit (dataBase table) table.entries := by
  rw [← exists_records_iff, toBytes, dataBase]
  cases records (size * (table.size + 1)) table.entries with
  | error cause => simp
  | ok header => simp

theorem exists_toBytes_of_small {table : CertificateTable}
    (hSmall : dataBase table + dataLength table.entries < wordLimit) :
    ∃ bytes, toBytes table = .ok bytes := by
  rw [exists_toBytes_iff]
  intro i hi
  have hEnd := dataStart_add_le (dataBase table) table.entries i hi
  omega

/-- The content of a written table: the records, a record of zeros, and the data.  Padding follows
up to the end of a page. -/
theorem exists_content {table : CertificateTable} {bytes : Bytes}
    (hWritten : toBytes table = .ok bytes) :
    ∃ header content, records (dataBase table) table.entries = .ok header ∧
      content = header ++ List.replicate size 0 ++ table.entries.flatMap (·.2) ∧
      bytes = Bytes.resize (pageCeiling content.length) content := by
  unfold toBytes at hWritten
  cases hRecords : records (size * (table.size + 1)) table.entries with
  | error cause =>
      rw [hRecords] at hWritten
      cases hWritten
  | ok header =>
      simp only [hRecords, Except.ok.injEq] at hWritten
      exact ⟨header, _, hRecords, rfl, hWritten.symm⟩

/-- The parts of a written table: the records, a record of zeros, the data, and padding. -/
theorem exists_layout {table : CertificateTable} {bytes : Bytes}
    (hWritten : toBytes table = .ok bytes) :
    ∃ header padding, records (dataBase table) table.entries = .ok header ∧
      bytes = header ++ (List.replicate size 0 ++
        (table.entries.flatMap (·.2) ++ List.replicate padding 0)) := by
  obtain ⟨header, content, hRecords, hContent, hBytes⟩ := exists_content hWritten
  obtain ⟨padding, hPadded⟩ : ∃ padding, bytes = content ++ List.replicate padding 0 :=
    ⟨_, hBytes.trans (Bytes.resize_eq_append (le_pageCeiling _))⟩
  refine ⟨header, padding, hRecords, ?_⟩
  rw [hPadded, hContent]
  simp only [List.append_assoc]

theorem length_header {table : CertificateTable} {header : Bytes}
    (hRecords : records (dataBase table) table.entries = .ok header) :
    (header ++ List.replicate size 0).length = dataBase table := by
  rw [List.length_append, length_of_records hRecords, List.length_replicate, dataBase,
    OrderedMap.size, Nat.mul_succ]

theorem length_toBytes {table : CertificateTable} {bytes : Bytes}
    (hWritten : toBytes table = .ok bytes) :
    bytes.length = pageCeiling (dataBase table + dataLength table.entries) := by
  obtain ⟨header, content, hRecords, hContent, rfl⟩ := exists_content hWritten
  have hLength : content.length = dataBase table + dataLength table.entries := by
    rw [hContent, List.length_append, length_header hRecords, List.length_flatMap, dataLength]
  rw [Bytes.length_resize, hLength]

/-- The data of each entry stand at their place. -/
theorem exists_data_split (front tail : Bytes) (entries : List (CertificateKind × Bytes))
    (i : Nat) (hi : i < entries.length) :
    ∃ before after, before.length = dataStart front.length entries i ∧
      front ++ (entries.flatMap (·.2) ++ tail) = before ++ (entries[i].2 ++ after) := by
  have hSplit : entries = entries.take i ++ entries[i] :: entries.drop (i + 1) := by
    rw [List.getElem_cons_drop, List.take_append_drop]
  refine ⟨front ++ (entries.take i).flatMap (·.2), (entries.drop (i + 1)).flatMap (·.2) ++ tail,
    ?_, ?_⟩
  · rw [List.length_append, List.length_flatMap, dataStart]
  · conv_lhs => rw [hSplit]
    simp only [List.flatMap_append, List.flatMap_cons, List.append_assoc]

section Written

variable {table : CertificateTable} {bytes : Bytes}

theorem recordAt_written (hWritten : toBytes table = .ok bytes) (i : Nat)
    (hi : i < table.entries.length) :
    recordAt bytes i = recordOf (dataBase table) table.entries i hi := by
  obtain ⟨header, padding, hRecords, rfl⟩ := exists_layout hWritten
  exact recordAt_of_records hRecords _ i hi

/-- There is room for the ending record. -/
theorem dataBase_le_length (hWritten : toBytes table = .ok bytes) :
    dataBase table ≤ bytes.length := by
  obtain ⟨header, padding, hRecords, rfl⟩ := exists_layout hWritten
  rw [← length_header hRecords]
  simp only [List.length_append]
  omega

theorem recordAt_written_end (hWritten : toBytes table = .ok bytes) :
    (recordAt bytes table.size).guid = Guid.nil := by
  obtain ⟨header, padding, hRecords, rfl⟩ := exists_layout hWritten
  -- Of the 24 zeros behind the records, the first 16 are the nil GUID.
  have hZeros : List.replicate size (0 : UInt8) = Guid.nil.toList ++ List.replicate 8 0 := rfl
  have hPlace : header.length = size * table.size := length_of_records hRecords
  rw [recordAt, List.drop_left' hPlace, hZeros, List.append_assoc, Block.padded_append]

/-- The words of a written record are the numbers that they stand for. -/
theorem toNat_recordOf (hFit : WordsFit (dataBase table) table.entries) (i : Nat)
    (hi : i < table.entries.length) :
    (recordOf (dataBase table) table.entries i hi).offset.toNat =
        dataStart (dataBase table) table.entries i ∧
      (recordOf (dataBase table) table.entries i hi).length.toNat =
        (table.entries[i]).2.length :=
  ⟨UInt32.toNat_ofNat_of_lt' (hFit i hi).1, UInt32.toNat_ofNat_of_lt' (hFit i hi).2⟩

/-- The range of record `i` lies inside the bytes and holds the data of entry `i`. -/
theorem range_written (hWritten : toBytes table = .ok bytes) (i : Nat)
    (hi : i < table.entries.length) :
    (recordAt bytes i).Inside bytes ∧ (recordAt bytes i).range bytes = (table.entries[i]).2 := by
  have hFit := (exists_toBytes_iff table).mp ⟨bytes, hWritten⟩
  obtain ⟨hOffset, hLength⟩ := toNat_recordOf hFit i hi
  rw [recordAt_written hWritten i hi, CertificateRecord.Inside, CertificateRecord.range, hOffset,
    hLength]
  -- The data start where the front, header and zero record together, ends.
  obtain ⟨header, padding, hRecords, rfl⟩ := exists_layout hWritten
  obtain ⟨before, after, hBefore, hSplit⟩ :=
    exists_data_split (header ++ List.replicate size 0) (List.replicate padding 0) table.entries i hi
  rw [length_header hRecords] at hBefore
  rw [← List.append_assoc, hSplit, ← hBefore]
  constructor
  · simp only [List.length_append]
    omega
  · rw [List.drop_left, List.take_left]

end Written

end CertificateTable

end SnpGuest
