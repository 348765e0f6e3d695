import SnpGuest.Proofs.Certificate.Writing

namespace SnpGuest

/-!
# The layout of a written certificate table

`LaidOut` says what every byte of a written table is for: the records in front, a record of zeros,
the data one behind the other, and zeros up to the end of a page.  It names the places by a function
`start` that it determines, so it does not speak of how the writer counts them.  Main statement: if
all places and lengths fit into their words, writing gives a byte string with this layout, and there
is no other.
-/

namespace CertificateTable

open CertificateRecord (size)

/-- What the bytes of a written table are, when the data of entry `i` start at `start i`. -/
structure LaidOut (table : CertificateTable) (start : Nat → Nat) (bytes : Bytes) : Prop where
  /-- The first data start behind the records and the record of zeros. -/
  first : start 0 = 24 * (table.entries.length + 1)
  /-- The next data start where those before them end. -/
  next : ∀ i, (hi : i < table.entries.length) →
    start (i + 1) = start i + (table.entries[i]).2.length
  /-- A record is the GUID, then place and length of the data with the low byte first. -/
  record : ∀ i, (hi : i < table.entries.length) →
    (bytes.drop (24 * i)).take 24 = (table.entries[i]).1.guid.toList ++
      LittleEndian.encode 4 (start i) ++ LittleEndian.encode 4 (table.entries[i]).2.length
  ending : (bytes.drop (24 * table.entries.length)).take 24 = List.replicate 24 0
  data : ∀ i, (hi : i < table.entries.length) →
    start i + (table.entries[i]).2.length ≤ bytes.length ∧
      (bytes.drop (start i)).take (table.entries[i]).2.length = (table.entries[i]).2
  /-- Behind the last data there are only zeros. -/
  padding : ∀ byte ∈ bytes.drop (start table.entries.length), byte = 0
  /-- The length is the least number of whole pages with room for the records and all data. -/
  pages : IsLeast {total | 4096 ∣ total ∧
    24 * (table.entries.length + 1) + dataLength table.entries ≤ total} bytes.length

namespace LaidOut

variable {table : CertificateTable} {start other : Nat → Nat} {bytes left right : Bytes}

/-! ## Places -/

theorem start_eq (hLaid : LaidOut table start bytes) {i : Nat} (hi : i ≤ table.entries.length) :
    start i = dataStart (dataBase table) table.entries i := by
  induction i with
  | zero =>
      rw [hLaid.first, dataStart_zero]
      rfl
  | succ i ih => rw [hLaid.next i hi, dataStart_next _ _ _ hi, ih (Nat.le_of_lt hi)]

theorem start_length (hLaid : LaidOut table start bytes) :
    start table.entries.length =
      24 * (table.entries.length + 1) + dataLength table.entries := by
  rw [hLaid.start_eq (Nat.le_refl _), dataStart_length]
  rfl

theorem start_le_start (hLaid : LaidOut table start bytes) {i j : Nat} (hLe : i ≤ j)
    (hj : j ≤ table.entries.length) : start i ≤ start j := by
  induction j, hLe using Nat.le_induction with
  | base => exact Nat.le_refl _
  | succ j hLe ih =>
      rw [hLaid.next j hj]
      exact Nat.le_add_right_of_le (ih (Nat.le_of_lt hj))

/-- No data lie over the records. -/
theorem records_le_start (hLaid : LaidOut table start bytes) {i : Nat}
    (hi : i < table.entries.length) : 24 * (table.entries.length + 1) ≤ start i := by
  rw [← hLaid.first]
  exact hLaid.start_le_start (Nat.zero_le i) (Nat.le_of_lt hi)

/-- No data lie over those of a later entry. -/
theorem end_le_start (hLaid : LaidOut table start bytes) {i j : Nat} (hij : i < j)
    (hj : j < table.entries.length) :
    start i + (table.entries[i]).2.length ≤ start j := by
  rw [← hLaid.next i (by omega)]
  exact hLaid.start_le_start hij (Nat.le_of_lt hj)

/-! ## Uniqueness -/

/-- Byte strings with the layout of the same table have the same records. -/
theorem take_records (hLeft : LaidOut table start left) (hRight : LaidOut table other right)
    {i : Nat} (hi : i ≤ table.entries.length) : left.take (24 * i) = right.take (24 * i) := by
  induction i with
  | zero => rfl
  | succ i ih =>
      have hStart : start i = other i :=
        (hLeft.start_eq (Nat.le_of_lt hi)).trans (hRight.start_eq (Nat.le_of_lt hi)).symm
      apply Bytes.take_add_congr (ih (Nat.le_of_lt hi))
      rw [hLeft.record i hi, hRight.record i hi, hStart]

theorem take_data (hLeft : LaidOut table start left) (hRight : LaidOut table other right)
    {i : Nat} (hi : i ≤ table.entries.length) :
    left.take (start i) = right.take (start i) := by
  induction i with
  | zero =>
      rw [hLeft.first]
      apply Bytes.take_add_congr (hLeft.take_records hRight (Nat.le_refl _))
      rw [hLeft.ending, hRight.ending]
  | succ i ih =>
      have hStart : start i = other i :=
        (hLeft.start_eq (Nat.le_of_lt hi)).trans (hRight.start_eq (Nat.le_of_lt hi)).symm
      rw [hLeft.next i hi]
      apply Bytes.take_add_congr (ih (Nat.le_of_lt hi))
      rw [(hLeft.data i hi).2, hStart, (hRight.data i hi).2]

theorem drop_data (hLaid : LaidOut table start bytes) :
    bytes.drop (start table.entries.length) =
      List.replicate (bytes.length - start table.entries.length) 0 := by
  rw [← List.length_drop]
  exact List.eq_replicate_length.mpr hLaid.padding

/-- The layout leaves no byte open. -/
theorem unique (hLeft : LaidOut table start left) (hRight : LaidOut table other right) :
    left = right := by
  have hEnd : start table.entries.length = other table.entries.length :=
    hLeft.start_length.trans hRight.start_length.symm
  have hLength : left.length = right.length := hLeft.pages.unique hRight.pages
  -- Up to the end of the data the bytes agree place by place, and behind it both are zeros.
  calc left
      = left.take (start table.entries.length) ++ left.drop (start table.entries.length) :=
        (List.take_append_drop _ _).symm
    _ = right.take (other table.entries.length) ++ right.drop (other table.entries.length) := by
        rw [hLeft.take_data hRight (Nat.le_refl _), hLeft.drop_data, hRight.drop_data, hEnd,
          hLength]
    _ = right := List.take_append_drop _ _

end LaidOut

/-! ## Written tables -/

section Written

variable {table : CertificateTable} {bytes : Bytes}

theorem record_written (hWritten : toBytes table = .ok bytes) (i : Nat)
    (hi : i < table.entries.length) :
    (bytes.drop (size * i)).take size = (table.entries[i]).1.guid.toList ++
      LittleEndian.encode 4 (dataStart (dataBase table) table.entries i) ++
        LittleEndian.encode 4 (table.entries[i]).2.length := by
  have hWhole : size * (i + 1) ≤ bytes.length :=
    le_trans (Nat.mul_le_mul_left size (Nat.le_succ_of_le hi)) (dataBase_le_length hWritten)
  obtain ⟨hOffset, hLength⟩ :=
    toNat_recordOf ((exists_toBytes_iff table).mp ⟨bytes, hWritten⟩) i hi
  rw [← toList_recordAt hWhole, recordAt_written hWritten i hi, ← hOffset, ← hLength]
  rfl

theorem ending_written (hWritten : toBytes table = .ok bytes) :
    (bytes.drop (size * table.entries.length)).take size = List.replicate size 0 := by
  -- `recordAt_written_end` only speaks of the GUID, so this goes back to the pieces.
  obtain ⟨header, padding, hRecords, rfl⟩ := exists_layout hWritten
  rw [List.drop_left' (length_of_records hRecords), List.take_left' List.length_replicate]

/-- Each data stand where their record says. -/
theorem data_written (hWritten : toBytes table = .ok bytes) (i : Nat)
    (hi : i < table.entries.length) :
    dataStart (dataBase table) table.entries i + (table.entries[i]).2.length ≤ bytes.length ∧
      (bytes.drop (dataStart (dataBase table) table.entries i)).take
        (table.entries[i]).2.length = (table.entries[i]).2 := by
  obtain ⟨hOffset, hLength⟩ :=
    toNat_recordOf ((exists_toBytes_iff table).mp ⟨bytes, hWritten⟩) i hi
  have hRange := range_written hWritten i hi
  rw [recordAt_written hWritten i hi, CertificateRecord.Inside, CertificateRecord.range, hOffset,
    hLength] at hRange
  exact hRange

theorem padding_written (hWritten : toBytes table = .ok bytes) :
    ∀ byte ∈ bytes.drop (dataBase table + dataLength table.entries), byte = 0 := by
  obtain ⟨header, padding, hRecords, rfl⟩ := exists_layout hWritten
  have hFront : (header ++ List.replicate size (0 : UInt8) ++ table.entries.flatMap (·.2)).length =
      dataBase table + dataLength table.entries := by
    rw [List.length_append, length_header hRecords, List.length_flatMap, dataLength]
  rw [← List.append_assoc, ← List.append_assoc, List.drop_left' hFront]
  exact fun byte hByte => List.eq_of_mem_replicate hByte

theorem laidOut_written (hWritten : toBytes table = .ok bytes) :
    LaidOut table (dataStart (dataBase table) table.entries) bytes where
  first := dataStart_zero _ _
  next := dataStart_next _ _
  record := record_written hWritten
  ending := ending_written hWritten
  data := data_written hWritten
  padding := by
    rw [dataStart_length]
    exact padding_written hWritten
  pages := by
    rw [length_toBytes hWritten]
    exact isLeast_pageCeiling _

end Written

/-- If all places and lengths fit into their words, a table can be written.  Its bytes are laid out
as `LaidOut` says, where no data lie over the records or over one another, and no other byte string
is laid out so. -/
theorem toBytes_laidOut (table : CertificateTable)
    (hFit : WordsFit (dataBase table) table.entries) :
    ∃ bytes start, toBytes table = .ok bytes ∧ LaidOut table start bytes ∧
      (∀ i < table.entries.length, 24 * (table.entries.length + 1) ≤ start i) ∧
      (∀ i j, (hij : i < j) → (hj : j < table.entries.length) →
        start i + (table.entries[i]).2.length ≤ start j) ∧
      ∀ place other, LaidOut table place other → other = bytes := by
  obtain ⟨bytes, hWritten⟩ := (exists_toBytes_iff table).mpr hFit
  have hLaid := laidOut_written hWritten
  exact ⟨bytes, _, hWritten, hLaid, fun _ => hLaid.records_le_start,
    fun _ _ => hLaid.end_le_start, fun _ _ hOther => hOther.unique hLaid⟩

/-- Three entries, two of them empty, that fill a page to the last byte: there is no padding. -/
theorem toBytes_laidOut_of_full_page :
    let full : CertificateTable :=
      .ofList [(.ark, List.replicate 4000 7), (.other (.zero 16), []), (.crl, [])]
    WordsFit (dataBase full) full.entries ∧
      ∃ bytes start, toBytes full = .ok bytes ∧ LaidOut full start bytes ∧
        bytes.length = 4096 ∧ start 1 = 4096 := by
  intro full
  have hEntries : full.entries =
      [(.ark, List.replicate 4000 7), (.other (.zero 16), []), (.crl, [])] := rfl
  have hData : dataLength full.entries = 4000 := by
    simp only [hEntries, dataLength, List.map_cons, List.map_nil, List.length_replicate,
      List.length_nil, List.sum_cons, List.sum_nil]
    rfl
  have hBase : dataBase full = 96 := rfl
  have hFit : WordsFit (dataBase full) full.entries := by
    rw [← exists_toBytes_iff]
    apply exists_toBytes_of_small
    rw [hBase, hData]
    decide
  obtain ⟨bytes, start, hWritten, hLaid, -⟩ := toBytes_laidOut full hFit
  refine ⟨hFit, bytes, start, hWritten, hLaid, ?_, ?_⟩
  · have hPage := isLeast_pageCeiling (dataBase full + dataLength full.entries)
    rw [hLaid.pages.unique hPage, hBase, hData]
    rfl
  · rw [hLaid.start_eq (by decide), dataStart_next _ _ _ (by decide), dataStart_zero, hBase]
    simp only [hEntries, List.getElem_cons_zero, List.length_replicate]

end CertificateTable

end SnpGuest
