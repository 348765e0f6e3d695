import SnpGuest.Proofs.Certificate.Reading

namespace SnpGuest

/-!
# Reading a certificate table from more or fewer bytes

Bytes behind a record or a range do not change it.  So what the reader has decided on whole records
stays decided when more bytes follow: a table, and equally a kind that comes twice
(`parse_append_of_ok`, `parse_append_of_duplicate`).  Only the complaints about missing bytes, a
range that leaves them or an end that does not come, can be healed by more of them.  Hence a table
survives any bytes behind it, and cutting it off gives the same table or one of the two complaints.
-/

namespace CertificateRecord

variable {whole : Bytes} {record : CertificateRecord}

theorem Inside.append (hInside : record.Inside whole) (rest : Bytes) :
    record.Inside (whole ++ rest) := by
  unfold Inside at hInside ⊢
  rw [List.length_append]
  omega

theorem range_append (hInside : record.Inside whole) (rest : Bytes) :
    record.range (whole ++ rest) = record.range whole :=
  Bytes.take_drop_append hInside rest

end CertificateRecord

namespace CertificateTable

open CertificateRecord (size)

variable {bytes : Bytes} {table : CertificateTable}

/-! ## More bytes -/

theorem recordAt_append {i : Nat} (hWhole : size * (i + 1) ≤ bytes.length) (rest : Bytes) :
    recordAt (bytes ++ rest) i = recordAt bytes i := by
  -- Each part of the record is read from where it starts, and ends inside the bytes.
  have hPart : ∀ width place : Nat, place + width ≤ size →
      Block.padded width ((bytes ++ rest).drop (size * i + place)) =
        Block.padded width (bytes.drop (size * i + place)) := by
    intro width place hPlace
    rw [Nat.mul_succ] at hWhole
    rw [List.drop_append_of_le_length (by omega)]
    apply Block.padded_append_of_le
    rw [List.length_drop]
    omega
  have hGuid := hPart 16 0 (by decide)
  rw [Nat.add_zero] at hGuid
  rw [recordAt, hGuid, hPart 4 16 (by decide), hPart 4 20 (by decide)]
  rfl

theorem TakenUp.append {i : Nat} (hTaken : TakenUp bytes i)
    (hWhole : size * (i + 1) ≤ bytes.length) (rest : Bytes) : TakenUp (bytes ++ rest) i := by
  have hRecord := recordAt_append hWhole rest
  refine ⟨?_, ?_, fun j hj => ?_⟩
  · rw [hRecord]
    exact hTaken.guid_ne_nil
  · rw [hRecord]
    exact hTaken.inside.append rest
  · have hBefore : size * (j + 1) ≤ bytes.length :=
      le_trans (Nat.mul_le_mul_left size (by omega)) hWhole
    rw [hRecord, recordAt_append hBefore rest]
    exact hTaken.fresh j hj

theorem Reaches.whole_record {k i : Nat} (hReach : Reaches bytes k) (hi : i < k) :
    size * (i + 1) ≤ bytes.length :=
  le_trans (Nat.mul_le_mul_left size hi) hReach.whole

theorem Reaches.append {k : Nat} (hReach : Reaches bytes k) (rest : Bytes) :
    Reaches (bytes ++ rest) k where
  whole := le_trans hReach.whole (List.prefix_append bytes rest).length_le
  takenUp i hi := (hReach.takenUp i hi).append (hReach.whole_record hi) rest

/-- The entries of the records that were taken up stay as they were. -/
theorem Holds.append {k : Nat} (hHolds : Holds bytes k table) (hReach : Reaches bytes k)
    (rest : Bytes) : Holds (bytes ++ rest) k table := by
  rw [Holds, hHolds]
  apply List.map_congr_left
  intro i hi
  have hBefore : i < k := List.mem_range.mp hi
  rw [entryAt, entryAt, recordAt_append (hReach.whole_record hBefore),
    CertificateRecord.range_append (hReach.takenUp i hBefore).inside]

theorem parse_append_of_ok (hParse : parse bytes = .ok table) (rest : Bytes) :
    parse (bytes ++ rest) = .ok table := by
  obtain ⟨k, hWhole, hTaken, hEnd, hHolds⟩ := (parse_eq_ok_iff bytes table).mp hParse
  have hReach : Reaches bytes k := .of_takenUp hWhole hTaken
  -- The record that ends the table is whole, so the reader stops at it before it sees the rest.
  rw [parse_eq_ok_iff]
  refine ⟨k, le_trans hWhole (List.prefix_append bytes rest).length_le,
    (hReach.append rest).takenUp, ?_, hHolds.append hReach rest⟩
  rw [recordAt_append hWhole]
  exact hEnd

theorem parse_append_of_duplicate (hParse : parse bytes = .error .duplicateKind) (rest : Bytes) :
    parse (bytes ++ rest) = .error .duplicateKind := by
  rcases (parse_eq_error_iff bytes _).mp hParse with ⟨hCause, -⟩ |
    ⟨-, k, hWhole, hTaken, hGuid, hInside, j, hj, hSame⟩ | ⟨hCause, -⟩
  · cases hCause
  · have hReach : Reaches bytes k := .of_takenUp hWhole hTaken
    have hRecord := recordAt_append hWhole rest
    refine parse_of_duplicate (hReach.append rest)
      (le_trans hWhole (List.prefix_append bytes rest).length_le) ?_ ?_ ⟨j, hj, ?_⟩
    · rw [hRecord]
      exact hGuid
    · rw [hRecord]
      exact hInside.append rest
    · rw [hRecord, recordAt_append (hReach.whole_record hj)]
      exact hSame
  · cases hCause

/-! ## Fewer bytes -/

/-- The front of a readable table is read as the same table, or bytes are missing. -/
theorem parse_front {front rest : Bytes} (hParse : parse (front ++ rest) = .ok table) :
    parse front = .ok table ∨ parse front = .error .outsideTable ∨
      parse front = .error .missingTerminator := by
  cases hFront : parse front with
  | ok other =>
      -- The front is followed by the rest, which cannot change its table.
      have hSame := parse_append_of_ok hFront rest
      rw [hParse] at hSame
      exact .inl hSame.symm
  | error cause =>
      rcases (parse_eq_error_iff front cause).mp hFront with ⟨rfl, -⟩ | ⟨rfl, -⟩ | ⟨rfl, -⟩
      · exact .inr (.inl rfl)
      · have hSame := parse_append_of_duplicate hFront rest
        rw [hParse] at hSame
        cases hSame
      · exact .inr (.inr rfl)

/-- A table that can be read is read with any bytes behind it, also with the old contents of a
buffer that it was written into.  Cut off anywhere, it gives the same table, or the message that a
range or the ending record is missing. -/
theorem parse_extended_or_cut (hParse : parse bytes = .ok table) :
    (∀ rest, parse (bytes ++ rest) = .ok table) ∧
    (∀ buffer : Bytes, parse (buffer.overwrite 0 bytes) = .ok table) ∧
    ∀ front, front <+: bytes →
      parse front = .ok table ∨
      ∃ cause, parse front = .error cause ∧
        (cause.message = "entry points outside the table" ∨
          cause.message = "missing terminating entry") := by
  refine ⟨parse_append_of_ok hParse, fun buffer => ?_, ?_⟩
  · rw [Bytes.overwrite, List.take_zero, List.nil_append]
    exact parse_append_of_ok hParse _
  · rintro front ⟨rest, rfl⟩
    rcases parse_front hParse with hSame | hCut | hCut
    · exact .inl hSame
    · exact .inr ⟨_, hCut, .inl rfl⟩
    · exact .inr ⟨_, hCut, .inr rfl⟩

/-- A table whose one certificate is the whole byte string, records included, and an ending record
with bytes behind its GUID. -/
theorem parse_extended_or_cut_of_self_reference :
    let guid : Guid := ⟨List.replicate 16 5, rfl⟩
    let blob : Bytes := List.replicate 16 5 ++ [0, 0, 0, 0] ++ [48, 0, 0, 0] ++
      List.replicate 16 0 ++ List.replicate 8 9
    let table : CertificateTable := .ofList [(.other guid, blob)]
    parse blob = .ok table ∧ parse (blob ++ [1, 2, 3]) = .ok table ∧
      (parse (blob.take 47) = .ok table ∨
        ∃ cause, parse (blob.take 47) = .error cause ∧
          (cause.message = "entry points outside the table" ∨
            cause.message = "missing terminating entry")) := by
  intro guid blob table
  have hParse : parse blob = .ok table := by decide
  obtain ⟨hLonger, -, hShorter⟩ := parse_extended_or_cut hParse
  exact ⟨hParse, hLonger [1, 2, 3], hShorter _ (List.take_prefix 47 blob)⟩

end CertificateTable

end SnpGuest
