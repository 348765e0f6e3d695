import SnpGuest.Proofs.Report.Verdict

namespace SnpGuest

/-!
# Reserved areas

Seven fields of a report are reserved, and so are the bits of the key word from the fifth on.
Validation looks at three of the fields.  The other four and the upper bits of the key word can hold
anything: whatever is written there, the verdict stays.  So a report that validates has clear
reserved areas exactly if it happens to have these clear, and there are reports that validate and
have none of them clear.
-/

namespace Report

namespace Field

/-- Whether a field has no use.  The key word has one, although callers cannot assign it. -/
def IsReserved (field : Field) : Prop :=
  field.isPublic = false ∧ field ≠ .keyInfo

instance (field : Field) : Decidable field.IsReserved :=
  inferInstanceAs (Decidable (_ ∧ _))

/-- The fields that validation looks at. -/
def lookedAt : List Field :=
  [.version, .policyFlags, .policyReserved, .signatureAlgo, .keyInfo, .reservedKey,
    .signatureReserved]

/-- The reserved fields that validation passes over, and their places. -/
example :
    (all.filter fun field => field.IsReserved ∧ field ∉ lookedAt) =
      [.reservedCpuid, .reservedCurrent, .reservedCommitted, .reservedTail] ∧
    [reservedCpuid, reservedCurrent, reservedCommitted, reservedTail].map offset =
      [0x18B, 0x1EB, 0x1EF, 0x208] := by
  decide

end Field

/-- What it means that nothing stands in the reserved areas of a report. -/
structure ReservedClear (bytes : Block size) : Prop where
  fields : ∀ field : Field, field.IsReserved → field.read bytes = .zero field.width
  /-- Bits 2 to 4 of the key word name the key, and the two below them are settings. -/
  keyBits : (Field.keyInfo.read bytes).toNat < 2 ^ 5

/-! ## What validation passes over -/

theorem ofBlock_overwrite (bytes : Block size) (field : Field) (value : Block field.width) :
    ofBlock (bytes.overwrite field.offset value field.offset_add_width_le) =
      (ofBlock bytes).set field value := by
  have hBytes := (ofBlock bytes).toBlock_set field value
  rw [toBlock_ofBlock] at hBytes
  rw [← hBytes, ofBlock_toBlock]

theorem validate_set (report : Report) {field : Field} (hPassed : field ∉ Field.lookedAt)
    (value : Block field.width) : (report.set field value).validate = report.validate := by
  cases field <;> first | rfl | exact absurd (by decide) hPassed

/-- Of the key word only the bits up to the fourth have a say. -/
theorem validate_set_keyInfo (report : Report) (value : Block 4)
    (hLow : value.toNat % 2 ^ 5 = (report.get .keyInfo).toNat % 2 ^ 5) :
    (report.set .keyInfo value).validate = report.validate := by
  have hValue : value.toUInt32.toNat = value.toNat := by
    rw [← Block.toNat_ofUInt32, Block.ofUInt32_toUInt32]
  have hOld : (report.get .keyInfo).toNat = report.body.keyInfo.toNat := Block.toNat_ofUInt32 _
  have hKey : (report.set .keyInfo value).signingKey? = report.signingKey? := by
    apply congrArg SigningKey.ofCode?
    rw [← UInt32.toNat_inj, toNat_keyBits, toNat_keyBits]
    show value.toUInt32.toNat / 4 % 8 = _
    omega
  have hBody : (report.set .keyInfo value).validateBody = report.validateBody := by
    rw [validateBody, validateBody, hKey]
    rfl
  rw [validate, validate, hBody]
  rfl

/-! ## What validation promises -/

theorem read_of_validate {bytes : Block size} (hValid : (ofBlock bytes).validate = .ok ())
    {field : Field} (hReserved : field.IsReserved) (hLooked : field ∈ Field.lookedAt) :
    field.read bytes = .zero field.width := by
  have hNone := (validate_eq_ok_iff bytes).mp hValid
  cases field with
  | policyReserved => exact not_not.mp (hNone .reservedPolicy)
  | reservedKey => exact not_not.mp (hNone .reservedKey)
  | signatureReserved => exact not_not.mp (hNone .reservedSignature)
  | version | policyFlags | signatureAlgo | keyInfo => exact absurd hReserved (by decide)
  | _ => exact absurd hLooked (by decide)

/-- Of a report that validates, the reserved fields that validation looks at are zero.  All
reserved areas are clear exactly if the other reserved fields and the upper bits of the key word
are, and validation has no part in that: the report still validates with anything in a field that
is passed over, and with any upper bits in the key word. -/
theorem reservedClear_iff_of_validate {bytes : Block size}
    (hValid : (ofBlock bytes).validate = .ok ()) :
    (∀ field : Field, field.IsReserved → field ∈ Field.lookedAt →
      field.read bytes = .zero field.width) ∧
    (ReservedClear bytes ↔
      (∀ field : Field, field.IsReserved → field ∉ Field.lookedAt →
        field.read bytes = .zero field.width) ∧
      (Field.keyInfo.read bytes).toNat < 2 ^ 5) ∧
    (∀ field : Field, field ∉ Field.lookedAt → ∀ value : Block field.width,
      (ofBlock (bytes.overwrite field.offset value field.offset_add_width_le)).validate =
        .ok ()) ∧
    ∀ value : Block Field.keyInfo.width,
      value.toNat % 2 ^ 5 = (Field.keyInfo.read bytes).toNat % 2 ^ 5 →
      (ofBlock (bytes.overwrite Field.keyInfo.offset value
        Field.keyInfo.offset_add_width_le)).validate = .ok () := by
  have hLooked : ∀ field : Field, field.IsReserved → field ∈ Field.lookedAt →
      field.read bytes = .zero field.width := fun field => read_of_validate hValid
  refine ⟨hLooked, ⟨fun hClear => ⟨fun field hReserved _ => hClear.fields field hReserved,
    hClear.keyBits⟩, fun ⟨hPassed, hBits⟩ => ⟨fun field hReserved => ?_, hBits⟩⟩, ?_, ?_⟩
  · by_cases hHere : field ∈ Field.lookedAt
    · exact hLooked field hReserved hHere
    · exact hPassed field hReserved hHere
  · intro field hPassed value
    rw [ofBlock_overwrite, validate_set _ hPassed, hValid]
  · intro value hLow
    rw [← get_ofBlock] at hLow
    rw [ofBlock_overwrite, validate_set_keyInfo _ _ hLow, hValid]

/-- A current report over zero data validates with anything in its longest reserved field. -/
theorem reservedClear_iff_of_validate_of_current :
    let bytes := (PreparedResponse.currentReport (.zero 64)).toBlock
    (ofBlock bytes).validate = .ok () ∧ Field.reservedKey.read bytes = .zero 4 ∧
      ∀ value : Block 152,
        (ofBlock (bytes.overwrite 0x208 value (by decide))).validate = .ok () := by
  intro bytes
  have hValid : (ofBlock bytes).validate = .ok () := by
    rw [ofBlock_toBlock]
    exact validate_currentReport _
  obtain ⟨hLooked, -, hPassed, -⟩ := reservedClear_iff_of_validate hValid
  exact ⟨hValid, hLooked .reservedKey (by decide) (by decide),
    hPassed .reservedTail (by decide)⟩

/-- A report that validates although none of the areas that validation passes over is clear. -/
theorem exists_reserved_behind_ok :
    let report : Report :=
      { zero with
        body := {
          zero.body with
          keyInfo := 0x20
          reservedCpuid := .padded 21 [1]
          reservedCurrent := 1
          reservedCommitted := 1
          reservedTail := .padded 152 [1] } }
    report.validate = .ok () ∧
      (∀ field : Field, field.IsReserved → field ∉ Field.lookedAt →
        field.read report.toBlock ≠ .zero field.width) ∧
      ¬ (Field.keyInfo.read report.toBlock).toNat < 2 ^ 5 ∧
      ¬ ReservedClear report.toBlock := by
  intro report
  have hFields : ∀ field : Field, field.IsReserved → field ∉ Field.lookedAt →
      field.read report.toBlock ≠ .zero field.width := by
    intro field hReserved hPassed
    rw [read_toBlock]
    cases field with
    | reservedCpuid | reservedCurrent | reservedCommitted | reservedTail => decide
    | _ => first | exact absurd hReserved (by decide) | exact absurd (by decide) hPassed
  have hBody : report.validateBody = .ok () := by decide
  have hSignature : report.signature.validate = .ok () := if_pos (Block.isZero_zero 368)
  refine ⟨by rw [validate, hBody, hSignature], hFields, ?_, fun hClear => ?_⟩
  · rw [read_toBlock]
    decide
  · exact hFields .reservedCpuid (by decide) (by decide) (hClear.fields _ (by decide))

end Report

end SnpGuest
