import Mathlib.Data.List.Basic
import Mathlib.Data.List.Pairwise
import SnpGuest.Report.Layout

namespace SnpGuest

/-!
# Fields of a report and their places

A report has the same content three times over: as a record, as the bytes of its fields, and as
1184 bytes.  The record and the bytes of its fields determine one another (`ext_get`,
`get_set_self`, `get_set_of_ne`).  The fields tile the 1184 bytes in declaration order
(`Field.pairwise_all`, `Field.exists_covers`), so reading at the place of a field finds what was
written there, and assigning a field writes to its place and nowhere else (`toBlock_set`).
-/

attribute [ext] GuestPolicy SignatureArea ReportBody Report

namespace Block

/-! A word is the number of its bytes, the low one first. -/

theorem toNat_ofUInt8 (value : UInt8) : (ofUInt8 value).toNat = value.toNat := by
  simp [ofUInt8, toNat, LittleEndian.decode]

theorem toNat_ofUInt16 (value : UInt16) : (ofUInt16 value).toNat = value.toNat := by
  rw [ofUInt16, toNat_ofNat]
  exact Nat.mod_eq_of_lt value.toNat_lt

theorem toNat_ofUInt32 (value : UInt32) : (ofUInt32 value).toNat = value.toNat := by
  rw [ofUInt32, toNat_ofNat]
  exact Nat.mod_eq_of_lt value.toNat_lt

theorem toNat_ofUInt64 (value : UInt64) : (ofUInt64 value).toNat = value.toNat := by
  rw [ofUInt64, toNat_ofNat]
  exact Nat.mod_eq_of_lt value.toNat_lt

end Block

namespace Report

namespace Field

/-! ## Places -/

theorem totalWidth_append (front back : List Field) :
    totalWidth (front ++ back) = totalWidth front + totalWidth back := by
  induction front with
  | nil => simp [totalWidth]
  | cons field front ih => rw [List.cons_append, totalWidth, totalWidth, ih, Nat.add_assoc]

theorem not_mem_of_split {front back : List Field} {field : Field}
    (hAll : all = front ++ field :: back) : field ∉ front ∧ field ∉ back := by
  have hNodup := nodup_all
  rw [hAll, List.nodup_append, List.nodup_cons] at hNodup
  obtain ⟨-, ⟨hBack, -⟩, hApart⟩ := hNodup
  exact ⟨fun hFront => hApart field hFront field List.mem_cons_self rfl, hBack⟩

/-- A field stands right behind the fields in front of it. -/
theorem offset_of_split {front back : List Field} {field : Field}
    (hAll : all = front ++ field :: back) : field.offset = totalWidth front := by
  have hOther : ∀ other ∈ front, decide (other ≠ field) = true := by
    intro other hOther
    exact decide_eq_true fun hSame => (not_mem_of_split hAll).1 (hSame ▸ hOther)
  rw [offset, hAll, List.takeWhile_append_of_pos hOther]
  simp

/-- Of two fields, the one declared first ends before the other begins. -/
theorem pairwise_all :
    all.Pairwise fun earlier later => earlier.offset + earlier.width ≤ later.offset := by
  have hSuffix : ∀ fields front : List Field, all = front ++ fields →
      fields.Pairwise fun earlier later => earlier.offset + earlier.width ≤ later.offset := by
    intro fields
    induction fields with
    | nil => exact fun _ _ => List.Pairwise.nil
    | cons field rest ih =>
        intro front hAll
        refine List.Pairwise.cons (fun later hLater => ?_) (ih (front ++ [field]) (by simp [hAll]))
        obtain ⟨middle, back, rfl⟩ := List.append_of_mem hLater
        have hPlace : all = (front ++ field :: middle) ++ later :: back := by simp [hAll]
        rw [offset_of_split hAll, offset_of_split hPlace, totalWidth_append, totalWidth]
        omega
  exact hSuffix all [] rfl

/-- Whether a position lies in the place of a field. -/
def Covers (field : Field) (position : Nat) : Prop :=
  field.offset ≤ position ∧ position < field.offset + field.width

theorem exists_covers {position : Nat} (hInside : position < size) :
    ∃ field : Field, field.Covers position := by
  -- The first fields leave the position to the right as long as it is not in one of them.
  have hSuffix : ∀ fields front : List Field, all = front ++ fields →
      totalWidth front ≤ position → position < totalWidth front + totalWidth fields →
      ∃ field : Field, field.Covers position := by
    intro fields
    induction fields with
    | nil =>
        intro front _ hLow hHigh
        rw [totalWidth] at hHigh
        omega
    | cons field rest ih =>
        intro front hAll hLow hHigh
        have hOffset := offset_of_split hAll
        by_cases hHere : position < totalWidth front + field.width
        · exact ⟨field, by rw [hOffset]; exact hLow, by rw [hOffset]; exact hHere⟩
        · rw [totalWidth] at hHigh
          refine ih (front ++ [field]) (by simp [hAll]) ?_ ?_ <;>
            simp only [totalWidth_append, totalWidth] <;> omega
  exact hSuffix all [] rfl (Nat.zero_le _) (by rw [totalWidth_all, totalWidth]; omega)

theorem apart {field other : Field} (hOther : field ≠ other) :
    field.offset + field.width ≤ other.offset ∨ other.offset + other.width ≤ field.offset := by
  have hEither : all.Pairwise fun earlier later : Field =>
      earlier.offset + earlier.width ≤ later.offset ∨
        later.offset + later.width ≤ earlier.offset := pairwise_all.imp Or.inl
  have : Std.Symm fun earlier later : Field =>
      earlier.offset + earlier.width ≤ later.offset ∨
        later.offset + later.width ≤ earlier.offset := ⟨fun _ _ => Or.symm⟩
  exact hEither.forall (mem_all field) (mem_all other) hOther

theorem eq_of_covers {field other : Field} {position : Nat} (hField : field.Covers position)
    (hOther : other.Covers position) : field = other := by
  by_contra hNe
  obtain ⟨hFieldLow, hFieldHigh⟩ := hField
  obtain ⟨hOtherLow, hOtherHigh⟩ := hOther
  rcases apart hNe with hBefore | hBehind
  · omega
  · omega

theorem end_le_of_mem_body : ∀ field ∈ body, field.offset + field.width ≤ 0x2A0 := by
  decide

end Field

/-! ## Contents of the fields -/

theorem get_set_self (report : Report) (field : Field) (value : Block field.width) :
    (report.set field value).get field = value := by
  cases field with
  | policyAbiMinor | policyAbiMajor | cpuidFamily | cpuidModel | cpuidStepping | currentBuild
  | currentMinor | currentMajor | reservedCurrent | committedBuild | committedMinor
  | committedMajor | reservedCommitted => exact Block.ofUInt8_toUInt8 value
  | policyFlags => exact Block.ofUInt16_toUInt16 value
  | version | guestSvn | policyReserved | vmpl | signatureAlgo | keyInfo | reservedKey =>
      exact Block.ofUInt32_toUInt32 value
  | platformInfo | launchMitigations | currentMitigations =>
      exact Block.ofUInt64_toUInt64 value
  | _ => rfl

theorem get_set_of_ne (report : Report) {field other : Field} (hOther : other ≠ field)
    (value : Block field.width) : (report.set field value).get other = report.get other := by
  cases field <;> cases other <;> first | rfl | exact absurd rfl hOther

/-- A report is determined by the bytes of its fields. -/
theorem ext_get {left right : Report} (hGet : ∀ field, left.get field = right.get field) :
    left = right := by
  have hByte : ∀ {a b : UInt8}, Block.ofUInt8 a = Block.ofUInt8 b → a = b := fun hSame => by
    simpa using congrArg Block.toUInt8 hSame
  have hShort : ∀ {a b : UInt16}, Block.ofUInt16 a = Block.ofUInt16 b → a = b := fun hSame => by
    simpa using congrArg Block.toUInt16 hSame
  have hWord : ∀ {a b : UInt32}, Block.ofUInt32 a = Block.ofUInt32 b → a = b := fun hSame => by
    simpa using congrArg Block.toUInt32 hSame
  have hLong : ∀ {a b : UInt64}, Block.ofUInt64 a = Block.ofUInt64 b → a = b := fun hSame => by
    simpa using congrArg Block.toUInt64 hSame
  have hPolicy : left.body.policy = right.body.policy :=
    GuestPolicy.ext (hByte (hGet .policyAbiMinor)) (hByte (hGet .policyAbiMajor))
      (hShort (hGet .policyFlags)) (hWord (hGet .policyReserved))
  have hBody : left.body = right.body :=
    ReportBody.ext (hWord (hGet .version)) (hWord (hGet .guestSvn)) hPolicy (hGet .familyId)
      (hGet .imageId) (hWord (hGet .vmpl)) (hWord (hGet .signatureAlgo)) (hGet .currentTcb)
      (hLong (hGet .platformInfo)) (hWord (hGet .keyInfo)) (hWord (hGet .reservedKey))
      (hGet .reportData) (hGet .measurement) (hGet .hostData) (hGet .idKeyDigest)
      (hGet .authorKeyDigest) (hGet .reportId) (hGet .reportIdMa) (hGet .reportedTcb)
      (hByte (hGet .cpuidFamily)) (hByte (hGet .cpuidModel)) (hByte (hGet .cpuidStepping))
      (hGet .reservedCpuid) (hGet .chipId) (hGet .committedTcb) (hByte (hGet .currentBuild))
      (hByte (hGet .currentMinor)) (hByte (hGet .currentMajor)) (hByte (hGet .reservedCurrent))
      (hByte (hGet .committedBuild)) (hByte (hGet .committedMinor)) (hByte (hGet .committedMajor))
      (hByte (hGet .reservedCommitted)) (hGet .launchTcb) (hLong (hGet .launchMitigations))
      (hLong (hGet .currentMitigations)) (hGet .reservedTail)
  have hSignature : left.signature = right.signature :=
    SignatureArea.ext (hGet .signatureR) (hGet .signatureS) (hGet .signatureReserved)
  exact Report.ext hBody hSignature

/-- The number in a field that holds one. -/
def number? (report : Report) : Field → Option Nat
  | .version => some report.body.version.toNat
  | .guestSvn => some report.body.guestSvn.toNat
  | .policyAbiMinor => some report.body.policy.abiMinor.toNat
  | .policyAbiMajor => some report.body.policy.abiMajor.toNat
  | .policyFlags => some report.body.policy.flags.toNat
  | .policyReserved => some report.body.policy.reserved.toNat
  | .vmpl => some report.body.vmpl.toNat
  | .signatureAlgo => some report.body.signatureAlgo.toNat
  | .platformInfo => some report.body.platformInfo.toNat
  | .keyInfo => some report.body.keyInfo.toNat
  | .reservedKey => some report.body.reservedKey.toNat
  | .cpuidFamily => some report.body.cpuidFamily.toNat
  | .cpuidModel => some report.body.cpuidModel.toNat
  | .cpuidStepping => some report.body.cpuidStepping.toNat
  | .currentBuild => some report.body.currentBuild.toNat
  | .currentMinor => some report.body.currentMinor.toNat
  | .currentMajor => some report.body.currentMajor.toNat
  | .reservedCurrent => some report.body.reservedCurrent.toNat
  | .committedBuild => some report.body.committedBuild.toNat
  | .committedMinor => some report.body.committedMinor.toNat
  | .committedMajor => some report.body.committedMajor.toNat
  | .reservedCommitted => some report.body.reservedCommitted.toNat
  | .launchMitigations => some report.body.launchMitigations.toNat
  | .currentMitigations => some report.body.currentMitigations.toNat
  | _ => none

theorem number?_eq (report : Report) (field : Field) :
    report.number? field = if field.isNumber then some (report.get field).toNat else none := by
  cases field with
  | policyAbiMinor | policyAbiMajor | cpuidFamily | cpuidModel | cpuidStepping | currentBuild
  | currentMinor | currentMajor | reservedCurrent | committedBuild | committedMinor
  | committedMajor | reservedCommitted => exact congrArg some (Block.toNat_ofUInt8 _).symm
  | policyFlags => exact congrArg some (Block.toNat_ofUInt16 _).symm
  | version | guestSvn | policyReserved | vmpl | signatureAlgo | keyInfo | reservedKey =>
      exact congrArg some (Block.toNat_ofUInt32 _).symm
  | platformInfo | launchMitigations | currentMitigations =>
      exact congrArg some (Block.toNat_ofUInt64 _).symm
  | _ => rfl

/-! ## Reading and writing -/

theorem toList_toBlock_of_split (report : Report) {front back : List Field} {field : Field}
    (hAll : Field.all = front ++ field :: back) :
    report.toBlock.toList =
      report.bytesOf front ++ ((report.get field).toList ++ report.bytesOf back) := by
  show report.bytesOf Field.all = _
  rw [hAll, bytesOf, List.flatMap_append, List.flatMap_cons]
  rfl

theorem length_front {front back : List Field} {field : Field} (report : Report)
    (hAll : Field.all = front ++ field :: back) :
    (report.bytesOf front).length = field.offset := by
  rw [length_bytesOf, Field.offset_of_split hAll]

/-- The place of a field holds the bytes of the field. -/
theorem read_toBlock (report : Report) (field : Field) :
    field.read report.toBlock = report.get field := by
  obtain ⟨front, back, hAll⟩ := List.append_of_mem (Field.mem_all field)
  apply Block.ext
  show (report.toBlock.toList.drop field.offset).take field.width = _
  rw [toList_toBlock_of_split report hAll, List.drop_left' (length_front report hAll),
    List.take_left' (report.get field).length_toList]

/-- Assigning some fields, each once, leaves in each what it was assigned. -/
theorem get_foldl_set (value : (field : Field) → Block field.width) (field : Field) :
    ∀ (fields : List Field) (report : Report), fields.Nodup →
      (fields.foldl (fun built field => built.set field (value field)) report).get field =
        if field ∈ fields then value field else report.get field
  | [], _, _ => rfl
  | first :: rest, report, hNodup => by
    obtain ⟨hFirst, hRest⟩ := List.nodup_cons.mp hNodup
    rw [List.foldl_cons, get_foldl_set value field rest _ hRest]
    by_cases hHere : field = first
    · subst hHere
      rw [if_neg hFirst, if_pos List.mem_cons_self, get_set_self]
    · simp only [List.mem_cons, hHere, false_or, get_set_of_ne report hHere]

theorem get_ofBlock (block : Block size) (field : Field) :
    (ofBlock block).get field = field.read block := by
  rw [ofBlock, get_foldl_set _ field _ _ Field.nodup_all, if_pos (Field.mem_all field)]

theorem ofBlock_toBlock (report : Report) : ofBlock report.toBlock = report := by
  apply ext_get
  intro field
  rw [get_ofBlock, read_toBlock]

/-- The places of the fields, read one after the other, are the whole block. -/
theorem flatMap_read (block : Block size) :
    ∀ fields front : List Field, Field.all = front ++ fields →
      (fields.flatMap fun field => (field.read block).toList) =
        block.toList.drop (Field.totalWidth front)
  | [], front, hAll => by
    have hWhole : Field.totalWidth front = size := by
      rw [← Field.totalWidth_all, hAll, List.append_nil]
    rw [hWhole, List.drop_of_length_le (by simp), List.flatMap_nil]
  | field :: rest, front, hAll => by
    have hNext := flatMap_read block rest (front ++ [field]) (by simp [hAll])
    have hRead : (field.read block).toList =
        (block.toList.drop (Field.totalWidth front)).take field.width := by
      rw [← Field.offset_of_split hAll]
      rfl
    have hStep : Field.totalWidth (front ++ [field]) = Field.totalWidth front + field.width := by
      simp [Field.totalWidth_append, Field.totalWidth]
    rw [List.flatMap_cons, hNext, hRead, hStep, ← List.drop_drop, List.take_append_drop]

theorem toBlock_ofBlock (block : Block size) : (ofBlock block).toBlock = block := by
  apply Block.ext
  show (ofBlock block).bytesOf Field.all = block.toList
  simp only [bytesOf, get_ofBlock]
  exact flatMap_read block Field.all [] rfl

theorem bytesOf_set (report : Report) {field : Field} (value : Block field.width)
    {fields : List Field} (hAbsent : field ∉ fields) :
    (report.set field value).bytesOf fields = report.bytesOf fields := by
  apply List.flatMap_congr
  intro other hOther
  have hNe : other ≠ field := by
    rintro rfl
    exact hAbsent hOther
  rw [get_set_of_ne report hNe]

/-- Assigning a field writes its bytes to its place and nothing else. -/
theorem toBlock_set (report : Report) (field : Field) (value : Block field.width) :
    (report.set field value).toBlock =
      report.toBlock.overwrite field.offset value field.offset_add_width_le := by
  obtain ⟨front, back, hAll⟩ := List.append_of_mem (Field.mem_all field)
  obtain ⟨hFront, hBack⟩ := Field.not_mem_of_split hAll
  have hBytes := toList_toBlock_of_split report hAll
  have hKept : report.toBlock.toList.take field.offset = report.bytesOf front := by
    rw [hBytes, List.take_left' (length_front report hAll)]
  have hRest : report.toBlock.toList.drop (field.offset + value.toList.length) =
      report.bytesOf back := by
    rw [hBytes, value.length_toList, ← List.drop_drop,
      List.drop_left' (length_front report hAll), List.drop_left' (report.get field).length_toList]
  apply Block.ext
  show _ = report.toBlock.toList.take field.offset ++
    (value.toList ++ report.toBlock.toList.drop (field.offset + value.toList.length))
  rw [hKept, hRest, toList_toBlock_of_split _ hAll, get_set_self, bytesOf_set report value hFront,
    bytesOf_set report value hBack]

end Report

end SnpGuest
