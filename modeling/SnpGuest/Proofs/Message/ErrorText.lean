import SnpGuest.Message.Status
import SnpGuest.Proofs.Bytes.Hex

namespace SnpGuest

/-!
# What the text of an error word tells

The text of an error word names the hypervisor's code, unless it is zero, and the firmware's, and it
can be read back (`ErrorWord.read_text`).  Only the first part can begin with a `V`, and it ends at
the first comma, since no name of a code has one.  A name of a firmware status never looks like the
text of an unknown one.  So different words have different texts.
-/

namespace FirmwareStatus

/-- The number of the status with a given name. -/
def codeOfName? (name : List Char) : Option UInt32 :=
  (table.find? fun row => row.2.2.toList == name).map (·.2.1)

theorem codeOfName?_of_mem : ∀ row ∈ table, codeOfName? row.2.2.toList = some row.2.1 := by
  decide

theorem codeOfName?_of_nameOfCode? {code : UInt32} {name : String}
    (hName : nameOfCode? code = some name) : codeOfName? name.toList = some code := by
  obtain ⟨row, hRow, rfl⟩ := Option.map_eq_some_iff.mp hName
  have hCode := List.find?_some hRow
  rw [codeOfName?_of_mem row (List.mem_of_find?_eq_some hRow), beq_iff_eq.mp hCode]

/-- Names begin with a capital letter, what stands for an unknown number does not. -/
theorem codeOfName?_of_head {name : List Char} (hHead : name.head? = some 'u') :
    codeOfName? name = none := by
  have hNames : ∀ row ∈ table, row.2.2.toList.head? ≠ some 'u' := by decide
  rw [codeOfName?, Option.map_eq_none_iff, List.find?_eq_none]
  intro row hRow hSame
  exact hNames row hRow (beq_iff_eq.mp hSame ▸ hHead)

end FirmwareStatus

namespace ErrorWord

/-! ## The two parts of a text -/

/-- What a text calls a code of the hypervisor. -/
def hypervisorName (code : UInt32) : String :=
  if code = invalidLength then "invalid length"
  else if code = busy then "busy"
  else "0x" ++ Hex.number code.toNat

/-- What a text calls a code of the firmware. -/
def firmwareName (code : UInt32) : String :=
  match FirmwareStatus.nameOfCode? code with
  | some name => name
  | none => "unknown (0x" ++ Hex.number code.toNat ++ ")"

theorem hypervisorText_of_ne_zero {code : UInt32} (hCode : code ≠ 0) :
    hypervisorText code = "VMM error: " ++ hypervisorName code ++ ", " := by
  rw [hypervisorText, if_neg hCode, hypervisorName]
  split
  · rfl
  · split
    · rfl
    · simp only [String.append_assoc]
      rfl

theorem firmwareText_eq (code : UInt32) :
    firmwareText code = "firmware status: " ++ firmwareName code := by
  cases hName : FirmwareStatus.nameOfCode? code with
  | some name => simp only [firmwareText, firmwareName, hName]
  | none =>
      simp only [firmwareText, firmwareName, hName, String.append_assoc]
      rfl

theorem comma_notMem_hypervisorName (code : UInt32) : ',' ∉ (hypervisorName code).toList := by
  have hDigits : ',' ∉ Nat.toDigits 16 code.toNat := Hex.not_mem_toDigits (by decide) _
  rw [hypervisorName]
  split
  · decide
  · split
    · decide
    · rw [String.toList_append, Hex.toList_number, List.mem_append, not_or]
      exact ⟨by decide, hDigits⟩

/-! ## Reading back -/

/-- What follows a label. -/
def behind (label : String) (chars : List Char) : List Char :=
  chars.drop label.length

theorem behind_append (label : String) (rest : List Char) :
    behind label (label.toList ++ rest) = rest := by
  rw [behind, ← String.length_toList, List.drop_left]

/-- The code that a text calls so. -/
def hypervisorNumber (name : List Char) : Nat :=
  if name = "invalid length".toList then invalidLength.toNat
  else if name = "busy".toList then busy.toNat
  else Hex.numberOf (behind "0x" name)

def firmwareNumber (name : List Char) : Nat :=
  match FirmwareStatus.codeOfName? name with
  | some code => code.toNat
  | none => Hex.numberOf (behind "unknown (0x" name).dropLast

/-- The codes of the hypervisor and of the firmware that a text tells. -/
def read (text : String) : Nat × Nat :=
  if text.toList.head? = some 'V' then
    (hypervisorNumber ((behind "VMM error: " text.toList).takeWhile (· != ',')),
      firmwareNumber (behind ", firmware status: "
        ((behind "VMM error: " text.toList).dropWhile (· != ','))))
  else (0, firmwareNumber (behind "firmware status: " text.toList))

theorem hypervisorNumber_hypervisorName (code : UInt32) :
    hypervisorNumber (hypervisorName code).toList = code.toNat := by
  rw [hypervisorName]
  split
  · rename_i hCode
    rw [hCode]
    rfl
  · split
    · rename_i hCode
      rw [hCode]
      rfl
    · -- The third kind of name is the only one that begins with a digit.
      have hLong : "0x".toList ++ Nat.toDigits 16 code.toNat ≠ "invalid length".toList :=
        ne_of_apply_ne List.head? (show some '0' ≠ some 'i' by decide)
      have hBusy : "0x".toList ++ Nat.toDigits 16 code.toNat ≠ "busy".toList :=
        ne_of_apply_ne List.head? (show some '0' ≠ some 'b' by decide)
      rw [String.toList_append, Hex.toList_number, hypervisorNumber, if_neg hLong, if_neg hBusy,
        behind_append, Hex.numberOf_toDigits]

theorem firmwareNumber_firmwareName (code : UInt32) :
    firmwareNumber (firmwareName code).toList = code.toNat := by
  rw [firmwareName]
  cases hName : FirmwareStatus.nameOfCode? code with
  | some name => simp only [firmwareNumber, FirmwareStatus.codeOfName?_of_nameOfCode? hName]
  | none =>
      have hChars : ("unknown (0x" ++ Hex.number code.toNat ++ ")").toList =
          "unknown (0x".toList ++ (Nat.toDigits 16 code.toNat ++ [')']) := by
        rw [String.toList_append, String.toList_append, Hex.toList_number, List.append_assoc]
        rfl
      have hUnknown : FirmwareStatus.codeOfName?
          ("unknown (0x".toList ++ (Nat.toDigits 16 code.toNat ++ [')'])) = none :=
        FirmwareStatus.codeOfName?_of_head rfl
      simp only [hChars, firmwareNumber, hUnknown]
      rw [behind_append, List.dropLast_concat, Hex.numberOf_toDigits]

/-- A name without a comma ends where the first comma is. -/
theorem takeWhile_dropWhile_comma {name rest : List Char} (hName : ',' ∉ name)
    (hRest : rest.head? = some ',') :
    (name ++ rest).takeWhile (· != ',') = name ∧ (name ++ rest).dropWhile (· != ',') = rest := by
  have hInside : ∀ char ∈ name, (char != ',') = true := fun char hChar =>
    bne_iff_ne.mpr (ne_of_mem_of_not_mem hChar hName)
  obtain ⟨tail, rfl⟩ := List.head?_eq_some_iff.mp hRest
  rw [List.takeWhile_append_of_pos hInside, List.dropWhile_append_of_pos hInside]
  exact ⟨List.append_nil name, rfl⟩

/-- A text tells both codes of its word, whichever they are. -/
theorem read_text (upper lower : UInt32) :
    read (hypervisorText upper ++ firmwareText lower) = (upper.toNat, lower.toNat) := by
  by_cases hNone : upper = 0
  · have hChars : (hypervisorText upper ++ firmwareText lower).toList =
        "firmware status: ".toList ++ (firmwareName lower).toList := by
      rw [hNone, firmwareText_eq, String.toList_append, String.toList_append]
      rfl
    have hHead : ("firmware status: ".toList ++ (firmwareName lower).toList).head? ≠ some 'V' :=
      show some 'f' ≠ some 'V' by decide
    rw [read, hChars, if_neg hHead, behind_append, firmwareNumber_firmwareName, hNone]
    rfl
  · have hChars : (hypervisorText upper ++ firmwareText lower).toList =
        "VMM error: ".toList ++ ((hypervisorName upper).toList ++
          (", firmware status: ".toList ++ (firmwareName lower).toList)) := by
      rw [hypervisorText_of_ne_zero hNone, firmwareText_eq]
      simp only [String.toList_append, List.append_assoc]
      rfl
    have hHead : ∀ rest, ("VMM error: ".toList ++ rest).head? = some 'V' := fun _ => rfl
    have hComma : (", firmware status: ".toList ++ (firmwareName lower).toList).head? = some ',' :=
      rfl
    obtain ⟨hBefore, hFrom⟩ :=
      takeWhile_dropWhile_comma (comma_notMem_hypervisorName upper) hComma
    rw [read, hChars, if_pos (hHead _), behind_append, hBefore, hFrom, behind_append,
      hypervisorNumber_hypervisorName, firmwareNumber_firmwareName]

theorem text_eq_iff (upper lower otherUpper otherLower : UInt32) :
    hypervisorText upper ++ firmwareText lower =
        hypervisorText otherUpper ++ firmwareText otherLower ↔
      upper = otherUpper ∧ lower = otherLower := by
  constructor
  · intro hText
    have hCodes := congrArg read hText
    rw [read_text, read_text, Prod.mk.injEq] at hCodes
    exact ⟨UInt32.toNat_inj.mp hCodes.1, UInt32.toNat_inj.mp hCodes.2⟩
  · rintro ⟨rfl, rfl⟩
    rfl

/-! ## Words -/

theorem asksForBuffer_iff_exists (word : ErrorWord) :
    word.asksForBuffer = true ↔ ∃ low : UInt32, word.value.toNat = 0x100000000 + low.toNat := by
  have hValue := toNat_value_iff word invalidLength
  rw [asksForBuffer, beq_iff_eq]
  constructor
  · intro hUpper
    exact ⟨word.firmwareCode, (hValue _).mpr ⟨hUpper.symm, rfl⟩⟩
  · rintro ⟨low, hLow⟩
    exact ((hValue low).mp hLow).1.symm

/-- The text of an error word determines it: two words with the same text are equal, and two texts
put together from a hypervisor's and a firmware's part are the same for the same two codes only,
named, unknown or left out.  The word is the hypervisor's code, times `2 ^ 32`, and the firmware's,
and has no other such parts.  The hypervisor asks for a larger buffer exactly if the upper half of
the word is one, whatever the lower half. -/
theorem message_determines :
    (∀ left right : ErrorWord, left.message = right.message ↔ left = right) ∧
    (∀ upper lower otherUpper otherLower : UInt32,
      hypervisorText upper ++ firmwareText lower =
          hypervisorText otherUpper ++ firmwareText otherLower ↔
        upper = otherUpper ∧ lower = otherLower) ∧
    ∀ word : ErrorWord,
      word.value.toNat = word.hypervisorCode.toNat * 0x100000000 + word.firmwareCode.toNat ∧
      (∀ high low : UInt32, word.value.toNat = high.toNat * 0x100000000 + low.toNat ↔
        high = word.hypervisorCode ∧ low = word.firmwareCode) ∧
      (word.asksForBuffer = true ↔ word.value.toNat / 0x100000000 = 1) ∧
      (word.asksForBuffer = true ↔ ∃ low : UInt32, word.value.toNat = 0x100000000 + low.toNat) := by
  refine ⟨fun left right => ?_, text_eq_iff, fun word => ⟨?_, toNat_value_iff word,
    asksForBuffer_iff word, asksForBuffer_iff_exists word⟩⟩
  · constructor
    · intro hText
      obtain ⟨hUpper, hLower⟩ := (text_eq_iff _ _ _ _).mp hText
      exact eq_of_codes hUpper hLower
    · exact congrArg message
  · exact (toNat_value_iff word _ _).mpr ⟨rfl, rfl⟩

/-- A hypervisor's code without a name, and a number that is not in use. -/
example : message ⟨0xfe0000001e⟩ = "VMM error: 0xfe, firmware status: unknown (0x1e)" := by decide

end ErrorWord

end SnpGuest
