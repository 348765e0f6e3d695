import SnpGuest.Fixture.Generate
import SnpGuest.Proofs.Bytes.Hex

namespace SnpGuest

/-!
# Report data given as text

A text of at most 64 bytes in hexadecimal stands for these bytes with zeros behind them, so many
texts stand for the same data.  What they share is their shortest form: lower case, and no pair of
zeros at the end (`Fixture.eq_iff_shortest`).  On the bytes this is the form without zeros at the
end (`Hex.dropZeroPairs_digits`, `Bytes.resize_eq_resize_iff`).  Which texts are taken at all, and
how the others are refused, follows from what is read as hexadecimal.
-/

namespace Bytes

/-- A byte string without the zeros at its end. -/
def trim : Bytes → Bytes
  | [] => []
  | byte :: rest => if trim rest = [] ∧ byte = 0 then [] else byte :: trim rest

theorem trim_zeros (count : Nat) : trim (List.replicate count 0) = [] := by
  induction count with
  | zero => rfl
  | succ count ih =>
      rw [List.replicate_succ, trim]
      exact if_pos ⟨ih, rfl⟩

theorem trim_append_zeros (bytes : Bytes) (count : Nat) :
    trim (bytes ++ List.replicate count 0) = trim bytes := by
  induction bytes with
  | nil => exact trim_zeros count
  | cons byte rest ih => rw [List.cons_append, trim, trim, ih]

theorem exists_zeros (bytes : Bytes) : ∃ count, bytes = trim bytes ++ List.replicate count 0 := by
  induction bytes with
  | nil => exact ⟨0, rfl⟩
  | cons byte rest ih =>
      obtain ⟨count, hRest⟩ := ih
      by_cases hZero : trim rest = [] ∧ byte = 0
      · refine ⟨count + 1, ?_⟩
        rw [trim, if_pos hZero, hZero.2, List.replicate_succ, List.nil_append]
        rw [hZero.1, List.nil_append] at hRest
        rw [hRest]
      · refine ⟨count, ?_⟩
        rw [trim, if_neg hZero, List.cons_append, ← hRest]

theorem resize_trim {n : Nat} {bytes : Bytes} (hShort : bytes.length ≤ n) :
    resize n (trim bytes) = resize n bytes := by
  obtain ⟨count, hBytes⟩ := exists_zeros bytes
  have hLength := congrArg List.length hBytes
  rw [List.length_append, List.length_replicate] at hLength
  have hZeros : n - (trim bytes).length = count + (n - bytes.length) := by omega
  rw [resize_eq_append hShort, resize_eq_append (by omega), hZeros,
    ← List.replicate_append_replicate, ← List.append_assoc, ← hBytes]

/-- Byte strings that are filled up to the same one differ in zeros at the end only. -/
theorem resize_eq_resize_iff {n : Nat} {left right : Bytes} (hLeft : left.length ≤ n)
    (hRight : right.length ≤ n) : resize n left = resize n right ↔ trim left = trim right := by
  constructor
  · intro hSame
    rw [resize_eq_append hLeft, resize_eq_append hRight] at hSame
    have hTrim := congrArg trim hSame
    rwa [trim_append_zeros, trim_append_zeros] at hTrim
  · intro hTrim
    rw [← resize_trim hLeft, hTrim, resize_trim hRight]

end Bytes

namespace Hex

/-- Digits without the pairs of zeros at their end.  A zero at the end of another pair stays. -/
def dropZeroPairs : List Char → List Char
  | high :: low :: rest =>
    if dropZeroPairs rest = [] ∧ high = '0' ∧ low = '0' then []
    else high :: low :: dropZeroPairs rest
  | rest => rest

/-- The digits of a text in its shortest form. -/
def shortest (text : String) : List Char :=
  dropZeroPairs (text.toList.map Char.toLower)

theorem digits_eq_nil_iff (bytes : Bytes) : digits bytes = [] ↔ bytes = [] := by
  cases bytes <;> simp [digits]

theorem digits_zero_iff (byte : UInt8) :
    digit (byte.toNat / 16) = '0' ∧ digit (byte.toNat % 16) = '0' ↔ byte = 0 := by
  constructor
  · rintro ⟨hHigh, hLow⟩
    have hBound := byte.toNat_lt
    have hHighZero := digit_injective_of_lt (b := 0) (by omega) (by decide) hHigh
    have hLowZero := digit_injective_of_lt (b := 0) (by omega) (by decide) hLow
    exact UInt8.toNat_inj.mp (show byte.toNat = 0 by omega)
  · rintro rfl
    decide

theorem dropZeroPairs_digits (bytes : Bytes) :
    dropZeroPairs (digits bytes) = digits (Bytes.trim bytes) := by
  induction bytes with
  | nil => rfl
  | cons byte rest ih =>
      have hDropped : (digits (Bytes.trim rest) = [] ∧ digit (byte.toNat / 16) = '0' ∧
          digit (byte.toNat % 16) = '0') ↔ (Bytes.trim rest = [] ∧ byte = 0) :=
        and_congr (digits_eq_nil_iff _) (digits_zero_iff byte)
      simp only [digits_cons, dropZeroPairs, ih, hDropped, Bytes.trim]
      split <;> rfl

theorem shortest_of_decode {text : String} {bytes : Bytes} (hRead : decode text = .ok bytes) :
    shortest text = digits (Bytes.trim bytes) := by
  rw [shortest, (decode_eq_ok_iff text bytes).mp hRead, dropZeroPairs_digits]

end Hex

namespace Fixture

/-! ## Ways to read a text -/

theorem reportDataOfText_of_hex {text : String} {cause : Hex.DecodeError}
    (hHex : Hex.decode text = .error cause) :
    reportDataOfText text = .error (.reportDataHex cause) := by
  simp only [reportDataOfText, hHex]

theorem reportDataOfText_of_long {text : String} {bytes : Bytes}
    (hHex : Hex.decode text = .ok bytes) (hLong : 64 < bytes.length) :
    reportDataOfText text = .error (.reportDataTooLong bytes.length) := by
  simp only [reportDataOfText, hHex, if_neg (Nat.not_le.mpr hLong)]

theorem reportDataOfText_of_short {text : String} {bytes : Bytes}
    (hHex : Hex.decode text = .ok bytes) (hShort : bytes.length ≤ 64) :
    reportDataOfText text = .ok (.padded 64 bytes) := by
  simp only [reportDataOfText, hHex, if_pos hShort]

theorem reportDataOfText_eq_ok_iff (text : String) (data : Block 64) :
    reportDataOfText text = .ok data ↔
      ∃ bytes : Bytes, bytes.length ≤ 64 ∧ Hex.decode text = .ok bytes ∧
        data = .padded 64 bytes := by
  constructor
  · intro hRead
    cases hHex : Hex.decode text with
    | error cause => cases (reportDataOfText_of_hex hHex).symm.trans hRead
    | ok bytes =>
        rcases Nat.lt_or_ge 64 bytes.length with hLong | hShort
        · cases (reportDataOfText_of_long hHex hLong).symm.trans hRead
        · cases (reportDataOfText_of_short hHex hShort).symm.trans hRead
          exact ⟨bytes, hShort, rfl, rfl⟩
  · rintro ⟨bytes, hShort, hHex, rfl⟩
    exact reportDataOfText_of_short hHex hShort

/-! ## Which texts are taken -/

theorem reportDataOfText_hex_iff (text : String) :
    (∃ cause, reportDataOfText text = .error (.reportDataHex cause)) ↔ ¬ Hex.IsText text := by
  rw [← Hex.exists_decode_iff]
  constructor
  · rintro ⟨cause, hRefused⟩ ⟨bytes, hHex⟩
    rcases Nat.lt_or_ge 64 bytes.length with hLong | hShort
    · cases (reportDataOfText_of_long hHex hLong).symm.trans hRefused
    · cases (reportDataOfText_of_short hHex hShort).symm.trans hRefused
  · intro hOther
    cases hHex : Hex.decode text with
    | error cause => exact ⟨cause, reportDataOfText_of_hex hHex⟩
    | ok bytes => exact absurd ⟨bytes, hHex⟩ hOther

theorem reportDataOfText_of_isText {text : String} (hText : Hex.IsText text)
    (hLong : 128 < text.length) :
    reportDataOfText text = .error (.reportDataTooLong (text.length / 2)) := by
  obtain ⟨bytes, hHex⟩ := (Hex.exists_decode_iff text).mpr hText
  have hLength := Hex.length_of_decode hHex
  have hHalf : text.length / 2 = bytes.length := by omega
  rw [hHalf]
  exact reportDataOfText_of_long hHex (by omega)

theorem exists_reportDataOfText_iff (text : String) :
    (∃ data, reportDataOfText text = .ok data) ↔ Hex.IsText text ∧ text.length ≤ 128 := by
  rw [← Hex.exists_decode_iff]
  constructor
  · rintro ⟨data, hRead⟩
    obtain ⟨bytes, hShort, hHex, -⟩ := (reportDataOfText_eq_ok_iff text data).mp hRead
    have hLength := Hex.length_of_decode hHex
    exact ⟨⟨bytes, hHex⟩, by omega⟩
  · rintro ⟨⟨bytes, hHex⟩, hShort⟩
    have hLength := Hex.length_of_decode hHex
    exact ⟨_, reportDataOfText_of_short hHex (by omega)⟩

/-! ## Texts of the same data -/

theorem reportDataOfText_encode {bytes : Bytes} (hShort : bytes.length ≤ 64) :
    reportDataOfText (Hex.encode bytes) = .ok (.padded 64 bytes) :=
  reportDataOfText_of_short (Hex.decode_encode bytes) hShort

theorem exists_text (data : Block 64) : ∃ text, reportDataOfText text = .ok data := by
  have hWhole : Block.padded 64 data.toList = data := by
    apply Block.ext
    rw [Block.toList_padded_of_le (Nat.le_of_eq data.length_toList.symm),
      List.take_of_length_le (Nat.le_of_eq data.length_toList)]
  refine ⟨Hex.encode data.toList, ?_⟩
  rw [reportDataOfText_encode (Nat.le_of_eq data.length_toList), hWhole]

theorem eq_iff_shortest {left right : String} {leftData rightData : Block 64}
    (hLeft : reportDataOfText left = .ok leftData)
    (hRight : reportDataOfText right = .ok rightData) :
    leftData = rightData ↔ Hex.shortest left = Hex.shortest right := by
  obtain ⟨leftBytes, hLeftShort, hLeftHex, rfl⟩ := (reportDataOfText_eq_ok_iff _ _).mp hLeft
  obtain ⟨rightBytes, hRightShort, hRightHex, rfl⟩ := (reportDataOfText_eq_ok_iff _ _).mp hRight
  rw [Hex.shortest_of_decode hLeftHex, Hex.shortest_of_decode hRightHex, Block.ext_iff]
  have hBytes := Bytes.resize_eq_resize_iff hLeftShort hRightShort
  exact hBytes.trans ⟨congrArg Hex.digits, Hex.digits_injective⟩

/-- A text is taken exactly if it is an even number of digits in either case, at most 128.  The
data are then the bytes that it writes, with zeros behind them up to the end.  A text that is no
hexadecimal is refused as such, however long it is; one that is too long is refused with its number
of bytes.  So the text of at most 64 bytes gives these bytes, all data have a text, and two texts
give the same data, and the same key of the registry, exactly if their shortest forms agree. -/
theorem reportDataOfText_outcome :
    (∀ text, (∃ data, reportDataOfText text = .ok data) ↔
      Hex.IsText text ∧ text.length ≤ 128) ∧
    (∀ text data, reportDataOfText text = .ok data ↔ ∃ bytes : Bytes, bytes.length ≤ 64 ∧
      (Hex.decode text = .ok bytes ∧ text.toLower = Hex.encode bytes) ∧
      data.toList = bytes ++ List.replicate (64 - bytes.length) 0) ∧
    (∀ text, (∃ cause, reportDataOfText text = .error (.reportDataHex cause)) ↔
      ¬ Hex.IsText text) ∧
    (∀ text, Hex.IsText text → 128 < text.length →
      reportDataOfText text = .error (.reportDataTooLong (text.length / 2))) ∧
    (∀ bytes : Bytes, bytes.length ≤ 64 →
      reportDataOfText (Hex.encode bytes) = .ok (.padded 64 bytes)) ∧
    (∀ data, ∃ text, reportDataOfText text = .ok data) ∧
    (∀ left right leftData rightData, reportDataOfText left = .ok leftData →
      reportDataOfText right = .ok rightData →
      (leftData = rightData ↔ Hex.shortest left = Hex.shortest right) ∧
      (Registry.key leftData = Registry.key rightData ↔
        Hex.shortest left = Hex.shortest right)) := by
  refine ⟨exists_reportDataOfText_iff, fun text data => ?_, reportDataOfText_hex_iff,
    fun text => reportDataOfText_of_isText, fun bytes => reportDataOfText_encode, exists_text,
    fun left right leftData rightData hLeft hRight => ?_⟩
  · rw [reportDataOfText_eq_ok_iff]
    refine exists_congr fun bytes => and_congr_right fun hShort => and_congr ?_ ?_
    · exact (and_iff_left_of_imp (Hex.decode_eq_ok_iff_toLower text bytes).mp).symm
    · rw [Block.ext_iff, ← Bytes.resize_eq_append hShort]
      rfl
  · have hData := eq_iff_shortest hLeft hRight
    have hKey : Registry.key leftData = Registry.key rightData ↔ leftData = rightData :=
      ⟨Registry.key_injective, congrArg Registry.key⟩
    exact ⟨hData, hKey.trans hData⟩

/-- Two texts of the same two bytes, in different cases and lengths, and a text of 65 bytes. -/
theorem reportDataOfText_outcome_of_mixed_case :
    let long := String.ofList (List.replicate 130 'F')
    (∃ data, reportDataOfText "0aB0" = .ok data ∧ reportDataOfText "0AB00000" = .ok data) ∧
      reportDataOfText (Hex.encode [0x0A, 0xB0]) = .ok (.padded 64 [0x0A, 0xB0]) ∧
      Hex.IsText long ∧ reportDataOfText long = .error (.reportDataTooLong 65) := by
  intro long
  obtain ⟨hTaken, -, -, hLong, hShort, -, hSame⟩ := reportDataOfText_outcome
  obtain ⟨leftData, hLeft⟩ := (hTaken "0aB0").mpr (by decide)
  obtain ⟨rightData, hRight⟩ := (hTaken "0AB00000").mpr (by decide)
  obtain ⟨hData, -⟩ := hSame _ _ _ _ hLeft hRight
  have hSameData : leftData = rightData := hData.mpr (by decide)
  have hDigits : long.toList = List.replicate 130 'F' := String.toList_ofList
  have hLength : long.length = 130 := by
    rw [← String.length_toList, hDigits, List.length_replicate]
  have hText : Hex.IsText long := by
    refine ⟨by rw [hLength], fun char hChar => ?_⟩
    rw [hDigits] at hChar
    rw [List.eq_of_mem_replicate hChar]
    decide
  have hRefused := hLong long hText (by rw [hLength]; decide)
  rw [hLength] at hRefused
  exact ⟨⟨leftData, hLeft, hSameData ▸ hRight⟩, hShort _ (by decide), hText, hRefused⟩

end Fixture

end SnpGuest
