import SnpGuest.Bytes.Hex

namespace SnpGuest

/-!
# Hexadecimal text, read and written

A text is read as some bytes exactly if, in lower case, it is what is written for them
(`Hex.decode_eq_ok_iff`), and the texts that are read at all are those of an even number of digits
(`Hex.exists_decode_iff`).  The short text of a number can be read back too
(`Hex.numberOf_toDigits`).
-/

namespace Hex

/-- The digits, in either case. -/
def IsDigit (char : Char) : Prop :=
  ('0' ≤ char ∧ char ≤ '9') ∨ ('A' ≤ char ∧ char ≤ 'F') ∨ ('a' ≤ char ∧ char ≤ 'f')

instance : DecidablePred IsDigit := fun _ => inferInstanceAs (Decidable (_ ∨ _))

/-- The texts of whole bytes: digits only, and two for each byte. -/
def IsText (text : String) : Prop :=
  text.length % 2 = 0 ∧ ∀ char ∈ text.toList, IsDigit char

instance : DecidablePred IsText := fun text =>
  have := List.decidableBAll IsDigit text.toList
  inferInstanceAs (Decidable (_ ∧ _))

/-! ## Single characters -/

/-- What holds of all characters of a single byte, checked code by code. -/
theorem forall_ascii {P : Char → Prop} (hCodes : ∀ code < 128, P (Char.ofNat code)) {char : Char}
    (hAscii : char.toNat < 128) : P char := by
  have hChar := hCodes char.toNat hAscii
  rwa [Char.ofNat_toNat] at hChar

theorem isDigit_digit : ∀ value < 16, IsDigit (digit value) := by
  decide

theorem value?_lt {byte : UInt8} {value : Nat} (hValue : value? byte = some value) :
    value < 16 := by
  unfold value? at hValue
  grind

theorem value?_of_large {byte : UInt8} (hLarge : 128 ≤ byte.toNat) : value? byte = none := by
  unfold value?
  grind

theorem toNat_lt_of_isDigit {char : Char} (hDigit : IsDigit char) : char.toNat < 128 := by
  have hCode : ∀ top : Char, char ≤ top → char.toNat ≤ top.toNat :=
    fun top hTop => UInt32.le_iff_toNat_le.mp (Char.le_def.mp hTop)
  rcases hDigit with ⟨-, hTop⟩ | ⟨-, hTop⟩ | ⟨-, hTop⟩
  · exact Nat.lt_of_le_of_lt (hCode '9' hTop) (by decide)
  · exact Nat.lt_of_le_of_lt (hCode 'F' hTop) (by decide)
  · exact Nat.lt_of_le_of_lt (hCode 'f' hTop) (by decide)

/-- A letter is a digit in both cases or in neither. -/
theorem isDigit_of_toLower {char : Char} (hDigit : IsDigit char.toLower) : IsDigit char := by
  by_cases hAscii : char.toNat < 128
  · exact forall_ascii (P := fun char => IsDigit char.toLower → IsDigit char) (by decide) hAscii
      hDigit
  · have hSame : char.toLower = char := by
      refine dif_neg fun hCapital => hAscii ?_
      exact Nat.lt_of_le_of_lt (UInt32.le_iff_toNat_le.mp hCapital.2) (by decide)
    rwa [hSame] at hDigit

theorem utf8EncodeChar_of_ascii {char : Char} (hAscii : char.toNat < 128) :
    String.utf8EncodeChar char = [UInt8.ofNat char.toNat] :=
  if_pos (Nat.le_of_lt_succ hAscii)

/-- A character that takes more than one byte has no digit as its last byte. -/
theorem exists_byte_of_large {char : Char} (hLarge : ¬ char.toNat < 128) :
    ∃ byte ∈ String.utf8EncodeChar char, value? byte = none := by
  refine ⟨UInt8.ofNat (char.toNat % 64 + 128), ?_, value?_of_large ?_⟩
  · have hWide : ¬ char.val.toNat ≤ 127 := fun hSmall => hLarge (Nat.lt_succ_of_le hSmall)
    simp only [String.utf8EncodeChar, if_neg hWide]
    split
    · exact List.mem_of_getLast? rfl
    · split <;> exact List.mem_of_getLast? rfl
  · rw [UInt8.toNat_ofNat']
    omega

/-- The value of a character of one byte, against its form in lower case. -/
theorem map_digit_value? {char : Char} (hAscii : char.toNat < 128) :
    (value? (UInt8.ofNat char.toNat)).map digit =
      if IsDigit char then some char.toLower else none :=
  forall_ascii (P := fun char => (value? (UInt8.ofNat char.toNat)).map digit =
    if IsDigit char then some char.toLower else none) (by decide) hAscii

theorem exists_byte_of_not_isDigit {char : Char} (hOther : ¬ IsDigit char) :
    ∃ byte ∈ String.utf8EncodeChar char, value? byte = none := by
  by_cases hAscii : char.toNat < 128
  · have hNone := map_digit_value? hAscii
    rw [if_neg hOther, Option.map_eq_none_iff] at hNone
    exact ⟨_, by rw [utf8EncodeChar_of_ascii hAscii]; exact List.mem_cons_self, hNone⟩
  · exact exists_byte_of_large hAscii

/-- A character that is a digit in lower case is one byte with the value of that digit. -/
theorem exists_byte_of_toLower {char : Char} {value : Nat} (hSmall : value < 16)
    (hLower : char.toLower = digit value) :
    ∃ byte, String.utf8EncodeChar char = [byte] ∧ value? byte = some value := by
  have hDigit : IsDigit char := isDigit_of_toLower (hLower ▸ isDigit_digit value hSmall)
  have hAscii := toNat_lt_of_isDigit hDigit
  refine ⟨_, utf8EncodeChar_of_ascii hAscii, ?_⟩
  have hSome := map_digit_value? hAscii
  rw [if_pos hDigit, hLower, Option.map_eq_some_iff] at hSome
  obtain ⟨found, hFound, hSame⟩ := hSome
  rw [hFound, digit_injective_of_lt (value?_lt hFound) hSmall hSame]

theorem exists_digit_of_isDigit {char : Char} (hDigit : IsDigit char) :
    ∃ value < 16, char.toLower = digit value := by
  have hSome := map_digit_value? (toNat_lt_of_isDigit hDigit)
  rw [if_pos hDigit, Option.map_eq_some_iff] at hSome
  obtain ⟨value, hFound, hSame⟩ := hSome
  exact ⟨value, value?_lt hFound, hSame.symm⟩

/-! ## Whole texts -/

theorem exists_digits : ∀ {chars : List Char}, chars.length % 2 = 0 →
    (∀ char ∈ chars, IsDigit char) → ∃ bytes, chars.map Char.toLower = digits bytes
  | [], _, _ => ⟨[], rfl⟩
  | [_], hEven, _ => absurd hEven (by simp)
  | high :: low :: rest, hEven, hDigits => by
    obtain ⟨highValue, hHigh, hHighLower⟩ := exists_digit_of_isDigit (hDigits high (by simp))
    obtain ⟨lowValue, hLow, hLowLower⟩ := exists_digit_of_isDigit (hDigits low (by simp))
    have hShorter : rest.length % 2 = 0 := by
      simp only [List.length_cons] at hEven
      omega
    obtain ⟨bytes, hRest⟩ := exists_digits hShorter fun char hChar => hDigits char (by simp [hChar])
    have hByte : (UInt8.ofNat (16 * highValue + lowValue)).toNat = 16 * highValue + lowValue := by
      rw [UInt8.toNat_ofNat']
      omega
    have hQuotient : (16 * highValue + lowValue) / 16 = highValue := by omega
    have hRemainder : (16 * highValue + lowValue) % 16 = lowValue := by omega
    refine ⟨UInt8.ofNat (16 * highValue + lowValue) :: bytes, ?_⟩
    rw [digits_cons, hByte, hQuotient, hRemainder, List.map_cons, List.map_cons, hHighLower,
      hLowLower, hRest]

/-- Characters are the digits of some bytes, in either case, if there are two for each byte. -/
theorem exists_digits_iff (chars : List Char) :
    (∃ bytes, chars.map Char.toLower = digits bytes) ↔
      chars.length % 2 = 0 ∧ ∀ char ∈ chars, IsDigit char := by
  constructor
  · rintro ⟨bytes, hLower⟩
    have hLength := congrArg List.length hLower
    rw [List.length_map, length_digits] at hLength
    refine ⟨by omega, fun char hChar => isDigit_of_toLower ?_⟩
    have hMember : char.toLower ∈ digits bytes := hLower ▸ List.mem_map_of_mem hChar
    obtain ⟨byte, -, hHalf⟩ := List.mem_flatMap.mp hMember
    have hBound := byte.toNat_lt
    simp only [List.mem_cons, List.not_mem_nil, or_false] at hHalf
    rcases hHalf with hHigh | hLow
    · exact hHigh ▸ isDigit_digit _ (by omega)
    · exact hLow ▸ isDigit_digit _ (by omega)
  · exact fun hText => exists_digits hText.1 hText.2

theorem length_flatMap_of_digits {chars : List Char} (hDigits : ∀ char ∈ chars, IsDigit char) :
    (chars.flatMap String.utf8EncodeChar).length = chars.length := by
  induction chars with
  | nil => rfl
  | cons char rest ih =>
      obtain ⟨hFirst, hRest⟩ := List.forall_mem_cons.mp hDigits
      rw [List.flatMap_cons, utf8EncodeChar_of_ascii (toNat_lt_of_isDigit hFirst),
        List.length_append, ih hRest, List.length_singleton, List.length_cons, Nat.add_comm]

/-- Digits in either case are read as the bytes for which they are written in lower case, wherever
the text starts. -/
theorem readPairs_of_lower (position : Nat) {chars : List Char} {bytes : Bytes}
    (hLower : chars.map Char.toLower = digits bytes) :
    readPairs position (chars.flatMap String.utf8EncodeChar) = .ok bytes := by
  induction bytes generalizing chars position with
  | nil =>
      rw [List.map_eq_nil_iff.mp hLower]
      rfl
  | cons byte bytes ih =>
      have hBound := byte.toNat_lt
      rw [digits_cons] at hLower
      obtain ⟨high, behind, rfl, hHigh, hBehind⟩ := List.map_eq_cons_iff.mp hLower
      obtain ⟨low, rest, rfl, hLow, hRest⟩ := List.map_eq_cons_iff.mp hBehind
      obtain ⟨highByte, hHighText, hHighValue⟩ := exists_byte_of_toLower (by omega) hHigh
      obtain ⟨lowByte, hLowText, hLowValue⟩ := exists_byte_of_toLower (by omega) hLow
      have hWhole : 16 * (byte.toNat / 16) + byte.toNat % 16 = byte.toNat := by omega
      simp only [List.flatMap_cons, hHighText, hLowText, List.cons_append, List.nil_append,
        readPairs, readDigit, hHighValue, hLowValue, ih _ hRest, bind, Except.bind, pure,
        Except.pure]
      rw [hWhole, UInt8.ofNat_toNat]

/-- Whoever reads to the end has seen digits only. -/
theorem value?_ne_none_of_readPairs : ∀ {position : Nat} {raw bytes : Bytes},
    readPairs position raw = .ok bytes → raw.length % 2 = 0 → ∀ byte ∈ raw, value? byte ≠ none
  | _, [], _, _, _ => by simp
  | _, [_], _, _, hEven => absurd hEven (by simp)
  | position, high :: low :: rest, bytes, hRead, hEven => by
    simp only [readPairs, readDigit, bind, Except.bind] at hRead
    cases hHigh : value? high with
    | none => simp [hHigh] at hRead
    | some highValue =>
        cases hLow : value? low with
        | none => simp [hHigh, hLow] at hRead
        | some lowValue =>
            cases hRest : readPairs (position + 2) rest with
            | error cause => simp [hHigh, hLow, hRest] at hRead
            | ok behind =>
                have hShorter : rest.length % 2 = 0 := by
                  simp only [List.length_cons] at hEven
                  omega
                have hBehind := value?_ne_none_of_readPairs hRest hShorter
                simpa [hHigh, hLow] using hBehind

/-- A text is read as some bytes exactly if it is, in either case, what is written for them. -/
theorem decode_eq_ok_iff (text : String) (bytes : Bytes) :
    decode text = .ok bytes ↔ text.toList.map Char.toLower = digits bytes := by
  have hBack : ∀ {found : Bytes}, text.toList.map Char.toLower = digits found →
      decode text = .ok found := by
    intro found hLower
    obtain ⟨hEven, hDigits⟩ := (exists_digits_iff text.toList).mp ⟨found, hLower⟩
    have hLength := length_flatMap_of_digits hDigits
    rw [decode, utf8, decodeBytes, if_neg (by omega)]
    exact readPairs_of_lower 0 hLower
  refine ⟨fun hRead => ?_, hBack⟩
  have hText := hRead
  rw [decode, utf8, decodeBytes] at hText
  split at hText
  · cases hText
  · rename_i hEven
    have hDigits : ∀ char ∈ text.toList, IsDigit char := by
      intro char hChar
      apply Decidable.by_contra
      intro hOther
      obtain ⟨byte, hByte, hNone⟩ := exists_byte_of_not_isDigit hOther
      exact value?_ne_none_of_readPairs hText (by omega) byte
        (List.mem_flatMap.mpr ⟨char, hChar, hByte⟩) hNone
    rw [length_flatMap_of_digits hDigits] at hEven
    obtain ⟨found, hFound⟩ := exists_digits (by omega) hDigits
    cases (hBack hFound).symm.trans hRead
    exact hFound

theorem decode_eq_ok_iff_toLower (text : String) (bytes : Bytes) :
    decode text = .ok bytes ↔ text.toLower = encode bytes := by
  have hLower : text.toLower.toList = text.toList.map Char.toLower := String.toList_map
  rw [decode_eq_ok_iff, ← String.toList_inj, hLower, encode, String.toList_ofList]

theorem exists_decode_iff (text : String) :
    (∃ bytes, decode text = .ok bytes) ↔ IsText text := by
  simp only [decode_eq_ok_iff]
  exact exists_digits_iff text.toList

theorem length_of_decode {text : String} {bytes : Bytes} (hRead : decode text = .ok bytes) :
    text.length = 2 * bytes.length := by
  have hLength := congrArg List.length ((decode_eq_ok_iff text bytes).mp hRead)
  rwa [List.length_map, String.length_toList, length_digits] at hLength

theorem map_toLower_digits (bytes : Bytes) : (digits bytes).map Char.toLower = digits bytes := by
  have hDigit : ∀ value < 16, (digit value).toLower = digit value := by decide
  induction bytes with
  | nil => rfl
  | cons byte bytes ih =>
      have hBound := byte.toNat_lt
      rw [digits_cons, List.map_cons, List.map_cons, ih, hDigit _ (by omega), hDigit _ (by omega)]

theorem decode_encode (bytes : Bytes) : decode (encode bytes) = .ok bytes := by
  rw [decode_eq_ok_iff, encode, String.toList_ofList, map_toLower_digits]

/-! ## Short texts of numbers -/

theorem toList_number (value : Nat) : (number value).toList = Nat.toDigits 16 value :=
  String.toList_ofList

/-- The number that some digits write, the first of them the highest. -/
def numberOf (digits : List Char) : Nat :=
  digits.foldl (fun number digit => 16 * number + (value? (UInt8.ofNat digit.toNat)).getD 0) 0

theorem numberOf_toDigits (number : Nat) : numberOf (Nat.toDigits 16 number) = number := by
  have hDigit : ∀ value < 16, value? (UInt8.ofNat (Nat.digitChar value).toNat) = some value := by
    decide
  induction number using Nat.strongRecOn with
  | ind number ih =>
      rw [Nat.toDigits_eq_if (by decide)]
      split
      · rename_i hSmall
        simp [numberOf, hDigit number hSmall]
      · have hLast := hDigit (number % 16) (by omega)
        rw [numberOf, List.foldl_append, ← numberOf, ih (number / 16) (by omega), List.foldl_cons,
          List.foldl_nil, hLast, Option.getD_some]
        omega

theorem not_mem_toDigits {char : Char} (hOther : ∀ value < 16, Nat.digitChar value ≠ char)
    (number : Nat) : char ∉ Nat.toDigits 16 number := by
  induction number using Nat.strongRecOn with
  | ind number ih =>
      rw [Nat.toDigits_eq_if (by decide)]
      split
      · rename_i hSmall
        simpa using (hOther number hSmall).symm
      · rw [List.mem_append, List.mem_singleton, not_or]
        exact ⟨ih (number / 16) (by omega), (hOther (number % 16) (by omega)).symm⟩

end Hex

end SnpGuest
