import Mathlib.Algebra.GroupWithZero.Nat
import SnpGuest.Report.Signature

namespace SnpGuest

/-!
# Embedded components as numbers

A component comes as a big-endian number of any length, is kept as a little-endian one of 72 bytes,
and goes out as a big-endian one of 48.  At every stage it is the same number; the widths only
decide whether it gets there.  The laws here are stated over values, so leading zeros and old
contents of a field do not come up in them.

Storing is not all or nothing: a second component that does not fit leaves the first one stored.
-/

namespace LittleEndian

/-- The bound of a width, in bits. -/
theorem bound_eq_pow (w : Nat) : bound w = 2 ^ (8 * w) := by
  induction w with
  | zero => rfl
  | succ w ih => rw [bound, ih, Nat.mul_succ, Nat.pow_add, Nat.mul_comm]

theorem bound_le_bound {v w : Nat} (hLe : v ≤ w) : bound v ≤ bound w := by
  obtain ⟨rest, rfl⟩ := Nat.exists_eq_add_of_le hLe
  rw [bound_add]
  exact Nat.le_mul_of_pos_right (bound v) (bound_pos rest)

theorem isZero_iff (bytes : Bytes) : bytes.isZero = true ↔ decode bytes = 0 := by
  induction bytes with
  | nil => exact ⟨fun _ => rfl, fun _ => rfl⟩
  | cons byte bytes ih =>
      have hByte : byte = 0 ↔ byte.toNat = 0 := UInt8.toNat_inj.symm
      have hSplit : Bytes.isZero (byte :: bytes) = true ↔
          byte = 0 ∧ Bytes.isZero bytes = true := by
        simp [Bytes.isZero]
      rw [hSplit, ih, hByte, decode]
      omega

theorem decode_append_zeros (bytes : Bytes) (count : Nat) :
    decode (bytes ++ List.replicate count 0) = decode bytes := by
  rw [decode_append, decode_zeros, Nat.mul_zero, Nat.add_zero]

end LittleEndian

namespace BigEndian

theorem decode_reverse (bytes : Bytes) : decode bytes.reverse = LittleEndian.decode bytes := by
  rw [decode, List.reverse_reverse]

/-- A number with a leading byte other than zero needs all of its bytes. -/
theorem bound_le_decode {byte : UInt8} (hByte : byte ≠ 0) (bytes : Bytes) :
    LittleEndian.bound bytes.length ≤ decode (byte :: bytes) := by
  have hOne : 1 ≤ byte.toNat := by
    rw [Nat.one_le_iff_ne_zero]
    exact fun hZero => hByte (UInt8.toNat_inj.mp hZero)
  rw [decode, List.reverse_cons, LittleEndian.decode_append, List.length_reverse]
  have hHigh : LittleEndian.decode [byte] = byte.toNat := by simp [LittleEndian.decode]
  rw [hHigh]
  exact Nat.le_add_left_of_le (Nat.le_mul_of_pos_right _ hOne)

/-- The bytes after the leading zeros are as few as the number allows. -/
theorem length_significant_le {bytes : Bytes} {w : Nat}
    (hSmall : decode bytes < LittleEndian.bound w) : (significant bytes).length ≤ w := by
  rw [← decode_significant] at hSmall
  cases hBytes : significant bytes with
  | nil => exact Nat.zero_le w
  | cons byte rest =>
      have hByte : byte ≠ 0 := by
        have hHead := List.head?_dropWhile_not (· == (0 : UInt8)) bytes
        rw [← significant, hBytes] at hHead
        simpa using hHead
      rw [hBytes] at hSmall
      have hNeeds := bound_le_decode hByte rest
      rcases Nat.lt_or_ge rest.length w with hShort | hLong
      · exact hShort
      · have hMono := LittleEndian.bound_le_bound hLong
        omega

theorem length_significant_le_iff (bytes : Bytes) (w : Nat) :
    (significant bytes).length ≤ w ↔ decode bytes < LittleEndian.bound w := by
  constructor
  · intro hShort
    rw [← decode_significant]
    exact Nat.lt_of_lt_of_le (decode_lt _) (LittleEndian.bound_le_bound hShort)
  · exact length_significant_le

end BigEndian

/-! A block is determined by its number, in either order of its bytes. -/

theorem Block.toNat_injective {n : Nat} {left right : Block n}
    (hSame : left.toNat = right.toNat) : left = right := by
  rw [← ofNat_toNat left, hSame, ofNat_toNat]

theorem Block.decode_injective {n : Nat} {left right : Block n}
    (hSame : BigEndian.decode left.toList = BigEndian.decode right.toList) : left = right := by
  have hLeft := BigEndian.encode_decode left.toList
  rw [left.length_toList, hSame] at hLeft
  have hRight := BigEndian.encode_decode right.toList
  rw [right.length_toList] at hRight
  exact Block.ext (hLeft.symm.trans hRight)

theorem Block.toNat_padded {n : Nat} {bytes : Bytes} (hFits : bytes.length ≤ n) :
    (Block.padded n bytes).toNat = LittleEndian.decode bytes := by
  show LittleEndian.decode (Bytes.resize n bytes) = _
  rw [Bytes.resize_eq_append hFits, LittleEndian.decode_append_zeros]

namespace SignatureArea

/-! ## One component -/

/-- The field with a number, if there is one: the number decides it. -/
theorem field_eq_ok_iff (component : Bytes) (stored : Block 72) :
    field component = .ok stored ↔ stored.toNat = BigEndian.decode component := by
  have hPadded : (BigEndian.significant component).length ≤ 72 →
      (Block.padded 72 (BigEndian.significant component).reverse).toNat =
        BigEndian.decode component := by
    intro hLength
    rw [Block.toNat_padded (by simpa using hLength), ← BigEndian.decode_significant,
      BigEndian.decode]
  constructor
  · intro hField
    rw [field] at hField
    split at hField
    case isTrue hLength =>
      rw [← Except.ok.inj hField]
      exact hPadded hLength
    case isFalse => cases hField
  · intro hValue
    have hSmall := stored.toNat_lt
    rw [hValue] at hSmall
    have hLength := BigEndian.length_significant_le hSmall
    rw [field, if_pos hLength]
    exact congrArg Except.ok (Block.toNat_injective ((hPadded hLength).trans hValue.symm))

/-- A field takes every number that 72 bytes can hold. -/
theorem exists_field {component : Bytes}
    (hSmall : BigEndian.decode component < LittleEndian.bound 72) :
    ∃ stored, field component = .ok stored ∧ stored.toNat = BigEndian.decode component := by
  have hValue := Block.toNat_ofNat 72 (BigEndian.decode component)
  rw [Nat.mod_eq_of_lt hSmall] at hValue
  exact ⟨_, (field_eq_ok_iff component _).mpr hValue, hValue⟩

theorem field_of_large {component : Bytes}
    (hLarge : LittleEndian.bound 72 ≤ BigEndian.decode component) :
    field component = .error .doesNotFit := by
  have hLength : ¬ (BigEndian.significant component).length ≤ 72 := by
    rw [BigEndian.length_significant_le_iff]
    exact Nat.not_lt.mpr hLarge
  rw [field, if_neg hLength]

/-- The number of a field from its 48 low bytes and the 24 above them. -/
theorem toNat_halves (stored : Block 72) :
    stored.toNat = BigEndian.decode (stored.slice 0 48 (by decide)).reverse.toList +
      LittleEndian.bound 48 * (stored.slice 48 24 (by decide)).toNat := by
  have hLow : (stored.toList.take 48).length = 48 := by simp
  have hHigh : (stored.toList.drop 48).take 24 = stored.toList.drop 48 :=
    List.take_of_length_le (by simp)
  have hAppend := LittleEndian.decode_append (stored.toList.take 48) (stored.toList.drop 48)
  rw [List.take_append_drop, hLow] at hAppend
  rw [Block.toList_reverse, BigEndian.decode_reverse]
  show stored.toNat = LittleEndian.decode (stored.toList.take 48) +
    LittleEndian.bound 48 * LittleEndian.decode ((stored.toList.drop 48).take 24)
  rw [hHigh]
  exact hAppend

/-- The upper bytes are zero exactly if a scalar has room for the number. -/
theorem isZero_upper_iff (stored : Block 72) :
    (stored.slice 48 24 (by decide)).isZero = true ↔
      stored.toNat < LittleEndian.bound 48 := by
  have hHalves := toNat_halves stored
  have hLow := BigEndian.decode_lt (stored.slice 0 48 (by decide)).reverse.toList
  rw [Block.length_toList] at hLow
  have hZero : (stored.slice 48 24 (by decide)).isZero = true ↔
      (stored.slice 48 24 (by decide)).toNat = 0 := LittleEndian.isZero_iff _
  rw [hZero]
  constructor
  · intro hNone
    rw [hNone, Nat.mul_zero] at hHalves
    omega
  · intro hSmall
    rcases Nat.eq_zero_or_pos (stored.slice 48 24 (by decide)).toNat with hNone | hSome
    · exact hNone
    · have hMany := Nat.le_mul_of_pos_right (LittleEndian.bound 48) hSome
      omega

theorem decode_lower {stored : Block 72}
    (hZero : (stored.slice 48 24 (by decide)).isZero = true) :
    BigEndian.decode (stored.slice 0 48 (by decide)).reverse.toList = stored.toNat := by
  have hHalves := toNat_halves stored
  have hNone : (stored.slice 48 24 (by decide)).toNat = 0 := (LittleEndian.isZero_iff _).mp hZero
  rw [hNone, Nat.mul_zero] at hHalves
  omega

/-- A field gives its number as a scalar or not at all. -/
theorem scalar_eq_ok_iff (stored : Block 72) (component : Block 48) :
    scalar stored = .ok component ↔ BigEndian.decode component.toList = stored.toNat := by
  constructor
  · intro hScalar
    rw [scalar] at hScalar
    split at hScalar
    case isTrue hZero =>
      rw [← Except.ok.inj hScalar]
      exact decode_lower hZero
    case isFalse => cases hScalar
  · intro hValue
    have hSmall := BigEndian.decode_lt component.toList
    rw [component.length_toList, hValue] at hSmall
    have hZero := (isZero_upper_iff stored).mpr hSmall
    rw [scalar, if_pos hZero]
    exact congrArg Except.ok (Block.decode_injective ((decode_lower hZero).trans hValue.symm))

theorem scalar_of_large {stored : Block 72}
    (hLarge : LittleEndian.bound 48 ≤ stored.toNat) :
    scalar stored = .error .longerThanScalar := by
  have hSome : ¬ (stored.slice 48 24 (by decide)).isZero = true := by
    rw [isZero_upper_iff]
    exact Nat.not_lt.mpr hLarge
  rw [scalar, if_neg hSome]

theorem exists_scalar {stored : Block 72} (hSmall : stored.toNat < LittleEndian.bound 48) :
    ∃ component, scalar stored = .ok component ∧
      component.toList = BigEndian.encode 48 stored.toNat := by
  have hValue := BigEndian.decode_encode 48 stored.toNat
  rw [Nat.mod_eq_of_lt hSmall] at hValue
  exact ⟨⟨_, BigEndian.length_encode 48 stored.toNat⟩, (scalar_eq_ok_iff _ _).mpr hValue, rfl⟩

/-! ## Both components -/

theorem scalars_eq_ok_iff (signature : SignatureArea) (r s : Block 48) :
    signature.scalars = .ok (r, s) ↔
      scalar signature.r = .ok r ∧ scalar signature.s = .ok s := by
  rw [scalars]
  cases scalar signature.r <;> cases scalar signature.s <;>
    simp [bind, Except.bind, pure, Except.pure]

theorem scalars_of_large {signature : SignatureArea}
    (hLarge : LittleEndian.bound 48 ≤ signature.r.toNat ∨
      LittleEndian.bound 48 ≤ signature.s.toNat) :
    signature.scalars = .error .longerThanScalar := by
  rcases hLarge with hR | hS
  · rw [scalars, scalar_of_large hR]
    rfl
  · rw [scalars, scalar_of_large hS]
    rcases Nat.lt_or_ge signature.r.toNat (LittleEndian.bound 48) with hSmall | hLarge
    · obtain ⟨component, hScalar, -⟩ := exists_scalar hSmall
      rw [hScalar]
      rfl
    · rw [scalar_of_large hLarge]
      rfl

theorem embed_of_fields (signature : SignatureArea) {r s : Bytes} {storedR storedS : Block 72}
    (hR : field r = .ok storedR) (hS : field s = .ok storedS) :
    signature.embed r s = (.ok (), { signature with r := storedR, s := storedS }) := by
  simp [embed, hR, hS]

theorem embed_of_unfit_first (signature : SignatureArea) {r : Bytes} (s : Bytes)
    (hR : field r = .error .doesNotFit) :
    signature.embed r s = (.error .doesNotFit, signature) := by
  simp [embed, hR]

theorem embed_of_unfit_second (signature : SignatureArea) {r s : Bytes} {storedR : Block 72}
    (hR : field r = .ok storedR) (hS : field s = .error .doesNotFit) :
    signature.embed r s = (.error .doesNotFit, { signature with r := storedR }) := by
  simp [embed, hR, hS]

/-- What is read back can be embedded again, and that changes nothing. -/
theorem embed_of_scalars {signature : SignatureArea} {r s : Block 48}
    (hScalars : signature.scalars = .ok (r, s)) :
    signature.embed r.toList s.toList = (.ok (), signature) := by
  obtain ⟨hR, hS⟩ := (scalars_eq_ok_iff signature r s).mp hScalars
  rw [scalar_eq_ok_iff] at hR hS
  exact embed_of_fields signature ((field_eq_ok_iff _ _).mpr hR.symm)
    ((field_eq_ok_iff _ _).mpr hS.symm)

/-- Components of 48 bytes can be embedded into every signature area.  They are read back as they
came, the reserved bytes stay, and embedding them once more changes nothing. -/
theorem exists_embed (signature : SignatureArea) (r s : Block 48) :
    ∃ embedded : SignatureArea,
      signature.embed r.toList s.toList = (.ok (), embedded) ∧
      embedded.reserved = signature.reserved ∧
      embedded.scalars = .ok (r, s) ∧
      embedded.embed r.toList s.toList = (.ok (), embedded) := by
  have hStored : ∀ component : Block 48, ∃ stored, field component.toList = .ok stored ∧
      scalar stored = .ok component := by
    intro component
    have hSmall := BigEndian.decode_lt component.toList
    rw [component.length_toList] at hSmall
    have hRoom : LittleEndian.bound 48 ≤ LittleEndian.bound 72 :=
      LittleEndian.bound_le_bound (by decide)
    obtain ⟨stored, hField, hValue⟩ := exists_field (Nat.lt_of_lt_of_le hSmall hRoom)
    exact ⟨stored, hField, (scalar_eq_ok_iff stored component).mpr hValue.symm⟩
  obtain ⟨storedR, hR, hScalarR⟩ := hStored r
  obtain ⟨storedS, hS, hScalarS⟩ := hStored s
  have hScalars : SignatureArea.scalars { signature with r := storedR, s := storedS } =
      .ok (r, s) := (scalars_eq_ok_iff _ r s).mpr ⟨hScalarR, hScalarS⟩
  exact ⟨_, embed_of_fields signature hR hS, rfl, hScalars, embed_of_scalars hScalars⟩

/-- For any signature area and any two components, read as big-endian numbers.  Embedding succeeds
exactly if 72 bytes can hold both.  Then the fields hold just these numbers, the reserved bytes
stay, and reading back gives the numbers in 48 bytes each, or fails if 48 bytes cannot hold one of
them.  A first component that does not fit leaves everything as it was; a second one leaves the
first stored.  What can be read back from an area can be embedded there again without a change. -/
theorem embed_numbers (signature : SignatureArea) (r s : Bytes) :
    let first := BigEndian.decode r
    let second := BigEndian.decode s
    let outcome := signature.embed r s
    (outcome.1 = .ok () ↔ first < 2 ^ (8 * 72) ∧ second < 2 ^ (8 * 72)) ∧
    (first < 2 ^ (8 * 72) → second < 2 ^ (8 * 72) →
      outcome.2.r.toNat = first ∧ outcome.2.s.toNat = second ∧
      outcome.2.reserved = signature.reserved ∧
      (first < 2 ^ (8 * 48) ∧ second < 2 ^ (8 * 48) →
        ∃ r48 s48 : Block 48, outcome.2.scalars = .ok (r48, s48) ∧
          r48.toList = BigEndian.encode 48 first ∧ s48.toList = BigEndian.encode 48 second) ∧
      (¬ (first < 2 ^ (8 * 48) ∧ second < 2 ^ (8 * 48)) →
        outcome.2.scalars = .error .longerThanScalar)) ∧
    (2 ^ (8 * 72) ≤ first → outcome = (.error .doesNotFit, signature)) ∧
    (first < 2 ^ (8 * 72) → 2 ^ (8 * 72) ≤ second →
      outcome.1 = .error .doesNotFit ∧ outcome.2.r.toNat = first ∧
      outcome.2.s = signature.s ∧ outcome.2.reserved = signature.reserved) ∧
    ∀ r48 s48, signature.scalars = .ok (r48, s48) →
      signature.embed r48.toList s48.toList = (.ok (), signature) := by
  intro first second outcome
  simp only [← LittleEndian.bound_eq_pow]
  have hFirst : LittleEndian.bound 72 ≤ first → outcome = (.error .doesNotFit, signature) :=
    fun hLarge => embed_of_unfit_first signature s (field_of_large hLarge)
  have hSecond : first < LittleEndian.bound 72 → LittleEndian.bound 72 ≤ second →
      ∃ stored : Block 72, stored.toNat = first ∧
        outcome = (.error .doesNotFit, { signature with r := stored }) := by
    intro hSmall hLarge
    obtain ⟨stored, hField, hValue⟩ := exists_field hSmall
    exact ⟨stored, hValue, embed_of_unfit_second signature hField (field_of_large hLarge)⟩
  have hBoth : first < LittleEndian.bound 72 → second < LittleEndian.bound 72 →
      ∃ storedR storedS : Block 72, storedR.toNat = first ∧ storedS.toNat = second ∧
        outcome = (.ok (), { signature with r := storedR, s := storedS }) := by
    intro hSmallR hSmallS
    obtain ⟨storedR, hR, hValueR⟩ := exists_field hSmallR
    obtain ⟨storedS, hS, hValueS⟩ := exists_field hSmallS
    exact ⟨storedR, storedS, hValueR, hValueS, embed_of_fields signature hR hS⟩
  refine ⟨⟨fun hOk => ?_, fun ⟨hSmallR, hSmallS⟩ => ?_⟩, fun hSmallR hSmallS => ?_, hFirst,
    fun hSmall hLarge => ?_, fun _ _ => embed_of_scalars⟩
  · rcases Nat.lt_or_ge first (LittleEndian.bound 72) with hSmallR | hLargeR
    · rcases Nat.lt_or_ge second (LittleEndian.bound 72) with hSmallS | hLargeS
      · exact ⟨hSmallR, hSmallS⟩
      · obtain ⟨stored, -, hOutcome⟩ := hSecond hSmallR hLargeS
        rw [hOutcome] at hOk
        cases hOk
    · rw [hFirst hLargeR] at hOk
      cases hOk
  · obtain ⟨_, _, -, -, hOutcome⟩ := hBoth hSmallR hSmallS
    rw [hOutcome]
  · obtain ⟨storedR, storedS, hValueR, hValueS, hOutcome⟩ := hBoth hSmallR hSmallS
    rw [hOutcome]
    refine ⟨hValueR, hValueS, rfl, fun ⟨hScalarR, hScalarS⟩ => ?_, fun hLarge => ?_⟩
    · obtain ⟨r48, hR, hBytesR⟩ := exists_scalar (hValueR.symm ▸ hScalarR)
      obtain ⟨s48, hS, hBytesS⟩ := exists_scalar (hValueS.symm ▸ hScalarS)
      rw [hValueR] at hBytesR
      rw [hValueS] at hBytesS
      exact ⟨r48, s48, (scalars_eq_ok_iff _ _ _).mpr ⟨hR, hS⟩, hBytesR, hBytesS⟩
    · apply scalars_of_large
      simp only [hValueR, hValueS]
      omega
  · obtain ⟨stored, hValue, hOutcome⟩ := hSecond hSmall hLarge
    rw [hOutcome]
    exact ⟨rfl, hValue, rfl, rfl⟩

end SignatureArea

end SnpGuest
