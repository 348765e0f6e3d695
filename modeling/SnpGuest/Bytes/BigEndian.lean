import SnpGuest.Bytes.LittleEndian

namespace SnpGuest

/-!
# Big-endian numbers

A big-endian number is a little-endian one read backwards, so each law here is the little-endian
law under `List.reverse`.  Leading zero bytes carry no value: `significant` drops them, and what is
left is as short as the number allows.
-/

namespace BigEndian

/-- The `w` low bytes of `value`, high byte first. -/
def encode (w value : Nat) : Bytes :=
  (LittleEndian.encode w value).reverse

/-- The number whose bytes, high byte first, are given. -/
def decode (bytes : Bytes) : Nat :=
  LittleEndian.decode bytes.reverse

@[simp] theorem length_encode (w value : Nat) : (encode w value).length = w := by
  simp [encode]

theorem decode_encode (w value : Nat) : decode (encode w value) = value % LittleEndian.bound w := by
  simp [encode, decode, LittleEndian.decode_encode]

theorem encode_decode (bytes : Bytes) : encode bytes.length (decode bytes) = bytes := by
  have hReversed := LittleEndian.encode_decode bytes.reverse
  rw [List.length_reverse] at hReversed
  rw [encode, decode, hReversed, List.reverse_reverse]

theorem decode_lt (bytes : Bytes) : decode bytes < LittleEndian.bound bytes.length := by
  have hReversed := LittleEndian.decode_lt bytes.reverse
  rwa [List.length_reverse] at hReversed

/-- The bytes after the leading zeros. -/
def significant (bytes : Bytes) : Bytes :=
  bytes.dropWhile (· == 0)

theorem decode_significant (bytes : Bytes) : decode (significant bytes) = decode bytes := by
  induction bytes with
  | nil => rfl
  | cons byte bytes ih =>
    by_cases hByte : byte = 0
    · subst hByte
      have hStep : significant (0 :: bytes) = significant bytes := by simp [significant]
      rw [hStep, ih]
      simp [decode, LittleEndian.decode_append, LittleEndian.decode]
    · simp [significant, hByte]

end BigEndian

end SnpGuest
