import SnpGuest.Bytes.Basic

namespace SnpGuest

/-!
# Little-endian numbers

A number of `w` bytes is written with its low byte first.  There are `bound w` such numbers.
Writing keeps the number modulo that bound; reading and then writing at the same width gives the
bytes back.  The fixed-width integers of a packed structure are read from and written to blocks of
1, 2, 4 and 8 bytes.
-/

namespace LittleEndian

/-- How many numbers `w` bytes can hold: the powers of 256. -/
def bound : Nat → Nat
  | 0 => 1
  | w + 1 => 256 * bound w

theorem bound_pos (w : Nat) : 0 < bound w := by
  induction w with
  | zero => decide
  | succ w ih => rw [bound]; omega

theorem bound_add (v w : Nat) : bound (v + w) = bound v * bound w := by
  induction v with
  | zero => simp [bound]
  | succ v ih => rw [Nat.succ_add, bound, ih, bound, Nat.mul_assoc]

/-- The `w` low bytes of `value`, low byte first. -/
def encode : Nat → Nat → Bytes
  | 0, _ => []
  | w + 1, value => UInt8.ofNat value :: encode w (value / 256)

/-- The number whose bytes, low byte first, are given. -/
def decode : Bytes → Nat
  | [] => 0
  | byte :: bytes => byte.toNat + 256 * decode bytes

@[simp] theorem length_encode (w value : Nat) : (encode w value).length = w := by
  induction w generalizing value with
  | zero => rfl
  | succ w ih => simp [encode, ih]

theorem decode_encode (w value : Nat) : decode (encode w value) = value % bound w := by
  induction w generalizing value with
  | zero => simp [encode, decode, bound, Nat.mod_one]
  | succ w ih =>
    rw [encode, decode, ih, bound, Nat.mod_mul]
    simp

theorem encode_decode (bytes : Bytes) : encode bytes.length (decode bytes) = bytes := by
  induction bytes with
  | nil => rfl
  | cons byte bytes ih =>
    have hLow : byte.toNat < 256 := byte.toNat_lt
    have hHigh : (byte.toNat + 256 * decode bytes) / 256 = decode bytes := by omega
    have hSame : UInt8.ofNat (byte.toNat + 256 * decode bytes) = byte := by
      apply UInt8.toNat_inj.mp
      rw [UInt8.toNat_ofNat']
      omega
    rw [List.length_cons, encode, decode, hHigh, ih, hSame]

theorem decode_lt (bytes : Bytes) : decode bytes < bound bytes.length := by
  induction bytes with
  | nil => simp [decode, bound]
  | cons byte bytes ih =>
    have hLow : byte.toNat < 256 := byte.toNat_lt
    rw [decode, List.length_cons, bound]
    omega

theorem decode_append (left right : Bytes) :
    decode (left ++ right) = decode left + bound left.length * decode right := by
  induction left with
  | nil => simp [decode, bound]
  | cons byte left ih =>
    rw [List.cons_append, decode, ih, decode, List.length_cons, bound, Nat.mul_add,
      Nat.mul_assoc, Nat.add_assoc]

theorem decode_zeros (count : Nat) : decode (List.replicate count 0) = 0 := by
  induction count with
  | zero => rfl
  | succ count ih => simp [List.replicate_succ, decode, ih]

end LittleEndian

namespace Block

/-- The low `n` bytes of a number. -/
def ofNat (n value : Nat) : Block n :=
  ⟨LittleEndian.encode n value, LittleEndian.length_encode n value⟩

/-- The number that the block holds. -/
def toNat {n : Nat} (block : Block n) : Nat :=
  LittleEndian.decode block.toList

@[simp] theorem toNat_zero (n : Nat) : (zero n).toNat = 0 :=
  LittleEndian.decode_zeros n

theorem toNat_ofNat (n value : Nat) : (ofNat n value).toNat = value % LittleEndian.bound n :=
  LittleEndian.decode_encode n value

theorem ofNat_toNat {n : Nat} (block : Block n) : ofNat n block.toNat = block := by
  apply Block.ext
  have hBytes := LittleEndian.encode_decode block.toList
  rw [block.length_toList] at hBytes
  exact hBytes

theorem toNat_lt {n : Nat} (block : Block n) : block.toNat < LittleEndian.bound n := by
  have hBytes := LittleEndian.decode_lt block.toList
  rwa [block.length_toList] at hBytes

def ofUInt8 (value : UInt8) : Block 1 :=
  ⟨[value], rfl⟩

def toUInt8 (block : Block 1) : UInt8 :=
  UInt8.ofNat block.toNat

def ofUInt16 (value : UInt16) : Block 2 :=
  ofNat 2 value.toNat

def toUInt16 (block : Block 2) : UInt16 :=
  UInt16.ofNat block.toNat

def ofUInt32 (value : UInt32) : Block 4 :=
  ofNat 4 value.toNat

def toUInt32 (block : Block 4) : UInt32 :=
  UInt32.ofNat block.toNat

def ofUInt64 (value : UInt64) : Block 8 :=
  ofNat 8 value.toNat

def toUInt64 (block : Block 8) : UInt64 :=
  UInt64.ofNat block.toNat

@[simp] theorem toUInt8_ofUInt8 (value : UInt8) : (ofUInt8 value).toUInt8 = value := by
  simp [ofUInt8, toUInt8, toNat, LittleEndian.decode]

@[simp] theorem ofUInt8_toUInt8 (block : Block 1) : ofUInt8 block.toUInt8 = block := by
  obtain ⟨bytes, hLength⟩ := block
  obtain ⟨byte, rfl⟩ := List.length_eq_one_iff.mp hLength
  exact congrArg ofUInt8 (toUInt8_ofUInt8 byte)

@[simp] theorem toUInt16_ofUInt16 (value : UInt16) : (ofUInt16 value).toUInt16 = value := by
  have hSmall : value.toNat < LittleEndian.bound 2 := by
    simpa [LittleEndian.bound] using value.toNat_lt
  rw [toUInt16, ofUInt16, toNat_ofNat, Nat.mod_eq_of_lt hSmall]
  simp

@[simp] theorem ofUInt16_toUInt16 (block : Block 2) : ofUInt16 block.toUInt16 = block := by
  have hSmall : block.toNat < 2 ^ 16 := by
    simpa [LittleEndian.bound] using block.toNat_lt
  rw [ofUInt16, toUInt16, UInt16.toNat_ofNat', Nat.mod_eq_of_lt hSmall, ofNat_toNat]

@[simp] theorem toUInt32_ofUInt32 (value : UInt32) : (ofUInt32 value).toUInt32 = value := by
  have hSmall : value.toNat < LittleEndian.bound 4 := by
    simpa [LittleEndian.bound] using value.toNat_lt
  rw [toUInt32, ofUInt32, toNat_ofNat, Nat.mod_eq_of_lt hSmall]
  simp

@[simp] theorem ofUInt32_toUInt32 (block : Block 4) : ofUInt32 block.toUInt32 = block := by
  have hSmall : block.toNat < 2 ^ 32 := by
    simpa [LittleEndian.bound] using block.toNat_lt
  rw [ofUInt32, toUInt32, UInt32.toNat_ofNat', Nat.mod_eq_of_lt hSmall, ofNat_toNat]

@[simp] theorem toUInt64_ofUInt64 (value : UInt64) : (ofUInt64 value).toUInt64 = value := by
  have hSmall : value.toNat < LittleEndian.bound 8 := by
    simpa [LittleEndian.bound] using value.toNat_lt
  rw [toUInt64, ofUInt64, toNat_ofNat, Nat.mod_eq_of_lt hSmall]
  simp

@[simp] theorem ofUInt64_toUInt64 (block : Block 8) : ofUInt64 block.toUInt64 = block := by
  have hSmall : block.toNat < 2 ^ 64 := by
    simpa [LittleEndian.bound] using block.toNat_lt
  rw [ofUInt64, toUInt64, UInt64.toNat_ofNat', Nat.mod_eq_of_lt hSmall, ofNat_toNat]

end Block

end SnpGuest
