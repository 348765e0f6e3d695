namespace SnpGuest

/-!
# Byte strings

`Bytes` is a byte string of any length and `Block n` one whose length is part of its type.
Fixed-size structures are blocks on the wire, so a slice of a block and a write into a block keep
the length by construction.  Bytes that come from outside become a block through `Block.ofList?`
only.
-/

/-- A byte string of any length. -/
abbrev Bytes := List UInt8

namespace Bytes

/-- Writes `new` over the bytes of `old` from `offset` on. -/
def overwrite (old : Bytes) (offset : Nat) (new : Bytes) : Bytes :=
  old.take offset ++ (new ++ old.drop (offset + new.length))

theorem length_overwrite {old new : Bytes} {offset : Nat}
    (hFits : offset + new.length ≤ old.length) :
    (overwrite old offset new).length = old.length := by
  simp only [overwrite, List.length_append, List.length_take, List.length_drop]
  omega

/-- Cuts a byte string to `n` bytes, or fills it up with zeros on the right. -/
def resize (n : Nat) (bytes : Bytes) : Bytes :=
  bytes.take n ++ List.replicate (n - bytes.length) 0

@[simp] theorem length_resize (n : Nat) (bytes : Bytes) : (resize n bytes).length = n := by
  simp only [resize, List.length_append, List.length_take, List.length_replicate]
  omega

theorem resize_of_le {n : Nat} {bytes : Bytes} (hLong : n ≤ bytes.length) :
    resize n bytes = bytes.take n := by
  rw [resize, Nat.sub_eq_zero_of_le hLong, List.replicate_zero, List.append_nil]

theorem resize_eq_append {n : Nat} {bytes : Bytes} (hShort : bytes.length ≤ n) :
    resize n bytes = bytes ++ List.replicate (n - bytes.length) 0 := by
  rw [resize, List.take_of_length_le hShort]

def isZero (bytes : Bytes) : Bool :=
  bytes.all (· == 0)

/-! ## Ranges -/

/-- A range inside the first of two byte strings is a range of the first alone. -/
theorem take_drop_append {first : Bytes} {offset width : Nat}
    (hInside : offset + width ≤ first.length) (second : Bytes) :
    ((first ++ second).drop offset).take width = (first.drop offset).take width := by
  rw [List.drop_append_of_le_length (by omega), List.take_append_of_le_length]
  rw [List.length_drop]
  omega

/-- Byte strings that agree in front and in the range behind agree up to the end of the range. -/
theorem take_add_congr {left right : Bytes} {offset width : Nat}
    (hFront : left.take offset = right.take offset)
    (hRange : (left.drop offset).take width = (right.drop offset).take width) :
    left.take (offset + width) = right.take (offset + width) := by
  rw [List.take_add, List.take_add, hFront, hRange]

/-- Writing into the middle one of three byte strings. -/
theorem overwrite_append (front : Bytes) {middle new : Bytes} {offset : Nat}
    (hInside : offset + new.length ≤ middle.length) (back : Bytes) :
    overwrite (front ++ (middle ++ back)) (front.length + offset) new =
      front ++ (overwrite middle offset new ++ back) := by
  have hBefore : (front ++ (middle ++ back)).take (front.length + offset) =
      front ++ middle.take offset := by
    rw [List.take_length_add_append, List.take_append_of_le_length (by omega)]
  have hBehind : (front ++ (middle ++ back)).drop (front.length + offset + new.length) =
      middle.drop (offset + new.length) ++ back := by
    rw [Nat.add_assoc, List.drop_length_add_append, List.drop_append_of_le_length hInside]
  simp only [overwrite, hBefore, hBehind, List.append_assoc]

/-- What lies behind the written bytes stays. -/
theorem drop_overwrite {old new : Bytes} {offset count : Nat}
    (hInside : offset + new.length ≤ old.length) (hBehind : offset + new.length ≤ count) :
    (overwrite old offset new).drop count = old.drop count := by
  obtain ⟨rest, rfl⟩ := Nat.exists_eq_add_of_le hBehind
  have hFront : (old.take offset ++ new).length = offset + new.length := by
    rw [List.length_append, List.length_take]
    omega
  rw [← List.drop_drop, overwrite, ← List.append_assoc, List.drop_left' hFront, List.drop_drop]

end Bytes

/-- A byte string of length `n`. -/
@[ext]
structure Block (n : Nat) where
  toList : Bytes
  length_toList : toList.length = n
deriving DecidableEq

attribute [simp] Block.length_toList

namespace Block

variable {m n : Nat}

/-- Accepts a byte string of exactly the wanted length. -/
def ofList? (n : Nat) (bytes : Bytes) : Option (Block n) :=
  if hLength : bytes.length = n then some ⟨bytes, hLength⟩ else none

theorem ofList?_eq_some_iff {bytes : Bytes} {block : Block n} :
    ofList? n bytes = some block ↔ block.toList = bytes := by
  constructor
  · intro hSome
    unfold ofList? at hSome
    split at hSome
    · simp only [Option.some.injEq] at hSome
      rw [← hSome]
    · simp at hSome
  · rintro rfl
    simp [ofList?]

def zero (n : Nat) : Block n :=
  ⟨List.replicate n 0, List.length_replicate⟩

instance : Inhabited (Block n) := ⟨zero n⟩

@[simp] theorem toList_zero (n : Nat) : (zero n).toList = List.replicate n 0 := rfl

/-- The first `n` bytes, zero-padded on the right when there are fewer. -/
def padded (n : Nat) (bytes : Bytes) : Block n :=
  ⟨bytes.resize n, Bytes.length_resize n bytes⟩

theorem toList_padded_of_le {bytes : Bytes} (hLong : n ≤ bytes.length) :
    (padded n bytes).toList = bytes.take n :=
  Bytes.resize_of_le hLong

theorem padded_take (n : Nat) (bytes : Bytes) : padded n (bytes.take n) = padded n bytes := by
  rcases Nat.le_total n bytes.length with hLong | hShort
  · have hTaken : n ≤ (bytes.take n).length := by
      rw [List.length_take]
      omega
    apply Block.ext
    rw [toList_padded_of_le hLong, toList_padded_of_le hTaken, List.take_take, Nat.min_self]
  · rw [List.take_of_length_le hShort]

theorem padded_append_of_le {bytes : Bytes} (hLong : n ≤ bytes.length) (rest : Bytes) :
    padded n (bytes ++ rest) = padded n bytes := by
  have hLonger : n ≤ (bytes ++ rest).length := by
    rw [List.length_append]
    omega
  apply Block.ext
  rw [toList_padded_of_le hLong, toList_padded_of_le hLonger,
    List.take_append_of_le_length hLong]

/-- A block is read back from its bytes, whatever follows them. -/
theorem padded_append (block : Block n) (rest : Bytes) :
    padded n (block.toList ++ rest) = block := by
  apply Block.ext
  rw [toList_padded_of_le (by simp), List.take_left' block.length_toList]

def isZero (block : Block n) : Bool :=
  Bytes.isZero block.toList

def reverse (block : Block n) : Block n :=
  ⟨block.toList.reverse, by simp⟩

@[simp] theorem toList_reverse (block : Block n) : block.reverse.toList = block.toList.reverse :=
  rfl

def append (left : Block m) (right : Block n) : Block (m + n) :=
  ⟨left.toList ++ right.toList, by simp⟩

@[simp] theorem toList_append (left : Block m) (right : Block n) :
    (left.append right).toList = left.toList ++ right.toList :=
  rfl

/-- The `width` bytes from `offset` on. -/
def slice (block : Block n) (offset width : Nat) (hFits : offset + width ≤ n) : Block width :=
  ⟨(block.toList.drop offset).take width, by simp; omega⟩

/-- Replaces the bytes from `offset` on by those of `new`. -/
def overwrite (block : Block n) (offset : Nat) (new : Block m) (hFits : offset + m ≤ n) :
    Block n :=
  ⟨block.toList.overwrite offset new.toList, by rw [Bytes.length_overwrite] <;> simp [hFits]⟩

/-- Replaces the bytes from `offset` on by `new`, if these lie inside the block. -/
def overwrite? (block : Block n) (offset : Nat) (new : Bytes) : Option (Block n) :=
  if hFits : offset + new.length ≤ n then some (block.overwrite offset ⟨new, rfl⟩ hFits)
  else none

/-! ## Slices -/

theorem slice_append_of_le (left : Block m) (right : Block n) {offset width : Nat}
    (hInside : offset + width ≤ m) :
    (left.append right).slice offset width (by omega) = left.slice offset width hInside := by
  apply Block.ext
  exact Bytes.take_drop_append (by rw [left.length_toList]; exact hInside) right.toList

theorem slice_append_right (left : Block m) (right : Block n) :
    (left.append right).slice m n (Nat.le_refl _) = right := by
  apply Block.ext
  show ((left.toList ++ right.toList).drop m).take n = right.toList
  rw [List.drop_left' left.length_toList, List.take_of_length_le (by simp)]

/-- Two slices next to one another are one. -/
theorem append_slice (block : Block n) {offset first second : Nat}
    (hInside : offset + (first + second) ≤ n) :
    (block.slice offset first (by omega)).append
        (block.slice (offset + first) second (by omega)) =
      block.slice offset (first + second) hInside := by
  apply Block.ext
  show (block.toList.drop offset).take first ++ (block.toList.drop (offset + first)).take second = _
  rw [← List.drop_drop, ← List.take_add]
  rfl

theorem slice_all (block : Block n) : block.slice 0 n (by omega) = block := by
  apply Block.ext
  show (block.toList.drop 0).take n = block.toList
  rw [List.drop_zero, List.take_of_length_le (by simp)]

/-- A slice hangs on no byte behind its end. -/
theorem slice_congr {count offset width : Nat} {left right : Block n}
    (hFront : left.toList.take count = right.toList.take count) (hInside : offset + width ≤ count)
    (hFits : offset + width ≤ n) :
    left.slice offset width hFits = right.slice offset width hFits := by
  have hPart : ∀ block : Block n, (block.slice offset width hFits).toList =
      ((block.toList.take count).drop offset).take width := by
    intro block
    rw [List.drop_take, List.take_take, Nat.min_eq_left (by omega)]
    rfl
  apply Block.ext
  rw [hPart, hPart, hFront]

end Block

end SnpGuest
