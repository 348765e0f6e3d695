import SnpGuest.Text.Quoted
import SnpGuest.Text.Utf8

namespace SnpGuest

/-!
# Hexadecimal text

Bytes are written with two lower-case digits each and no separator.  Reading takes either case.
Main statement: two byte strings with one text are equal.
-/

namespace Hex

/-- The digit for a value below sixteen. -/
def digit (value : Nat) : Char :=
  Char.ofNat (if value < 10 then 48 + value else 87 + value)

/-- The two digits of each byte, high half first. -/
def digits (bytes : Bytes) : List Char :=
  bytes.flatMap fun byte => [digit (byte.toNat / 16), digit (byte.toNat % 16)]

/-- The text of a byte string. -/
def encode (bytes : Bytes) : String :=
  String.ofList (digits bytes)

/-- The shortest hexadecimal text of a number. -/
def number (value : Nat) : String :=
  String.ofList (Nat.toDigits 16 value)

/-- Why a text is not hexadecimal. -/
inductive DecodeError where
  | oddLength
  | invalidDigit (byte : UInt8) (position : Nat)
deriving DecidableEq

def DecodeError.message : DecodeError → String
  | .oddLength => "Odd number of digits"
  | .invalidDigit byte position =>
    "Invalid character " ++ Quoted.byte byte ++ " at position " ++ toString position

/-- The value of a digit of either case. -/
def value? (byte : UInt8) : Option Nat :=
  let code := byte.toNat
  if 48 ≤ code ∧ code ≤ 57 then some (code - 48)
  else if 65 ≤ code ∧ code ≤ 70 then some (code - 55)
  else if 97 ≤ code ∧ code ≤ 102 then some (code - 87)
  else none

def readDigit (position : Nat) (byte : UInt8) : Except DecodeError Nat :=
  match value? byte with
  | some value => .ok value
  | none => .error (.invalidDigit byte position)

/-- Reads digits two at a time; `position` is where the text at hand starts. -/
def readPairs (position : Nat) : Bytes → Except DecodeError Bytes
  | high :: low :: rest => do
    let highValue ← readDigit position high
    let lowValue ← readDigit (position + 1) low
    let bytes ← readPairs (position + 2) rest
    return UInt8.ofNat (16 * highValue + lowValue) :: bytes
  | _ => .ok []

/-- Reads the bytes of a text.  An odd number of bytes is refused before any digit is looked at;
positions count bytes. -/
def decodeBytes (text : Bytes) : Except DecodeError Bytes :=
  if text.length % 2 = 1 then .error .oddLength else readPairs 0 text

def decode (text : String) : Except DecodeError Bytes :=
  decodeBytes (utf8 text)

/-! ## Writing -/

theorem digit_injective_of_lt {a b : Nat} (hLeft : a < 16) (hRight : b < 16)
    (hSame : digit a = digit b) : a = b := by
  have hAll : ∀ a < 16, ∀ b < 16, digit a = digit b → a = b := by decide
  exact hAll a hLeft b hRight hSame

theorem digits_cons (byte : UInt8) (bytes : Bytes) :
    digits (byte :: bytes) =
      digit (byte.toNat / 16) :: digit (byte.toNat % 16) :: digits bytes :=
  rfl

theorem length_digits (bytes : Bytes) : (digits bytes).length = 2 * bytes.length := by
  induction bytes with
  | nil => rfl
  | cons byte bytes ih => simp only [digits_cons, List.length_cons, ih]; omega

theorem digits_injective {left right : Bytes} (hSame : digits left = digits right) :
    left = right := by
  induction left generalizing right with
  | nil =>
    cases right with
    | nil => rfl
    | cons byte right => simp [digits] at hSame
  | cons byte left ih =>
    cases right with
    | nil => simp [digits] at hSame
    | cons other right =>
      simp only [digits_cons, List.cons.injEq] at hSame
      have hByte := byte.toNat_lt
      have hOther := other.toNat_lt
      have hHigh := digit_injective_of_lt (by omega) (by omega) hSame.1
      have hLow := digit_injective_of_lt (by omega) (by omega) hSame.2.1
      have hEqual : byte = other := UInt8.toNat_inj.mp (by omega)
      rw [hEqual, ih hSame.2.2]

theorem encode_injective {left right : Bytes} (hSame : encode left = encode right) :
    left = right :=
  digits_injective (by simpa [encode] using congrArg String.toList hSame)

end Hex

end SnpGuest
