namespace SnpGuest

/-!
# Command codes

The numbers by which a caller names a command to the guest device.  A code packs the direction of
the transfer, the size of the argument, the type byte of the device and the command's own number.
-/

namespace Command

/-- The type byte of all commands: the letter S. -/
def typeByte : UInt8 := 83

/-- The size of the argument: a version byte in its own word and three more words. -/
def argumentSize : Nat := 32

/-- The code of a command that reads and writes its argument. -/
def readWrite (number : Nat) : UInt64 :=
  UInt64.ofNat ((3 <<< 30) + (argumentSize <<< 16) + (typeByte.toNat <<< 8) + number)

def getReport : UInt64 := readWrite 0

/-- Asks for a key derived from a root key of the platform. -/
def getDerivedKey : UInt64 := readWrite 1

/-- Asks for a report and the certificates of the key that signs it. -/
def getExtendedReport : UInt64 := readWrite 2

theorem getExtendedReport_ne_getReport : getExtendedReport ≠ getReport := by decide

end Command

end SnpGuest
