import SnpGuest.Bytes.LittleEndian

namespace SnpGuest

/-!
# Guest policy

The policy under which a guest may be launched: the least firmware interface it accepts and a word
of flags.  Ten flags have a meaning; a word with any other bit set is no set of flags.
-/

/-- A setting that a policy can allow or demand. -/
inductive PolicyFlag where
  | smt
  | alwaysOne
  | migrateMa
  | debug
  | singleSocket
  | cxlAllow
  | memAes256Xts
  | raplDis
  | ciphertextHidingDram
  | pageSwapDisable
deriving DecidableEq

namespace PolicyFlag

/-- The flags from bit 0 up. -/
def all : List PolicyFlag :=
  [smt, alwaysOne, migrateMa, debug, singleSocket, cxlAllow, memAes256Xts, raplDis,
    ciphertextHidingDram, pageSwapDisable]

def bit : PolicyFlag → Nat
  | smt => 0
  | alwaysOne => 1
  | migrateMa => 2
  | debug => 3
  | singleSocket => 4
  | cxlAllow => 5
  | memAes256Xts => 6
  | raplDis => 7
  | ciphertextHidingDram => 8
  | pageSwapDisable => 9

/-- The flags of a word, from bit 0 up, unless a bit without a meaning (any from bit 10
up) is set. -/
def ofWord? (word : UInt16) : Option (List PolicyFlag) :=
  if word.toNat < 1024 then some (all.filter fun flag => word.toNat.testBit flag.bit)
  else none

end PolicyFlag

structure GuestPolicy where
  abiMinor : UInt8
  abiMajor : UInt8
  flags : UInt16
  reserved : UInt32
deriving DecidableEq

namespace GuestPolicy

/-- The policy that the eight bytes of its field hold. -/
def ofBlock (block : Block 8) : GuestPolicy where
  abiMinor := (block.slice 0 1 (by decide)).toUInt8
  abiMajor := (block.slice 1 1 (by decide)).toUInt8
  flags := (block.slice 2 2 (by decide)).toUInt16
  reserved := (block.slice 4 4 (by decide)).toUInt32

/-- The flags that are set, unless an unknown bit is set. -/
def flags? (policy : GuestPolicy) : Option (List PolicyFlag) :=
  PolicyFlag.ofWord? policy.flags

end GuestPolicy

end SnpGuest
