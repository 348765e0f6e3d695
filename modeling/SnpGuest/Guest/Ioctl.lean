import SnpGuest.Error
import SnpGuest.Message.Command
import SnpGuest.Message.Request
import SnpGuest.Message.Response

namespace SnpGuest

/-!
# Calls to the guest device

A caller hands the device a command and an argument.  The argument is a request together with the
memory that the request points at: a response buffer and a buffer for certificates.  The memory is
the caller's.  A device may write into it and may even put another request in the place of the one
it got, but it cannot change the size of a buffer, and the caller sees what was written.
-/

inductive Payload where
  | report (request : RequestMessage)
  /-- With the length that the caller declares for the certificate buffer. -/
  | extended (request : RequestMessage) (certsLen : UInt32)
deriving DecidableEq

structure GuestRequest where
  messageVersion : UInt8
  payload : Payload
  errorWord : ErrorWord
deriving DecidableEq

/-- A request as a device sees it. -/
inductive Request where
  | guest (request : GuestRequest)
  /-- Bytes of any other form. -/
  | raw (bytes : Bytes)
deriving DecidableEq

namespace Request

/-- The error word of a request; a clear one for raw bytes. -/
def errorWord : Request → ErrorWord
  | guest request => request.errorWord
  | raw _ => .clear

def fresh (payload : Payload) : Request :=
  guest { messageVersion := 1, payload := payload, errorWord := .clear }

end Request

/-- The declared length for a buffer: its size, or the largest declarable length. -/
def saturatedLength (size : Nat) : UInt32 :=
  UInt32.ofNat (min size 4294967295)

/-- A buffer whose size came out of a length field declares that length again. -/
theorem saturatedLength_toNat (length : UInt32) : saturatedLength length.toNat = length := by
  have hSmall := length.toNat_lt
  rw [saturatedLength, Nat.min_eq_left (by omega), UInt32.ofNat_toNat]

/-- A request and the caller's memory, with a certificate buffer of `n` bytes. -/
structure Argument (n : Nat) where
  request : Request
  response : ResponseMessage
  certificates : Block n
deriving DecidableEq

namespace Argument

/-- The argument of a plain request, with a zeroed response buffer. -/
def plain (request : RequestMessage) : Argument 0 where
  request := .fresh (.report request)
  response := .zero
  certificates := .zero 0

/-- The argument of an extended request that declares the size of its zeroed buffer. -/
def extended (request : RequestMessage) (size : Nat) (response : ResponseMessage) :
    Argument size where
  request := .fresh (.extended request (saturatedLength size))
  response := response
  certificates := .zero size

theorem extended_toNat (request : RequestMessage) (certsLen : UInt32)
    (response : ResponseMessage) :
    extended request certsLen.toNat response =
      ⟨.fresh (.extended request certsLen), response, .zero certsLen.toNat⟩ := by
  rw [extended, saturatedLength_toNat]

end Argument

/-- How a call ended, and the argument as the device left it. -/
structure Reply (n : Nat) where
  result : Except Error ExitResult
  argument : Argument n

/-- A guest device with states of type `σ`. -/
structure GuestDevice (σ : Type) where
  /-- One call, for a certificate buffer of any size. -/
  ioctl : {n : Nat} → UInt64 → Argument n → σ → Reply n × σ

structure Call where
  command : UInt64
  {size : Nat}
  argument : Argument size

namespace GuestDevice

variable {σ : Type}

/-- The same device, keeping a record of the calls as they arrive. -/
def recorded (device : GuestDevice σ) : GuestDevice (σ × List Call) where
  ioctl command argument state :=
    let (reply, next) := device.ioctl command argument state.1
    (reply, next, state.2 ++ [⟨command, argument⟩])

end GuestDevice

end SnpGuest
