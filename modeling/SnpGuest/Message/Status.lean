import SnpGuest.Bytes.Hex

namespace SnpGuest

/-!
# Outcomes of a guest request

Three layers say how a guest request went: the exit to the hypervisor, the error word that holds
the hypervisor's and the firmware's code, and the status inside the response message.
-/

/-- The outcome of the exit to the hypervisor. -/
inductive ExitResult where
  | ok
  | unsupported
  | vmmError
  | decodeFailed
  | exception
  | retry
deriving DecidableEq

namespace ExitResult

def all : List ExitResult :=
  [ok, unsupported, vmmError, decodeFailed, exception, retry]

def code : ExitResult → UInt32
  | ok => 0
  | unsupported => 1
  | vmmError => 2
  | decodeFailed => 3
  | exception => 4
  | retry => 5

def ofCode? (code : UInt32) : Option ExitResult :=
  all.find? fun result => result.code == code

/-- The name of an outcome in messages. -/
def name : ExitResult → String
  | ok => "Ok"
  | unsupported => "Unsupported"
  | vmmError => "VmmError"
  | decodeFailed => "DecodeFailed"
  | exception => "Exception"
  | retry => "Retry"

end ExitResult

inductive ResponseStatus where
  | success
  | invalidParams
  | invalidKeySelection
deriving DecidableEq

namespace ResponseStatus

def code : ResponseStatus → UInt32
  | success => 0
  | invalidParams => 0x16
  | invalidKeySelection => 0x27

def ofCode? (code : UInt32) : Option ResponseStatus :=
  [success, invalidParams, invalidKeySelection].find? fun status => status.code == code

end ResponseStatus

/-- The status that the firmware gives for a command. -/
inductive FirmwareStatus where
  | success
  | invalidPlatformState
  | invalidGuestState
  | invalidConfig
  | invalidLength
  | alreadyOwned
  | invalidCertificate
  | policyFailure
  | inactive
  | invalidAddress
  | badSignature
  | badMeasurement
  | asidOwned
  | invalidAsid
  | wbinvdRequired
  | dfFlushRequired
  | invalidGuest
  | invalidCommand
  | active
  | hwErrorPlatform
  | hwErrorUnsafe
  | unsupported
  | invalidParam
  | resourceLimit
  | secureDataInvalid
  | invalidPageSize
  | invalidPageState
  | invalidMdataEntry
  | invalidPageOwner
  | aeadOverflow
  | rmpInitRequired
  | badSvn
  | badVersion
  | shutdownRequired
  | updateFailed
  | restoreRequired
  | rmpInitFailed
  | invalidKey
deriving DecidableEq

namespace FirmwareStatus

/-- Each status with its number and its name in messages.  The number `0x1e` is not in use. -/
def table : List (FirmwareStatus × UInt32 × String) :=
  [(success, 0x00, "Success"),
    (invalidPlatformState, 0x01, "InvalidPlatformState"),
    (invalidGuestState, 0x02, "InvalidGuestState"),
    (invalidConfig, 0x03, "InvalidConfig"),
    (invalidLength, 0x04, "InvalidLength"),
    (alreadyOwned, 0x05, "AlreadyOwned"),
    (invalidCertificate, 0x06, "InvalidCertificate"),
    (policyFailure, 0x07, "PolicyFailure"),
    (inactive, 0x08, "Inactive"),
    (invalidAddress, 0x09, "InvalidAddress"),
    (badSignature, 0x0a, "BadSignature"),
    (badMeasurement, 0x0b, "BadMeasurement"),
    (asidOwned, 0x0c, "AsidOwned"),
    (invalidAsid, 0x0d, "InvalidAsid"),
    (wbinvdRequired, 0x0e, "WbinvdRequired"),
    (dfFlushRequired, 0x0f, "DfFlushRequired"),
    (invalidGuest, 0x10, "InvalidGuest"),
    (invalidCommand, 0x11, "InvalidCommand"),
    (active, 0x12, "Active"),
    (hwErrorPlatform, 0x13, "HwErrorPlatform"),
    (hwErrorUnsafe, 0x14, "HwErrorUnsafe"),
    (unsupported, 0x15, "Unsupported"),
    (invalidParam, 0x16, "InvalidParam"),
    (resourceLimit, 0x17, "ResourceLimit"),
    (secureDataInvalid, 0x18, "SecureDataInvalid"),
    (invalidPageSize, 0x19, "InvalidPageSize"),
    (invalidPageState, 0x1a, "InvalidPageState"),
    (invalidMdataEntry, 0x1b, "InvalidMdataEntry"),
    (invalidPageOwner, 0x1c, "InvalidPageOwner"),
    (aeadOverflow, 0x1d, "AeadOverflow"),
    (rmpInitRequired, 0x1f, "RmpInitRequired"),
    (badSvn, 0x20, "BadSvn"),
    (badVersion, 0x21, "BadVersion"),
    (shutdownRequired, 0x22, "ShutdownRequired"),
    (updateFailed, 0x23, "UpdateFailed"),
    (restoreRequired, 0x24, "RestoreRequired"),
    (rmpInitFailed, 0x25, "RmpInitFailed"),
    (invalidKey, 0x26, "InvalidKey")]

def ofCode? (code : UInt32) : Option FirmwareStatus :=
  (table.find? fun row => row.2.1 == code).map (·.1)

/-- The name of the status with a given number. -/
def nameOfCode? (code : UInt32) : Option String :=
  (table.find? fun row => row.2.1 == code).map (·.2.2)

end FirmwareStatus

/-- The error word of a guest request: the hypervisor's code in the upper half, the firmware's in
the lower.  Zero means that both accepted the request. -/
structure ErrorWord where
  value : UInt64
deriving DecidableEq

namespace ErrorWord

/-- The word of a request that nobody refused. -/
def clear : ErrorWord := ⟨0⟩

/-- The hypervisor's code for a certificate buffer that is too small. -/
def invalidLength : UInt32 := 1

/-- The hypervisor's code for being busy. -/
def busy : UInt32 := 2

/-- The answer to a size query: the buffer is too small, and no word from the firmware. -/
def sizeReply : ErrorWord :=
  ⟨invalidLength.toUInt64 <<< 32⟩

/-- The word with a code of the firmware alone. -/
def ofFirmwareCode (code : UInt32) : ErrorWord :=
  ⟨code.toUInt64⟩

def hypervisorCode (word : ErrorWord) : UInt32 :=
  (word.value >>> 32).toUInt32

def firmwareCode (word : ErrorWord) : UInt32 :=
  word.value.toUInt32

/-- Whether the hypervisor asks for a larger certificate buffer. -/
def asksForBuffer (word : ErrorWord) : Bool :=
  word.hypervisorCode == invalidLength

theorem toNat_hypervisorCode (word : ErrorWord) :
    word.hypervisorCode.toNat = word.value.toNat / 0x100000000 := by
  have hSmall : word.value.toNat < 2 ^ 64 := word.value.toNat_lt
  have hCode : word.hypervisorCode.toNat = word.value.toNat >>> 32 % 2 ^ 32 := rfl
  rw [hCode, Nat.shiftRight_eq_div_pow]
  exact Nat.mod_eq_of_lt (by omega)

theorem asksForBuffer_iff (word : ErrorWord) :
    word.asksForBuffer = true ↔ word.value.toNat / 0x100000000 = 1 := by
  rw [asksForBuffer, beq_iff_eq, ← UInt32.toNat_inj, toNat_hypervisorCode]
  rfl

theorem toNat_firmwareCode (word : ErrorWord) :
    word.firmwareCode.toNat = word.value.toNat % 0x100000000 :=
  word.value.toNat_toUInt32

/-- The codes are the digits of the word for the base `2 ^ 32`, and no other two are. -/
theorem toNat_value_iff (word : ErrorWord) (high low : UInt32) :
    word.value.toNat = high.toNat * 0x100000000 + low.toNat ↔
      high = word.hypervisorCode ∧ low = word.firmwareCode := by
  have hLow := low.toNat_lt
  rw [← UInt32.toNat_inj, ← UInt32.toNat_inj, toNat_hypervisorCode, toNat_firmwareCode]
  omega

theorem eq_of_codes {left right : ErrorWord} (hUpper : left.hypervisorCode = right.hypervisorCode)
    (hLower : left.firmwareCode = right.firmwareCode) : left = right := by
  have hLeft := (toNat_value_iff left _ _).mpr ⟨rfl, rfl⟩
  have hRight := (toNat_value_iff right _ _).mpr ⟨rfl, rfl⟩
  rw [hUpper, hLower, ← hRight] at hLeft
  cases left
  exact congrArg ErrorWord.mk (UInt64.toNat_inj.mp hLeft)

/-- Only the answer to a size query asks for a buffer and has no word from the firmware. -/
theorem eq_sizeReply_iff (word : ErrorWord) :
    word = .sizeReply ↔ word.asksForBuffer = true ∧ word.firmwareCode = 0 := by
  constructor
  · rintro rfl
    decide
  · rintro ⟨hAsks, hSilent⟩
    exact eq_of_codes (beq_iff_eq.mp hAsks) hSilent

/-- What a message says of the hypervisor's code, if there is one. -/
def hypervisorText (code : UInt32) : String :=
  if code = 0 then ""
  else if code = invalidLength then "VMM error: invalid length, "
  else if code = busy then "VMM error: busy, "
  else "VMM error: 0x" ++ Hex.number code.toNat ++ ", "

/-- What a message says of the firmware's code. -/
def firmwareText (code : UInt32) : String :=
  match FirmwareStatus.nameOfCode? code with
  | some name => "firmware status: " ++ name
  | none => "firmware status: unknown (0x" ++ Hex.number code.toNat ++ ")"

def message (word : ErrorWord) : String :=
  hypervisorText word.hypervisorCode ++ firmwareText word.firmwareCode

end ErrorWord

end SnpGuest
