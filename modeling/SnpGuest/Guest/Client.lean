import SnpGuest.Guest.Ioctl

namespace SnpGuest

/-!
# Requesting reports

How a guest gets a report, alone or with the certificates of the key that signed it.  The client
works with any device.  It looks first at the error word, then at the outcome of the exit, then at
the status inside the response.

For certificates the first call lends no buffer at all.  A device that has some answers with the
size it needs, and a second call lends exactly that; a device that has none answers with size zero,
and a plain request follows.  No third call is ever made.
-/

/-- A computation that calls a device with states of type `σ`. -/
abbrev Client (σ α : Type) := ExceptT Error (StateM σ) α

namespace Client

variable {σ α β : Type}

/-! ## Running from a state -/

theorem lift_apply (result : Except Error α) (state : σ) :
    (liftM result : Client σ α) state = (result, state) := rfl

/-- A failure ends the computation where it happens and keeps the state of that moment. -/
theorem bind_apply (first : Client σ α) (next : α → Client σ β) (state : σ) :
    (first >>= next) state =
      match first state with
      | (.error cause, after) => (.error cause, after)
      | (.ok value, after) => next value after := by
  have hStep : (first >>= next) state =
      match first state with
      | (result, after) => ExceptT.bindCont next result after := rfl
  rw [hStep]
  rcases first state with ⟨_ | _, _⟩ <;> rfl

theorem bind_pure_apply (first : Client σ α) (f : α → β) (state : σ) :
    (first >>= fun value => pure (f value)) state = ((first state).1.map f, (first state).2) := by
  rw [bind_apply]
  rcases first state with ⟨_ | _, _⟩ <;> rfl

/-! ## Calls and checks -/

/-- Hands a call to the device and fails if the device does. -/
def call {n : Nat} (device : GuestDevice σ) (command : UInt64) (argument : Argument n) :
    Client σ (ExitResult × Argument n) := fun state =>
  let (reply, next) := device.ioctl command argument state
  match reply.result with
  | .error cause => (.error cause, next)
  | .ok result => (.ok (result, reply.argument), next)

/-- The failure at one of the layers around a response, the error word before the exit. -/
def exitFailure? (result : ExitResult) (word : ErrorWord) : Option Error :=
  if word ≠ .clear then some (.firmware word)
  else if result ≠ .ok then some (.lowerLayer result)
  else none

/-- The failure that the status inside a response stands for. -/
def statusFailure? (response : ResponseMessage) : Option Error :=
  if response.status ≠ 0 then some (.firmware (.ofFirmwareCode response.status)) else none

/-- The report of a response whose call went well at every layer. -/
def accept (result : ExitResult) (word : ErrorWord) (response : ResponseMessage) :
    Except Error Report :=
  match exitFailure? result word with
  | some cause => .error cause
  | none =>
    match statusFailure? response with
    | some cause => .error cause
    | none => .ok response.report

/-- What an extended call leaves. -/
structure ExtendedAnswer (n : Nat) where
  result : ExitResult
  errorWord : ErrorWord
  certsLen : UInt32
  response : ResponseMessage
  certificates : Block n

/-- Reads the answer to an extended call off the argument, unless the device replaced the
request. -/
def extendedAnswer {n : Nat} (result : ExitResult) (argument : Argument n) :
    Except Error (ExtendedAnswer n) :=
  match argument.request with
  | .guest ⟨_, .extended _ certsLen, word⟩ =>
    .ok ⟨result, word, certsLen, argument.response, argument.certificates⟩
  | _ => .error (.unexpectedRequest .replaced)

/-- One extended call that lends a zeroed buffer of `size` bytes. -/
def callExtended (device : GuestDevice σ) (request : RequestMessage) (size : Nat)
    (response : ResponseMessage) : Client σ (ExtendedAnswer size) := do
  let (result, argument) ←
    call device Command.getExtendedReport (.extended request size response)
  liftM (extendedAnswer result argument)

/-! ## Requests -/

def requestReport (device : GuestDevice σ) (reportData : Block 64) (vmpl : UInt32) :
    Client σ Report := do
  let (result, argument) ← call device Command.getReport (.plain (.new reportData vmpl))
  liftM (accept result argument.request.errorWord argument.response)

/-- Requests a report over the given data, with the certificates of its signing key. -/
def requestWithCertificates (device : GuestDevice σ) (reportData : Block 64) (vmpl : UInt32) :
    Client σ (Report × Bytes) := do
  let request := RequestMessage.new reportData vmpl
  let query ← callExtended device request 0 .zero
  if query.errorWord.asksForBuffer then
    if query.certsLen = 0 then
      -- There are no certificates to make room for.
      let report ← requestReport device reportData vmpl
      return (report, [])
    else
      let fill ← callExtended device request query.certsLen.toNat query.response
      let report ← liftM (accept fill.result fill.errorWord fill.response)
      return (report, fill.certificates.toList)
  else
    -- The device made the report without asking for a buffer.
    let report ← liftM (accept query.result query.errorWord query.response)
    return (report, [])

end Client

end SnpGuest
