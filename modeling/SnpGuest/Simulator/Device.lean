import SnpGuest.Guest.Client
import SnpGuest.Report.Signing
import SnpGuest.Simulator.Registry

namespace SnpGuest

/-!
# Simulated device

A guest device that answers from prepared responses and signs the reports it hands out.  It keeps
the messages for which its signer was asked, as `Signer.ask` notes them, so that a test can tell
what was signed and how often.

A plain request takes the prepared response for its report data.  An extended request that declares
no buffer is a size query and looks at nothing but the certificates.  Any other is served like a
plain one and then gets the certificates, if they fit into what is both declared and there.
-/

structure SimulatedDevice where
  isOpen : Bool
  registry : Registry
  certificates : Bytes
  signer : Signer
  /-- The messages for which the signer was asked so far, in order. -/
  signed : List Bytes

namespace SimulatedDevice

/-- A closed device that knows no responses and has no certificates. -/
def new (signer : Signer) : SimulatedDevice where
  isOpen := false
  registry := .empty
  certificates := []
  signer := signer
  signed := []

def openDevice (device : SimulatedDevice) : Except Error SimulatedDevice :=
  if device.isOpen then .error .alreadyOpen else .ok { device with isOpen := true }

def closeDevice (device : SimulatedDevice) : Except Error SimulatedDevice :=
  if device.isOpen then .ok { device with isOpen := false } else .error .alreadyClosed

/-- Sets the response for some report data and gives back the one it replaces. -/
def register (device : SimulatedDevice) (reportData : Block 64) (prepared : PreparedResponse) :
    Option PreparedResponse × SimulatedDevice :=
  let (previous, registry) := device.registry.insert reportData prepared
  (previous, { device with registry := registry })

/-- Sets the certificates handed out with extended reports. -/
def withCertificates (device : SimulatedDevice) (certificates : Bytes) : SimulatedDevice :=
  { device with certificates := certificates }

/-! ## Requests -/

/-- How a request for a report went: what the device writes, and what it asked the signer for. -/
structure Service where
  result : Except Error ExitResult
  response : ResponseMessage
  errorWord : ErrorWord
  signed : List Bytes

/-- The error of a device whose report could not be signed. -/
def signingError : SigningError → Error
  | .signer causes => .sign causes
  | .embedding cause => .setSignature cause

/-- Serves a request for a report, from what the response buffer and the error word hold before. -/
def serve (device : SimulatedDevice) (reportData : Block 64) (response : ResponseMessage)
    (word : ErrorWord) : Service :=
  match device.registry.get? reportData with
  | none => ⟨.error (.noResponse reportData), response, word, []⟩
  | some prepared =>
    -- Only an error is written to the word; a success leaves what the caller had there.
    if prepared.errorWord ≠ .clear then
      ⟨.ok prepared.exitResult, response, prepared.errorWord, []⟩
    else
      match prepared.response.report.signWith device.signer.ask [] with
      | ((.error cause, _), signed) => ⟨.error (signingError cause), response, word, signed⟩
      | ((.ok (), report), signed) =>
        ⟨.ok prepared.exitResult, { prepared.response with report := report }, word, signed⟩

/-- The argument after a request for a report was served. -/
def Service.leave {n : Nat} (service : Service) (request : GuestRequest)
    (argument : Argument n) : Argument n :=
  { argument with
    request := .guest { request with errorWord := service.errorWord }
    response := service.response }

def answerSize {n : Nat} (device : SimulatedDevice) (request : GuestRequest)
    (report : RequestMessage) (argument : Argument n) : Reply n :=
  let required := device.certificates.length
  if required < CertificateTable.wordLimit then
    { result := .ok .ok
      argument :=
        { argument with
          request := .guest {
            request with
            payload := .extended report (UInt32.ofNat required)
            errorWord := .sizeReply } } }
  else ⟨.error (.certificatesTooLarge required), argument⟩

/-- Puts the certificates at the start of the caller's buffer, if they fit into the part of it
that the caller declares. -/
def fill {n : Nat} (device : SimulatedDevice) (certsLen : UInt32) (result : ExitResult)
    (argument : Argument n) : Reply n :=
  let required := device.certificates.length
  let actual := min certsLen.toNat n
  if hFits : required ≤ actual then
    let certificates : Block required := ⟨device.certificates, rfl⟩
    { result := .ok result
      argument :=
        { argument with
          certificates := argument.certificates.overwrite 0 certificates (by omega) } }
  else ⟨.error (.bufferTooSmall actual required), argument⟩

/-- Answers an extended request: a size query, or a request for a report whose certificates go into
the caller's buffer. -/
def answerExtended {n : Nat} (device : SimulatedDevice) (request : GuestRequest)
    (report : RequestMessage) (certsLen : UInt32) (argument : Argument n) :
    Reply n × List Bytes :=
  if certsLen = 0 then (device.answerSize request report argument, [])
  else
    let service := device.serve report.reportData argument.response request.errorWord
    let argument := service.leave request argument
    match service.result with
    | .error cause => (⟨.error cause, argument⟩, service.signed)
    -- An error word from the prepared response does not keep the certificates back.
    | .ok result => (device.fill certsLen result argument, service.signed)

/-- Answers a guest request, and tells what the signer was asked for. -/
def answer {n : Nat} (device : SimulatedDevice) (command : UInt64) (request : GuestRequest)
    (argument : Argument n) : Reply n × List Bytes :=
  if command = Command.getReport then
    match request.payload with
    | .report report =>
      let service := device.serve report.reportData argument.response request.errorWord
      (⟨service.result, service.leave request argument⟩, service.signed)
    | .extended _ _ => (⟨.error (.unexpectedRequest (.payload command true)), argument⟩, [])
  else if command = Command.getExtendedReport then
    match request.payload with
    | .report _ => (⟨.error (.unexpectedRequest (.payload command false)), argument⟩, [])
    | .extended report certsLen => device.answerExtended request report certsLen argument
  else (⟨.error (.invalidCommand command), argument⟩, [])

def ioctl {n : Nat} (command : UInt64) (argument : Argument n) (device : SimulatedDevice) :
    Reply n × SimulatedDevice :=
  match argument.request with
  | .raw bytes => (⟨.error (.unexpectedRequest (.raw bytes.length)), argument⟩, device)
  | .guest request =>
    if device.isOpen then
      let (reply, signed) := device.answer command request argument
      (reply, { device with signed := device.signed ++ signed })
    else (⟨.error .notOpen, argument⟩, device)

def guestDevice : GuestDevice SimulatedDevice where
  ioctl := ioctl

end SimulatedDevice

end SnpGuest
