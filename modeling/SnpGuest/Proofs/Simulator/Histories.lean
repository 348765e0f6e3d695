import Mathlib.Data.List.Chain
import SnpGuest.Proofs.Simulator.ClientRuns
import SnpGuest.Proofs.Simulator.Operations
import SnpGuest.Proofs.Simulator.Registry

namespace SnpGuest

/-!
# The state of a simulated device as its history

A simulated device remembers three things of what was done to it: whether it was opened or closed
last, the last response prepared for each report data, and the last certificates.  Calls leave no
mark but in the record of the signer, and an operation that fails leaves none at all.

Each of these is said once for one operation, and follows for a run by induction over its
operations.
-/

namespace SimulatedDevice

/-! ## What an operation answers -/

/-- What the caller of an operation gets back. -/
inductive Outcome where
  /-- Of opening and closing. -/
  | moved (result : Except Error Unit)
  | registered (previous : Option PreparedResponse)
  | stored
  | replied {n : Nat} (reply : Reply n)
  | reported (result : Except Error Report)
  | reportedWithCertificates (result : Except Error (Report × Bytes))

namespace Operation

def outcome : Operation → SimulatedDevice → Outcome
  | openDevice, device => .moved (device.openDevice.map fun _ => ())
  | closeDevice, device => .moved (device.closeDevice.map fun _ => ())
  | register reportData prepared, device => .registered (device.register reportData prepared).1
  | setCertificates _, _ => .stored
  | ioctl command argument, device => .replied (SimulatedDevice.ioctl command argument device).1
  | requestReport reportData vmpl, device =>
    .reported (Client.requestReport guestDevice reportData vmpl device).1
  | requestWithCertificates reportData vmpl, device =>
    .reportedWithCertificates (Client.requestWithCertificates guestDevice reportData vmpl device).1

/-- Whether an operation is a call, made directly or by the client. -/
def isCall : Operation → Bool
  | ioctl _ _ | requestReport _ _ | requestWithCertificates _ _ => true
  | _ => false

/-- The response that an operation prepares for some report data. -/
def registration? (reportData : Block 64) : Operation → Option PreparedResponse
  | register data prepared => if reportData = data then some prepared else none
  | _ => none

/-- What an operation wants the flag of the device to be. -/
def flag? : Operation → Option Bool
  | openDevice => some true
  | closeDevice => some false
  | _ => none

/-- The certificates that an operation sets. -/
def blob? : Operation → Option Bytes
  | setCertificates certificates => some certificates
  | _ => none

theorem outcome_openDevice (device : SimulatedDevice) :
    openDevice.outcome device =
      .moved (if device.isOpen then .error .alreadyOpen else .ok ()) := by
  cases hOpen : device.isOpen <;> simp [outcome, SimulatedDevice.openDevice, hOpen, Except.map]

theorem outcome_closeDevice (device : SimulatedDevice) :
    closeDevice.outcome device =
      .moved (if device.isOpen then .ok () else .error .alreadyClosed) := by
  cases hOpen : device.isOpen <;> simp [outcome, SimulatedDevice.closeDevice, hOpen, Except.map]

/-! ## What an operation does to the device -/

/-- The ways in which an operation can change a device.  That opening and closing can fail does not
show, as the flag has the wanted value then. -/
inductive Changes (device : SimulatedDevice) : Operation → SimulatedDevice → Prop
  | opens : Changes device openDevice { device with isOpen := true }
  | closes : Changes device closeDevice { device with isOpen := false }
  | registers (reportData : Block 64) (prepared : PreparedResponse) :
      Changes device (register reportData prepared)
        { device with registry := (device.registry.insert reportData prepared).2 }
  | stores (certificates : Bytes) :
      Changes device (setCertificates certificates) { device with certificates := certificates }
  | calls (operation : Operation) (messages : List Bytes) (hCall : operation.isCall = true) :
      Changes device operation (device.after messages)

/-- Calls leave everything but the record of the signer alone. -/
theorem exists_messages_of_isCall {operation : Operation} (hCall : operation.isCall = true)
    (device : SimulatedDevice) :
    ∃ messages, operation.apply device = device.after messages := by
  cases operation with
  | ioctl command argument => exact ioctl_device device command argument
  | requestReport reportData vmpl =>
      cases hOpen : device.isOpen with
      | false => exact ⟨[], by rw [apply, requestReport_closed hOpen, after_nil]⟩
      | true => exact ⟨_, by rw [apply, requestReport_open hOpen]⟩
  | requestWithCertificates reportData vmpl =>
      cases hOpen : device.isOpen with
      | false => exact ⟨[], by rw [apply, requestWithCertificates_closed hOpen, after_nil]⟩
      | true =>
          rcases Nat.lt_or_ge device.certificates.length CertificateTable.wordLimit with
            hSize | hLarge
          · exact ⟨_, by rw [apply, requestWithCertificates_open hOpen hSize]⟩
          · exact ⟨[], by rw [apply, requestWithCertificates_of_large hOpen hLarge, after_nil]⟩
  | _ => cases hCall

theorem changes_apply (operation : Operation) (device : SimulatedDevice) :
    Changes device operation (operation.apply device) := by
  have hCalls : operation.isCall = true →
      Changes device operation (operation.apply device) := by
    intro hCall
    obtain ⟨messages, hApply⟩ := exists_messages_of_isCall hCall device
    rw [hApply]
    exact .calls operation messages hCall
  obtain ⟨isOpen, registry, certificates, signer, signed⟩ := device
  cases operation with
  | openDevice => cases isOpen <;> exact .opens
  | closeDevice => cases isOpen <;> exact .closes
  | register reportData prepared => exact .registers reportData prepared
  | setCertificates certificates => exact .stores certificates
  | _ => exact hCalls rfl

theorem registration?_of_isCall {operation : Operation} (hCall : operation.isCall = true)
    (reportData : Block 64) : operation.registration? reportData = none := by
  cases operation with
  | register data prepared => cases hCall
  | _ => rfl

theorem flag?_of_isCall {operation : Operation} (hCall : operation.isCall = true) :
    operation.flag? = none := by
  cases operation with
  | openDevice => cases hCall
  | closeDevice => cases hCall
  | _ => rfl

theorem blob?_of_isCall {operation : Operation} (hCall : operation.isCall = true) :
    operation.blob? = none := by
  cases operation with
  | setCertificates certificates => cases hCall
  | _ => rfl

section Changed

variable {device after : SimulatedDevice} {operation : Operation}

theorem Changes.signer (hChanges : Changes device operation after) :
    after.signer = device.signer := by
  cases hChanges <;> rfl

/-- Only opening and closing change the flag. -/
theorem Changes.isOpen (hChanges : Changes device operation after) :
    after.isOpen = operation.flag?.getD device.isOpen := by
  cases hChanges with
  | calls operation messages hCall =>
      rw [flag?_of_isCall hCall]
      rfl
  | _ => rfl

/-- Only a registration for the same data changes what is prepared for it. -/
theorem Changes.get?_registry (hChanges : Changes device operation after)
    (reportData : Block 64) :
    after.registry.get? reportData =
      (operation.registration? reportData).or (device.registry.get? reportData) := by
  cases hChanges with
  | registers data prepared =>
      have hInsert := device.registry.get?_insert data reportData prepared
      rw [hInsert, registration?]
      split <;> rfl
  | calls operation messages hCall =>
      rw [registration?_of_isCall hCall]
      rfl
  | _ => rfl

/-- Only setting certificates changes them. -/
theorem Changes.certificates (hChanges : Changes device operation after) :
    after.certificates = operation.blob?.getD device.certificates := by
  cases hChanges with
  | calls operation messages hCall =>
      rw [blob?_of_isCall hCall]
      rfl
  | _ => rfl

/-- Calls, openings and closings leave the prepared responses and the certificates alone. -/
theorem Changes.contents_eq (hChanges : Changes device operation after)
    (hOther : operation.isCall = true ∨ operation = openDevice ∨ operation = closeDevice) :
    after.registry = device.registry ∧ after.certificates = device.certificates := by
  cases hChanges with
  | registers reportData prepared => simp [isCall] at hOther
  | stores certificates => simp [isCall] at hOther
  | _ => exact ⟨rfl, rfl⟩

end Changed

/-- An operation that fails to open or to close the device changes nothing. -/
theorem apply_of_failed_move {operation : Operation} {device : SimulatedDevice} {cause : Error}
    (hFailed : operation.outcome device = .moved (.error cause)) :
    operation.apply device = device := by
  obtain ⟨isOpen, registry, certificates, signer, signed⟩ := device
  cases operation with
  | openDevice =>
      cases isOpen with
      | false => cases hFailed
      | true => rfl
  | closeDevice =>
      cases isOpen with
      | false => rfl
      | true => cases hFailed
  | _ => cases hFailed

end Operation

/-! ## Runs -/

/-- The device after a list of operations. -/
def performAll (operations : List Operation) (device : SimulatedDevice) : SimulatedDevice :=
  operations.foldl (fun device operation => operation.apply device) device

theorem performAll_cons (operation : Operation) (later : List Operation)
    (device : SimulatedDevice) :
    performAll (operation :: later) device = performAll later (operation.apply device) :=
  rfl

/-- It is a run in which the signer is always the same. -/
theorem performAll_eq_run (operations : List Operation) (device : SimulatedDevice) :
    performAll operations device = run (operations.map (Turn.mk device.signer)) device := by
  induction operations generalizing device with
  | nil => rfl
  | cons operation later ih =>
      have hSigner := (operation.changes_apply device).signer
      rw [performAll_cons, ih, hSigner]
      rfl

/-- The operations of a run, each with its outcome. -/
def trace : List Operation → SimulatedDevice → List (Operation × Outcome)
  | [], _ => []
  | operation :: later, device =>
    (operation, operation.outcome device) :: trace later (operation.apply device)

/-- The last response that is prepared for some report data in a run. -/
def lastRegistered? (reportData : Block 64) (operations : List Operation) :
    Option PreparedResponse :=
  operations.reverse.findSome? (Operation.registration? reportData)

/-- The last certificates that are set in a run. -/
def lastBlob? (operations : List Operation) : Option Bytes :=
  operations.reverse.findSome? Operation.blob?

/-- Whether a step of a run opens the device or closes it, if it succeeds in either. -/
def move? : Operation × Outcome → Option Bool
  | (.openDevice, .moved (.ok _)) => some true
  | (.closeDevice, .moved (.ok _)) => some false
  | _ => none

/-- The successful openings and closings of a run, in order. -/
def moves (operations : List Operation) (device : SimulatedDevice) : List Bool :=
  (trace operations device).filterMap move?

theorem lastRegistered?_cons (reportData : Block 64) (operation : Operation)
    (later : List Operation) :
    lastRegistered? reportData (operation :: later) =
      (lastRegistered? reportData later).or (operation.registration? reportData) := by
  rw [lastRegistered?, List.reverse_cons, List.findSome?_append, List.findSome?_singleton]
  rfl

theorem lastBlob?_cons (operation : Operation) (later : List Operation) :
    lastBlob? (operation :: later) = (lastBlob? later).or operation.blob? := by
  rw [lastBlob?, List.reverse_cons, List.findSome?_append, List.findSome?_singleton]
  rfl

theorem signer_performAll (operations : List Operation) (device : SimulatedDevice) :
    (performAll operations device).signer = device.signer := by
  induction operations generalizing device with
  | nil => rfl
  | cons operation later ih =>
      exact (ih (operation.apply device)).trans (operation.changes_apply device).signer

theorem registry_performAll (operations : List Operation) (device : SimulatedDevice)
    (reportData : Block 64) :
    (performAll operations device).registry.get? reportData =
      (lastRegistered? reportData operations).or (device.registry.get? reportData) := by
  induction operations generalizing device with
  | nil => rfl
  | cons operation later ih =>
      have hLater := ih (operation.apply device)
      rw [(operation.changes_apply device).get?_registry] at hLater
      rw [performAll_cons, hLater, lastRegistered?_cons, Option.or_assoc]

theorem certificates_performAll (operations : List Operation) (device : SimulatedDevice) :
    (performAll operations device).certificates =
      (lastBlob? operations).getD device.certificates := by
  induction operations generalizing device with
  | nil => rfl
  | cons operation later ih =>
      have hLater := ih (operation.apply device)
      rw [(operation.changes_apply device).certificates] at hLater
      rw [performAll_cons, hLater, lastBlob?_cons]
      cases lastBlob? later <;> rfl

/-- A step is a move exactly when it turns the flag over. -/
theorem move?_cases (operation : Operation) (device : SimulatedDevice) :
    (move? (operation, operation.outcome device) = none ∧
      (operation.apply device).isOpen = device.isOpen) ∨
    (move? (operation, operation.outcome device) = some (!device.isOpen) ∧
      (operation.apply device).isOpen = !device.isOpen) := by
  have hFlag := (operation.changes_apply device).isOpen
  obtain ⟨isOpen, registry, certificates, signer, signed⟩ := device
  cases operation with
  | openDevice =>
      cases isOpen with
      | false => exact .inr ⟨rfl, rfl⟩
      | true => exact .inl ⟨rfl, rfl⟩
  | closeDevice =>
      cases isOpen with
      | false => exact .inl ⟨rfl, rfl⟩
      | true => exact .inr ⟨rfl, rfl⟩
  | _ => exact .inl ⟨rfl, hFlag⟩

/-- The moves of a run alternate, the first against the state before it, and the last one gives the
state behind it. -/
theorem moves_alternate (operations : List Operation) (device : SimulatedDevice) :
    (device.isOpen :: moves operations device).IsChain (· ≠ ·) ∧
      (device.isOpen :: moves operations device).getLast? =
        some (performAll operations device).isOpen := by
  induction operations generalizing device with
  | nil => exact ⟨.singleton _, rfl⟩
  | cons operation later ih =>
      have hLater := ih (operation.apply device)
      rcases move?_cases operation device with ⟨hNone, hSame⟩ | ⟨hMove, hFlip⟩
      · have hMoves : moves (operation :: later) device = moves later (operation.apply device) :=
          List.filterMap_cons_none hNone
        rw [hMoves, ← hSame]
        exact hLater
      · have hMoves : moves (operation :: later) device =
            (!device.isOpen) :: moves later (operation.apply device) :=
          List.filterMap_cons_some hMove
        rw [hFlip] at hLater
        rw [hMoves, List.isChain_cons_cons, List.getLast?_cons_cons]
        exact ⟨⟨by simp, hLater.1⟩, hLater.2⟩

end SimulatedDevice

end SnpGuest
