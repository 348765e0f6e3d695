import SnpGuest.Proofs.Simulator.Histories

namespace SnpGuest

/-!
# What the outcome of an operation depends on

An operation looks at the flag, the certificates, the signer, and the response prepared for its own
report data.  Devices that are alike in these answer alike and stay alike, whatever else was done to
them before.  So a run can be thinned by steps that leave no mark, and registrations can be moved
past the calls that do not ask for their data, and no answer changes.
-/

namespace SimulatedDevice

/-- The devices differ at most in the record of the signer and in what is prepared for unknown
data. -/
structure Alike (Known : Block 64 → Prop) (left right : SimulatedDevice) : Prop where
  isOpen : left.isOpen = right.isOpen
  certificates : left.certificates = right.certificates
  signer : left.signer = right.signer
  registry : ∀ reportData, Known reportData →
    left.registry.get? reportData = right.registry.get? reportData

namespace Alike

variable {Known : Block 64 → Prop} {left right : SimulatedDevice}

theorem refl (Known : Block 64 → Prop) (device : SimulatedDevice) : Alike Known device device :=
  ⟨rfl, rfl, rfl, fun _ _ => rfl⟩

/-- What was put before the signer does not count. -/
theorem after (hAlike : Alike Known left right) (messages : List Bytes) :
    Alike Known (left.after messages) right :=
  ⟨hAlike.isOpen, hAlike.certificates, hAlike.signer, hAlike.registry⟩

/-! ## Calls -/

theorem serve_eq (hAlike : Alike Known left right) {reportData : Block 64}
    (hKnown : Known reportData) (response : ResponseMessage) (word : ErrorWord) :
    left.serve reportData response word = right.serve reportData response word := by
  simp only [serve, hAlike.registry reportData hKnown, hAlike.signer]

theorem fill_eq (hAlike : Alike Known left right) {n : Nat} (certsLen : UInt32)
    (result : ExitResult) (argument : Argument n) :
    left.fill certsLen result argument = right.fill certsLen result argument := by
  obtain ⟨isOpen, registry, certificates, signer, signed⟩ := left
  obtain rfl : certificates = right.certificates := hAlike.certificates
  rfl

theorem answerSize_eq (hAlike : Alike Known left right) {n : Nat} (request : GuestRequest)
    (report : RequestMessage) (argument : Argument n) :
    left.answerSize request report argument = right.answerSize request report argument := by
  simp only [answerSize, hAlike.certificates]

theorem answer_eq (hAlike : Alike Known left right) {command : UInt64} {request : GuestRequest}
    (hKnown : ∀ reportData, askedData? command request.payload = some reportData →
      Known reportData)
    {n : Nat} (argument : Argument n) :
    left.answer command request argument = right.answer command request argument := by
  obtain ⟨version, payload, word⟩ := request
  cases payload with
  | report report =>
      by_cases hReport : command = Command.getReport
      · have hServe := hAlike.serve_eq (hKnown report.reportData (by simp [askedData?, hReport]))
          argument.response word
        simp only [answer, if_pos hReport, hServe]
      · simp only [answer, if_neg hReport]
  | extended report certsLen =>
      by_cases hExtended : command = Command.getExtendedReport
      · rw [hExtended, answer_extended, answer_extended, answerExtended, answerExtended]
        by_cases hLen : certsLen = 0
        · rw [if_pos hLen, if_pos hLen, hAlike.answerSize_eq]
        · have hServe := hAlike.serve_eq
            (hKnown report.reportData (by simp [askedData?, hExtended, hLen]))
            argument.response word
          simp only [if_neg hLen, hServe, hAlike.fill_eq]
      · simp only [answer, if_neg hExtended]

theorem ioctl_eq (hAlike : Alike Known left right) {command : UInt64} {n : Nat}
    {argument : Argument n}
    (hKnown : ∀ request reportData, argument.request = .guest request →
      askedData? command request.payload = some reportData → Known reportData) :
    (ioctl command argument left).1 = (ioctl command argument right).1 := by
  obtain ⟨request | bytes, response, buffer⟩ := argument
  · cases hOpen : left.isOpen with
    | false =>
        have hOther : right.isOpen = false := hAlike.isOpen.symm.trans hOpen
        rw [ioctl_closed hOpen, ioctl_closed hOther]
    | true =>
        have hOther : right.isOpen = true := hAlike.isOpen.symm.trans hOpen
        rw [ioctl_open hOpen, ioctl_open hOther,
          hAlike.answer_eq fun reportData hAsked => hKnown request reportData rfl hAsked]
  · rfl

theorem requestReport_eq (hAlike : Alike Known left right) {reportData : Block 64}
    (hKnown : Known reportData) (vmpl : UInt32) :
    (Client.requestReport guestDevice reportData vmpl left).1 =
      (Client.requestReport guestDevice reportData vmpl right).1 := by
  cases hOpen : left.isOpen with
  | false =>
      have hOther : right.isOpen = false := hAlike.isOpen.symm.trans hOpen
      rw [requestReport_closed hOpen, requestReport_closed hOther]
  | true =>
      have hOther : right.isOpen = true := hAlike.isOpen.symm.trans hOpen
      rw [requestReport_open hOpen, requestReport_open hOther, hAlike.serve_eq hKnown]

theorem requestWithCertificates_eq (hAlike : Alike Known left right) {reportData : Block 64}
    (hKnown : Known reportData) (vmpl : UInt32) :
    (Client.requestWithCertificates guestDevice reportData vmpl left).1 =
      (Client.requestWithCertificates guestDevice reportData vmpl right).1 := by
  have hBlob := hAlike.certificates
  cases hOpen : left.isOpen with
  | false =>
      have hOther : right.isOpen = false := hAlike.isOpen.symm.trans hOpen
      rw [requestWithCertificates_closed hOpen, requestWithCertificates_closed hOther]
  | true =>
      have hOther : right.isOpen = true := hAlike.isOpen.symm.trans hOpen
      rcases Nat.lt_or_ge left.certificates.length CertificateTable.wordLimit with hSize | hLarge
      · rw [requestWithCertificates_open hOpen hSize,
          requestWithCertificates_open hOther (hBlob ▸ hSize), hAlike.serve_eq hKnown, hBlob]
      · rw [requestWithCertificates_of_large hOpen hLarge,
          requestWithCertificates_of_large hOther (hBlob ▸ hLarge), hBlob]

end Alike

namespace Operation

/-- The report data whose prepared response an operation looks at, if there is any. -/
def data? : Operation → Option (Block 64)
  | register reportData _ => some reportData
  | ioctl command argument =>
    match argument.request with
    | .raw _ => none
    | .guest request => askedData? command request.payload
  | requestReport reportData _ | requestWithCertificates reportData _ => some reportData
  | _ => none

end Operation

namespace Alike

variable {Known : Block 64 → Prop} {left right : SimulatedDevice}

/-- Devices that are alike in what an operation looks at give the same outcome. -/
theorem outcome_eq (hAlike : Alike Known left right) {operation : Operation}
    (hKnown : ∀ reportData, operation.data? = some reportData → Known reportData) :
    operation.outcome left = operation.outcome right := by
  cases operation with
  | openDevice => rw [Operation.outcome_openDevice, Operation.outcome_openDevice, hAlike.isOpen]
  | closeDevice => rw [Operation.outcome_closeDevice, Operation.outcome_closeDevice, hAlike.isOpen]
  | register reportData prepared =>
      exact congrArg Outcome.registered (hAlike.registry reportData (hKnown reportData rfl))
  | setCertificates certificates => rfl
  | ioctl command argument =>
      refine congrArg Outcome.replied (hAlike.ioctl_eq ?_)
      intro request reportData hRequest hAsked
      refine hKnown reportData ?_
      rw [Operation.data?, hRequest]
      exact hAsked
  | requestReport reportData vmpl =>
      exact congrArg Outcome.reported (hAlike.requestReport_eq (hKnown reportData rfl) vmpl)
  | requestWithCertificates reportData vmpl =>
      exact congrArg Outcome.reportedWithCertificates
        (hAlike.requestWithCertificates_eq (hKnown reportData rfl) vmpl)

/-- Operations keep devices alike, also those for which they have different outcomes. -/
theorem apply (hAlike : Alike Known left right) (operation : Operation) :
    Alike Known (operation.apply left) (operation.apply right) := by
  have hLeft := operation.changes_apply left
  have hRight := operation.changes_apply right
  refine ⟨?_, ?_, ?_, fun reportData hKnown => ?_⟩
  · rw [hLeft.isOpen, hRight.isOpen, hAlike.isOpen]
  · rw [hLeft.certificates, hRight.certificates, hAlike.certificates]
  · rw [hLeft.signer, hRight.signer, hAlike.signer]
  · rw [hLeft.get?_registry, hRight.get?_registry, hAlike.registry reportData hKnown]

end Alike

/-! ## Leaving steps out -/

namespace Operation

/-- Steps that leave no mark on what a device answers: calls, and moves that fail. -/
def IsIdle (operation : Operation) (device : SimulatedDevice) : Prop :=
  operation.isCall = true ∨ ∃ cause, operation.outcome device = .moved (.error cause)

/-- A registration for other data than the given. -/
def isForeign (reportData : Block 64) : Operation → Bool
  | register data _ => data ≠ reportData
  | _ => false

/-- A call that asks for a report over the given data, or for none at all. -/
def isAbout (reportData : Block 64) (operation : Operation) : Bool :=
  operation.isCall && (operation.data? == none || operation.data? == some reportData)

theorem eq_of_isAbout {operation : Operation} {reportData data : Block 64}
    (hAbout : operation.isAbout reportData = true) (hData : operation.data? = some data) :
    data = reportData := by
  simp only [isAbout, hData, Bool.and_eq_true] at hAbout
  simpa using hAbout.2

end Operation

section Skipping

variable {Known : Block 64 → Prop} {left right : SimulatedDevice} {operation : Operation}

theorem Alike.skip_idle (hAlike : Alike Known left right) (hIdle : operation.IsIdle left) :
    Alike Known (operation.apply left) right := by
  rcases hIdle with hCall | ⟨cause, hFailed⟩
  · obtain ⟨messages, hApply⟩ := Operation.exists_messages_of_isCall hCall left
    rw [hApply]
    exact hAlike.after messages
  · rw [Operation.apply_of_failed_move hFailed]
    exact hAlike

theorem Alike.skip_foreign {reportData : Block 64} (hAlike : Alike (· = reportData) left right)
    (hForeign : operation.isForeign reportData = true) :
    Alike (· = reportData) (operation.apply left) right := by
  cases operation with
  | register data prepared =>
      have hChanges := (Operation.register data prepared).changes_apply left
      have hOther : data ≠ reportData := by simpa [Operation.isForeign] using hForeign
      refine ⟨hAlike.isOpen, hAlike.certificates, hAlike.signer, ?_⟩
      rintro _ rfl
      rw [hChanges.get?_registry, Operation.registration?, if_neg hOther.symm]
      exact hAlike.registry _ rfl
  | _ => cases hForeign

end Skipping

/-- What stays of the trace of a run when some idle steps are left out. -/
inductive Thinned : SimulatedDevice → List Operation → List (Operation × Outcome) → Prop
  | done (device : SimulatedDevice) : Thinned device [] []
  | keep (device : SimulatedDevice) (operation : Operation) (later : List Operation)
      (kept : List (Operation × Outcome))
      (hLater : Thinned (operation.apply device) later kept) :
      Thinned device (operation :: later) ((operation, operation.outcome device) :: kept)
  | leaveOut (device : SimulatedDevice) (operation : Operation) (later : List Operation)
      (kept : List (Operation × Outcome)) (hIdle : operation.IsIdle device)
      (hLater : Thinned (operation.apply device) later kept) :
      Thinned device (operation :: later) kept

/-- The steps that stay have their old outcomes when they are run alone. -/
theorem Thinned.trace_eq {device other : SimulatedDevice} {operations : List Operation}
    {kept : List (Operation × Outcome)} (hThinned : Thinned device operations kept)
    (hAlike : Alike (fun _ => True) device other) :
    trace (kept.map Prod.fst) other = kept := by
  induction hThinned generalizing other with
  | done device => rfl
  | keep device operation later kept hLater ih =>
      have hOutcome : operation.outcome device = operation.outcome other :=
        hAlike.outcome_eq fun _ _ => trivial
      rw [List.map_cons, trace, ih (hAlike.apply operation), hOutcome]
  | leaveOut device operation later kept hIdle hLater ih => exact ih (hAlike.skip_idle hIdle)

/-! ## Moving registrations -/

/-- The calls of a run that ask for the given data or for none, with their outcomes. -/
def answersAbout (reportData : Block 64) (operations : List Operation)
    (device : SimulatedDevice) : List (Operation × Outcome) :=
  (trace operations device).filter fun step => step.1.isAbout reportData

theorem answersAbout_cons (reportData : Block 64) (operation : Operation)
    (later : List Operation) (device : SimulatedDevice) :
    answersAbout reportData (operation :: later) device =
      (if operation.isAbout reportData then [(operation, operation.outcome device)] else []) ++
        answersAbout reportData later (operation.apply device) := by
  rw [answersAbout, trace, List.filter_cons]
  split <;> rfl

/-- Registrations for other data can be left out. -/
theorem answersAbout_filter (reportData : Block 64) (operations : List Operation)
    {left right : SimulatedDevice} (hAlike : Alike (· = reportData) left right) :
    answersAbout reportData operations left =
      answersAbout reportData (operations.filter fun operation => !operation.isForeign reportData)
        right := by
  induction operations generalizing left right with
  | nil => rfl
  | cons operation later ih =>
      cases hForeign : operation.isForeign reportData with
      | true =>
          have hSilent : operation.isAbout reportData = false := by
            cases operation with
            | register data prepared => rfl
            | _ => cases hForeign
          rw [answersAbout_cons, hSilent, List.filter_cons_of_neg (by simp [hForeign])]
          exact ih (hAlike.skip_foreign hForeign)
      | false =>
          rw [List.filter_cons_of_pos (by simp [hForeign]), answersAbout_cons, answersAbout_cons,
            ih (hAlike.apply operation)]
          cases hAbout : operation.isAbout reportData with
          | false => rfl
          | true =>
              have hOutcome : operation.outcome left = operation.outcome right :=
                hAlike.outcome_eq fun _ hData => Operation.eq_of_isAbout hAbout hData
              rw [hOutcome]

/-! ## Main statement -/

/-- For every signer that is a function of the message, and every run from a new device.

The successful openings and closings alternate, beginning with an opening, and the flag tells which
came last.  What is prepared for some data is what was last registered for it, whether the device
was open then or not; the certificates are those that were last set.  A closed device can be opened
and an open one closed, a registration gives back the one before it, and nothing else changes what
the device remembers.

So calls and failed moves can be left out of a run, and the steps that stay keep their outcomes.
Registrations can be moved about, and a call keeps its outcome if those for its own data stay where
they are among the other steps. -/
theorem state_eq_history (signer : Signer) :
    (∀ operations : List Operation,
      let device := performAll operations (new signer)
      let history := moves operations (new signer)
      (false :: history).IsChain (· ≠ ·) ∧
      device.isOpen = history.getLast?.getD false ∧
      (∀ reportData, device.registry.get? reportData = lastRegistered? reportData operations) ∧
      device.certificates = (lastBlob? operations).getD [] ∧
      device.signer = signer ∧
      Operation.openDevice.outcome device =
        .moved (if device.isOpen then .error .alreadyOpen else .ok ()) ∧
      Operation.closeDevice.outcome device =
        .moved (if device.isOpen then .ok () else .error .alreadyClosed) ∧
      (∀ reportData prepared, (Operation.register reportData prepared).outcome device =
        .registered (lastRegistered? reportData operations)) ∧
      (∀ (operation : Operation) (cause : Error),
        operation.outcome device = .moved (.error cause) → operation.apply device = device) ∧
      (∀ operation : Operation,
        operation.isCall = true ∨ operation = .openDevice ∨ operation = .closeDevice →
        (operation.apply device).registry = device.registry ∧
          (operation.apply device).certificates = device.certificates)) ∧
    (∀ operations kept, Thinned (new signer) operations kept →
      trace (kept.map Prod.fst) (new signer) = kept) ∧
    (∀ (reportData : Block 64) (left right : List Operation),
      (left.filter fun operation => !operation.isForeign reportData) =
        (right.filter fun operation => !operation.isForeign reportData) →
      answersAbout reportData left (new signer) =
        answersAbout reportData right (new signer)) := by
  refine ⟨fun operations => ?_, fun operations kept hThinned => ?_,
    fun reportData left right hSame => ?_⟩
  · intro device history
    obtain ⟨hChain, hLast⟩ := moves_alternate operations (new signer)
    have hRegistry : ∀ reportData,
        device.registry.get? reportData = lastRegistered? reportData operations := by
      intro reportData
      have hOr := registry_performAll operations (new signer) reportData
      rwa [show (new signer).registry.get? reportData = none from rfl, Option.or_none] at hOr
    refine ⟨hChain, ?_, hRegistry, certificates_performAll operations (new signer),
      signer_performAll operations (new signer), Operation.outcome_openDevice device,
      Operation.outcome_closeDevice device, ?_,
      fun operation cause => Operation.apply_of_failed_move,
      fun operation hOther => (operation.changes_apply device).contents_eq hOther⟩
    · rw [List.getLast?_cons] at hLast
      exact (Option.some.inj hLast).symm
    · exact fun reportData prepared => congrArg Outcome.registered (hRegistry reportData)
  · exact hThinned.trace_eq (.refl _ _)
  · rw [answersAbout_filter reportData left (.refl _ _), hSame,
      ← answersAbout_filter reportData right (.refl _ _)]

end SimulatedDevice

end SnpGuest
