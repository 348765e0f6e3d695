import SnpGuest.Proofs.Simulator.Calls

namespace SnpGuest

/-!
# The client on the simulated device

Both requests of the client come down to one `serve` from a zero response buffer and a clear error
word: the plain one at once, the one for certificates behind a size query that leaves the device
and the response buffer as they were.  So the two agree on the report, on every failure and on what
is signed, and the second hands over the device's certificates whole.
-/

/-- No status of the firmware alone reads as the answer to a size query. -/
theorem ErrorWord.ofFirmwareCode_ne_sizeReply (code : UInt32) :
    ErrorWord.ofFirmwareCode code ≠ .sizeReply := by
  intro hSame
  have hValue := congrArg (fun word => word.value.toNat) hSame
  have hSmall := code.toNat_lt
  have hReply : ErrorWord.sizeReply.value.toNat = 4294967296 := by decide
  simp only [ErrorWord.ofFirmwareCode, UInt32.toNat_toUInt64, hReply] at hValue
  omega

theorem Client.accept_error_cases {result : ExitResult} {word : ErrorWord}
    {response : ResponseMessage} {cause : Error}
    (hError : Client.accept result word response = .error cause) :
    (word ≠ .clear ∧ cause = .firmware word) ∨
      (result ≠ .ok ∧ cause = .lowerLayer result) ∨
      cause = .firmware (.ofFirmwareCode response.status) := by
  unfold Client.accept Client.exitFailure? Client.statusFailure? at hError
  by_cases hWord : word = .clear
  · by_cases hResult : result = .ok
    · by_cases hStatus : response.status = 0
      · simp [hWord, hResult, hStatus] at hError
      · simp [hWord, hResult, hStatus] at hError
        exact .inr (.inr hError.symm)
    · simp [hWord, hResult] at hError
      exact .inr (.inl ⟨hResult, hError.symm⟩)
  · simp [hWord] at hError
    exact .inl ⟨hWord, hError.symm⟩

namespace SimulatedDevice

/-- What a client makes of a served request. -/
def Service.accepted (service : Service) : Except Error Report :=
  match service.result with
  | .error cause => .error cause
  | .ok result => Client.accept result service.errorWord service.response

variable {device : SimulatedDevice}

theorem call_guestDevice {n : Nat} (command : UInt64) (argument : Argument n) :
    Client.call guestDevice command argument device =
      match (ioctl command argument device).1.result with
      | .error cause => (.error cause, (ioctl command argument device).2)
      | .ok result =>
        (.ok (result, (ioctl command argument device).1.argument),
          (ioctl command argument device).2) :=
  rfl

/-! ## The plain request -/

theorem requestReport_closed (hClosed : device.isOpen = false) (reportData : Block 64)
    (vmpl : UInt32) :
    Client.requestReport guestDevice reportData vmpl device = (.error .notOpen, device) := by
  rw [Client.requestReport, Client.bind_apply, call_guestDevice, Argument.plain, Request.fresh,
    ioctl_closed hClosed]

theorem requestReport_open (hOpen : device.isOpen = true) (reportData : Block 64)
    (vmpl : UInt32) :
    Client.requestReport guestDevice reportData vmpl device =
      ((device.serve reportData .zero .clear).accepted,
        device.after (device.serve reportData .zero .clear).signed) := by
  rw [Client.requestReport, Client.bind_apply, call_guestDevice, Argument.plain, Request.fresh,
    ioctl_plain hOpen, Service.accepted]
  simp only [RequestMessage.new]
  cases (device.serve reportData .zero .clear).result <;> rfl

/-! ## The request with certificates -/

theorem requestWithCertificates_closed (hClosed : device.isOpen = false) (reportData : Block 64)
    (vmpl : UInt32) :
    Client.requestWithCertificates guestDevice reportData vmpl device =
      (.error .notOpen, device) := by
  rw [Client.requestWithCertificates, Client.bind_apply, Client.callExtended, Client.bind_apply,
    call_guestDevice, Argument.extended, Request.fresh, ioctl_closed hClosed]

/-- The size query leaves the device and the response buffer as they were. -/
theorem callExtended_sizeQuery (hOpen : device.isOpen = true)
    (hSize : device.certificates.length < CertificateTable.wordLimit) (request : RequestMessage)
    (response : ResponseMessage) :
    Client.callExtended guestDevice request 0 response device =
      (.ok ⟨.ok, .sizeReply, UInt32.ofNat device.certificates.length, response, .zero 0⟩,
        device) := by
  rw [Client.callExtended, Client.bind_apply, call_guestDevice, Argument.extended, Request.fresh,
    show saturatedLength 0 = 0 from rfl, ioctl_sizeQuery hOpen hSize]
  rfl

/-- The second call, with a buffer of the size that the first one answered. -/
theorem callExtended_fill (hOpen : device.isOpen = true) {certsLen : UInt32} (hLen : certsLen ≠ 0)
    (hSize : device.certificates.length = certsLen.toNat) (request : RequestMessage)
    (response : ResponseMessage) :
    Client.callExtended guestDevice request certsLen.toNat response device =
      (match (device.serve request.reportData response .clear).result with
        | .error cause => .error cause
        | .ok result =>
          .ok ⟨result, (device.serve request.reportData response .clear).errorWord, certsLen,
            (device.serve request.reportData response .clear).response,
            ⟨device.certificates, hSize⟩⟩,
        device.after (device.serve request.reportData response .clear).signed) := by
  rw [Client.callExtended, Client.bind_apply, call_guestDevice, Argument.extended, Request.fresh,
    saturatedLength_toNat, ioctl_extended hOpen hLen]
  cases hResult : (device.serve request.reportData response .clear).result with
  | error cause => simp only [hResult]
  | ok result =>
      simp only [hResult, fill_of_same_size result _ hSize]
      rfl

theorem requestWithCertificates_open (hOpen : device.isOpen = true)
    (hSize : device.certificates.length < CertificateTable.wordLimit) (reportData : Block 64)
    (vmpl : UInt32) :
    Client.requestWithCertificates guestDevice reportData vmpl device =
      ((device.serve reportData .zero .clear).accepted.map fun report =>
          (report, device.certificates),
        device.after (device.serve reportData .zero .clear).signed) := by
  have hLength : (UInt32.ofNat device.certificates.length).toNat = device.certificates.length :=
    UInt32.toNat_ofNat_of_lt' hSize
  have hAsks : ErrorWord.sizeReply.asksForBuffer = true := by decide
  rw [Client.requestWithCertificates, Client.bind_apply, callExtended_sizeQuery hOpen hSize]
  by_cases hNone : device.certificates = []
  · -- Size zero: the fallback is the plain request, and there is nothing to hand over.
    have hZero : UInt32.ofNat device.certificates.length = 0 := by
      rw [hNone]
      rfl
    simp only [hAsks, hZero, if_true]
    rw [Client.bind_apply, requestReport_open hOpen, hNone]
    cases (device.serve reportData .zero .clear).accepted <;> rfl
  · have hLen : UInt32.ofNat device.certificates.length ≠ 0 := by
      intro hZero
      rw [hZero] at hLength
      exact hNone (List.length_eq_zero_iff.mp hLength.symm)
    simp only [hAsks, hLen, if_true, if_false]
    rw [Client.bind_apply, callExtended_fill hOpen hLen hLength.symm, Service.accepted]
    simp only [RequestMessage.new]
    cases (device.serve reportData .zero .clear).result with
    | error cause => rfl
    | ok result =>
        simp only [Client.bind_apply, Client.lift_apply]
        cases Client.accept result (device.serve reportData .zero .clear).errorWord
          (device.serve reportData .zero .clear).response <;> rfl

/-- Certificates that no length field can declare end the request at the size query. -/
theorem requestWithCertificates_of_large (hOpen : device.isOpen = true)
    (hLarge : CertificateTable.wordLimit ≤ device.certificates.length) (reportData : Block 64)
    (vmpl : UInt32) :
    Client.requestWithCertificates guestDevice reportData vmpl device =
      (.error (.certificatesTooLarge device.certificates.length), device) := by
  rw [Client.requestWithCertificates, Client.bind_apply, Client.callExtended, Client.bind_apply,
    call_guestDevice, Argument.extended, Request.fresh, show saturatedLength 0 = 0 from rfl,
    ioctl_sizeQuery_of_large hOpen hLarge]

/-! ## Failures -/

/-- The ways in which a request of the client can fail on the simulated device. -/
inductive ClientFailure (device : SimulatedDevice) (reportData : Block 64) : Error → Prop
  | notOpen : ClientFailure device reportData .notOpen
  | noResponse : ClientFailure device reportData (.noResponse reportData)
  | signer (causes : List String) : ClientFailure device reportData (.sign causes)
  | embedding (cause : ComponentError) : ClientFailure device reportData (.setSignature cause)
  | exit (result : ExitResult) : ClientFailure device reportData (.lowerLayer result)
  | prepared (word : ErrorWord)
      (hPrepared : ∃ prepared, device.registry.get? reportData = some prepared ∧
        prepared.errorWord = word) : ClientFailure device reportData (.firmware word)
  | status (code : UInt32) (word : ErrorWord) (hCode : ErrorWord.ofFirmwareCode code = word) :
      ClientFailure device reportData (.firmware word)

theorem clientFailure_of_accepted {reportData : Block 64} {cause : Error}
    (hError : (device.serve reportData .zero .clear).accepted = .error cause) :
    ClientFailure device reportData cause := by
  rcases serve_cases device reportData .zero .clear with
    ⟨-, hServe⟩ | ⟨prepared, hFound, ⟨-, hServe⟩ | ⟨-, flaw, hServe⟩ | ⟨-, report, -, hServe⟩⟩
  all_goals simp only [hServe, Service.accepted] at hError
  · rw [← Except.error.inj hError]
    exact .noResponse
  · rcases Client.accept_error_cases hError with ⟨-, rfl⟩ | ⟨-, rfl⟩ | rfl
    · exact .prepared _ ⟨prepared, hFound, rfl⟩
    · exact .exit _
    · exact .status _ _ rfl
  · rw [← Except.error.inj hError]
    cases flaw with
    | signer causes => exact .signer causes
    | embedding cause => exact .embedding cause
  · -- A clear word is no failure here, so the exit or the status is.
    rcases Client.accept_error_cases hError with ⟨hClear, -⟩ | ⟨-, rfl⟩ | rfl
    · exact absurd rfl hClear
    · exact .exit _
    · exact .status _ _ rfl

/-! ## Agreement -/

/-- One outcome and one list of signed messages stand for both requests, at any privilege level:
on a closed device a refusal, on an open one what `serve` gives. -/
theorem exists_common_outcome (device : SimulatedDevice)
    (hSize : device.certificates.length < CertificateTable.wordLimit) (reportData : Block 64) :
    ∃ (outcome : Except Error Report) (messages : List Bytes),
      (outcome = .error .notOpen ∨
        outcome = (device.serve reportData .zero .clear).accepted) ∧
      ∀ vmpl, Client.requestReport guestDevice reportData vmpl device =
          (outcome, device.after messages) ∧
        Client.requestWithCertificates guestDevice reportData vmpl device =
          (outcome.map fun report => (report, device.certificates), device.after messages) := by
  cases hOpen : device.isOpen with
  | false =>
      refine ⟨.error .notOpen, [], .inl rfl, fun vmpl => ?_⟩
      rw [after_nil]
      exact ⟨requestReport_closed hOpen reportData vmpl,
        requestWithCertificates_closed hOpen reportData vmpl⟩
  | true =>
      exact ⟨_, _, .inr rfl, fun vmpl => ⟨requestReport_open hOpen reportData vmpl,
        requestWithCertificates_open hOpen hSize reportData vmpl⟩⟩

/-- The two requests of the client agree on every device state and for every signer: the one with
certificates succeeds exactly when the plain one does, with the same report and the certificates
as the device holds them, and fails with the same error otherwise.  That it takes two calls never
shows: neither a buffer that is too small nor a request in another's place comes up, and the error
word of a size reply is seen only where it was prepared.  Both leave the device in the same state,
which is the old one but for the messages that were signed, and the privilege level is of no
account. -/
theorem requestWithCertificates_agrees (device : SimulatedDevice)
    (hSize : device.certificates.length < CertificateTable.wordLimit) (reportData : Block 64)
    (vmpl : UInt32) :
    let plain := Client.requestReport guestDevice reportData vmpl device
    let extended := Client.requestWithCertificates guestDevice reportData vmpl device
    (∀ report certificates, extended.1 = .ok (report, certificates) ↔
      plain.1 = .ok report ∧ certificates = device.certificates) ∧
    (∀ cause, extended.1 = .error cause ↔ plain.1 = .error cause) ∧
    (∀ actual required, extended.1 ≠ .error (.bufferTooSmall actual required)) ∧
    (∀ problem, extended.1 ≠ .error (.unexpectedRequest problem)) ∧
    (extended.1 = .error (.firmware .sizeReply) →
      ∃ prepared, device.registry.get? reportData = some prepared ∧
        prepared.errorWord = .sizeReply) ∧
    extended.2 = plain.2 ∧
    (∃ messages, plain.2 = { device with signed := device.signed ++ messages }) ∧
    ∀ otherVmpl, Client.requestReport guestDevice reportData otherVmpl device = plain ∧
      Client.requestWithCertificates guestDevice reportData otherVmpl device = extended := by
  intro plain extended
  obtain ⟨outcome, messages, hOutcome, hRuns⟩ := exists_common_outcome device hSize reportData
  have hPlain : plain = (outcome, device.after messages) := (hRuns vmpl).1
  have hExtended : extended = (outcome.map fun report => (report, device.certificates),
      device.after messages) := (hRuns vmpl).2
  have hError : ∀ cause, extended.1 = .error cause ↔ outcome = .error cause := by
    intro cause
    rw [hExtended]
    cases outcome <;> simp [Except.map]
  have hCause : ∀ cause, extended.1 = .error cause → ClientFailure device reportData cause := by
    intro cause hFailed
    rw [hError] at hFailed
    rcases hOutcome with hNotOpen | hServed
    · rw [← Except.error.inj (hNotOpen.symm.trans hFailed)]
      exact .notOpen
    · exact clientFailure_of_accepted (hServed.symm.trans hFailed)
  refine ⟨?_, ?_, ?_, ?_, ?_, ?_, ⟨messages, ?_⟩, ?_⟩
  · intro report certificates
    rw [hPlain, hExtended]
    cases outcome <;> simp [Except.map, eq_comm]
  · intro cause
    rw [hError, hPlain]
  · intro actual required hFailed
    cases hCause _ hFailed
  · intro problem hFailed
    cases hCause _ hFailed
  · intro hFailed
    cases hCause _ hFailed with
    | prepared _ hPrepared => exact hPrepared
    | status code _ hCode => exact absurd hCode (ErrorWord.ofFirmwareCode_ne_sizeReply code)
  · rw [hExtended, hPlain]
  · rw [hPlain, after]
  · intro otherVmpl
    rw [hPlain, hExtended]
    exact hRuns otherVmpl

/-- A device with three bytes of certificates and a signer of two small components: both requests
get a report, and the second gets the three bytes. -/
theorem requestWithCertificates_agrees_of_small_signature :
    let data : Block 64 := .zero 64
    let device : SimulatedDevice :=
      { new (.fixed ⟨[1], [2]⟩) with
        isOpen := true
        registry := (Registry.empty.insert data (.accepted data)).2
        certificates := [1, 2, 3] }
    device.certificates.length < CertificateTable.wordLimit ∧
      ∃ report, (Client.requestReport guestDevice data 0 device).1 = .ok report ∧
        (Client.requestWithCertificates guestDevice data 3 device).1 = .ok (report, [1, 2, 3]) := by
  intro data device
  have hSize : device.certificates.length < CertificateTable.wordLimit := by decide
  obtain ⟨hOk, -, -, -, -, -, -, hVmpl⟩ := requestWithCertificates_agrees device hSize data 0
  have hFound : device.registry.get? data = some (.accepted data) :=
    OrderedMap.get?_insert_self _ _ _
  have hPlain : ∃ report, (Client.requestReport guestDevice data 0 device).1 = .ok report := by
    rw [requestReport_open rfl]
    simp only [serve, hFound]
    exact ⟨_, rfl⟩
  obtain ⟨report, hReport⟩ := hPlain
  refine ⟨hSize, report, hReport, ?_⟩
  rw [(hVmpl 3).2]
  exact (hOk report _).mpr ⟨hReport, rfl⟩

end SimulatedDevice

end SnpGuest
