import SnpGuest.Proofs.Client.Protocol
import SnpGuest.Proofs.Simulator.Refusals

namespace SnpGuest

/-!
# Runs of a simulated device

A run is a list of operations, each with the signer as it answers at that time, so that a signer may
remember what it was asked before.  Calls reach the device from two sides: directly, and from the
client, which makes one or two of them and chooses the second by the reply to the first.

The device keeps the messages for which it asked its signer.  Main statement: along every run these
are the messages of those calls that get as far as a signature, one for each, in order.  What the
signer answers to the message of a call decides the reply, so no such call goes past the signer.
-/

/-- The data over which a command and a payload ask for a report, if they do. -/
def askedData? (command : UInt64) : Payload → Option (Block 64)
  | .report report => if command = Command.getReport then some report.reportData else none
  | .extended report certsLen =>
    if command = Command.getExtendedReport ∧ certsLen ≠ 0 then some report.reportData else none

theorem askedData?_eq_some_iff {command : UInt64} {payload : Payload} {reportData : Block 64} :
    askedData? command payload = some reportData ↔ AsksForReport command payload reportData := by
  constructor
  · intro hAsked
    cases payload with
    | report report =>
        obtain ⟨rfl, rfl⟩ : command = Command.getReport ∧ report.reportData = reportData := by
          simpa [askedData?] using hAsked
        exact .plain report
    | extended report certsLen =>
        obtain ⟨⟨rfl, hLen⟩, rfl⟩ : (command = Command.getExtendedReport ∧ certsLen ≠ 0) ∧
            report.reportData = reportData := by
          simpa [askedData?] using hAsked
        exact .extended report certsLen hLen
  · rintro (⟨report⟩ | ⟨report, certsLen, hLen⟩)
    · simp [askedData?]
    · simp [askedData?, hLen]

namespace SimulatedDevice

/-! ## What a call asks the signer for -/

/-- The message for which a report over some data asks the signer, if the device gets so far. -/
def messageFor? (device : SimulatedDevice) (reportData : Block 64) : Option Bytes :=
  (device.registry.get? reportData).bind fun prepared =>
    if prepared.errorWord = .clear then some prepared.response.report.signedBytes.toList else none

/-- The message for which a call asks the signer, if it does. -/
def signingMessage? (arrival : Arrival SimulatedDevice) : Option Bytes :=
  match arrival.call.argument.request with
  | .raw _ => none
  | .guest request =>
    if arrival.state.isOpen then
      (askedData? arrival.call.command request.payload).bind arrival.state.messageFor?
    else none

theorem messageFor?_eq_some_iff (device : SimulatedDevice) (reportData : Block 64)
    (message : Bytes) :
    device.messageFor? reportData = some message ↔
      ∃ prepared, device.registry.get? reportData = some prepared ∧
        prepared.errorWord = .clear ∧
        message = prepared.response.report.toBlock.toList.take 0x2A0 := by
  simp only [messageFor?, Option.bind_eq_some_iff, Option.ite_none_right_eq_some, Option.some_inj,
    Report.toList_signedBytes, @eq_comm _ message]

theorem signingMessage?_eq_some_iff (arrival : Arrival SimulatedDevice) (message : Bytes) :
    signingMessage? arrival = some message ↔
      arrival.state.isOpen = true ∧ ∃ version payload word reportData prepared,
        arrival.call.argument.request = .guest ⟨version, payload, word⟩ ∧
        AsksForReport arrival.call.command payload reportData ∧
        arrival.state.registry.get? reportData = some prepared ∧
        prepared.errorWord = .clear ∧
        message = prepared.response.report.toBlock.toList.take 0x2A0 := by
  unfold signingMessage?
  split
  · next bytes hRequest => simp [hRequest]
  · next request hRequest =>
      simp only [Option.ite_none_right_eq_some, Option.bind_eq_some_iff, askedData?_eq_some_iff,
        messageFor?_eq_some_iff, hRequest]
      constructor
      · rintro ⟨hOpen, reportData, hAsks, prepared, hPrepared⟩
        exact ⟨hOpen, _, _, _, reportData, prepared, rfl, hAsks, hPrepared⟩
      · rintro ⟨hOpen, version, payload, word, reportData, prepared, hGuest, hAsks, hPrepared⟩
        cases hGuest
        exact ⟨hOpen, reportData, hAsks, prepared, hPrepared⟩

theorem serve_signed (device : SimulatedDevice) (reportData : Block 64)
    (response : ResponseMessage) (word : ErrorWord) :
    (device.serve reportData response word).signed = (device.messageFor? reportData).toList := by
  rw [messageFor?]
  rcases serve_cases device reportData response word with
    ⟨hUnknown, hServe⟩ | ⟨prepared, hFound, ⟨hWord, hServe⟩ | ⟨hWord, _, hServe⟩ |
      ⟨hWord, _, _, hServe⟩⟩
  · rw [hServe, hUnknown]
    rfl
  · simp [hServe, hFound, hWord]
  · simp [hServe, hFound, hWord]
  · simp [hServe, hFound, hWord]

/-- The signer counts for nothing in a report but by its answer to the message. -/
theorem serve_of_signer {device : SimulatedDevice} {signer : Signer} {reportData : Block 64}
    (hAgree : ∀ message, device.messageFor? reportData = some message →
      signer.sign message = device.signer.sign message)
    (response : ResponseMessage) (word : ErrorWord) :
    serve { device with signer := signer } reportData response word =
      device.serve reportData response word := by
  cases hFound : device.registry.get? reportData with
  | none => simp [serve, hFound]
  | some prepared =>
      by_cases hWord : prepared.errorWord = .clear
      · have hSigner := hAgree prepared.response.report.signedBytes.toList
          (by simp [messageFor?, hFound, hWord])
        simp only [serve, Report.signWith_ask, Report.sign_eq, hFound, hSigner]
      · simp [serve, hFound, hWord]

section Answers

variable {device : SimulatedDevice} {command : UInt64} {request : GuestRequest}

/-- Without a report there is no use for the signer. -/
theorem answer_of_unasked (hNone : askedData? command request.payload = none) (signer : Signer)
    {n : Nat} (argument : Argument n) :
    answer { device with signer := signer } command request argument =
        device.answer command request argument ∧
      (device.answer command request argument).2 = [] := by
  obtain ⟨version, payload, word⟩ := request
  cases payload with
  | report report =>
      have hOther : command ≠ Command.getReport := by simpa [askedData?] using hNone
      simp only [answer, if_neg hOther]
      split <;> exact ⟨trivial, rfl⟩
  | extended report certsLen =>
      by_cases hExtended : command = Command.getExtendedReport
      · obtain rfl : certsLen = 0 := by simpa [askedData?, hExtended] using hNone
        rw [hExtended, answer_extended, answer_extended]
        exact ⟨rfl, rfl⟩
      · simp only [answer, if_neg hExtended]
        split <;> exact ⟨trivial, rfl⟩

theorem answer_signed {n : Nat} (argument : Argument n) :
    (device.answer command request argument).2 =
      ((askedData? command request.payload).bind device.messageFor?).toList := by
  cases hAsked : askedData? command request.payload with
  | none => exact (answer_of_unasked hAsked device.signer argument).2
  | some reportData =>
      obtain ⟨version, payload, word⟩ := request
      rw [Option.bind_some, ← serve_signed device reportData argument.response word]
      cases askedData?_eq_some_iff.mp hAsked with
      | plain report => rfl
      | extended report certsLen hLen =>
          -- Neither a failure nor a buffer that is too small takes the signature back.
          rw [answer_extended, answerExtended, if_neg hLen]
          dsimp only
          split <;> rfl

theorem answer_of_signer {signer : Signer}
    (hAgree : ∀ message, (askedData? command request.payload).bind device.messageFor? =
      some message → signer.sign message = device.signer.sign message)
    {n : Nat} (argument : Argument n) :
    answer { device with signer := signer } command request argument =
      device.answer command request argument := by
  cases hAsked : askedData? command request.payload with
  | none => exact (answer_of_unasked hAsked signer argument).1
  | some reportData =>
      obtain ⟨version, payload, word⟩ := request
      rw [hAsked, Option.bind_some] at hAgree
      have hServe := serve_of_signer hAgree argument.response word
      cases askedData?_eq_some_iff.mp hAsked with
      | plain report => simp only [answer, hServe]
      | extended report certsLen hLen =>
          rw [answer_extended, answer_extended]
          simp only [answerExtended, hServe]
          rfl

end Answers

theorem filterMap_signingMessage?_singleton (arrival : Arrival SimulatedDevice) :
    [arrival].filterMap signingMessage? = (signingMessage? arrival).toList := by
  cases hMessage : signingMessage? arrival <;> simp [hMessage]

/-- A call changes nothing of the device but the record, and this by its own message. -/
theorem next_guestDevice (arrival : Arrival SimulatedDevice) :
    arrival.next guestDevice = arrival.state.after ([arrival].filterMap signingMessage?) := by
  rw [filterMap_signingMessage?_singleton]
  obtain ⟨device, command, ⟨request | bytes, response, buffer⟩⟩ := arrival
  · cases hOpen : device.isOpen with
    | false =>
        have hCall := ioctl_closed hOpen command request response buffer
        simp [Arrival.next, guestDevice, hCall, signingMessage?, hOpen]
    | true =>
        have hCall := ioctl_open hOpen command request response buffer
        simp [Arrival.next, guestDevice, hCall, signingMessage?, hOpen, answer_signed]
  · simp [Arrival.next, guestDevice, ioctl_raw, signingMessage?]

/-- The reply to a call depends on the signer only by the answer to the message of the call. -/
theorem reply_of_signer (arrival : Arrival SimulatedDevice) (signer : Signer)
    (hAgree : ∀ message, signingMessage? arrival = some message →
      signer.sign message = arrival.state.signer.sign message) :
    (Arrival.mk { arrival.state with signer := signer } arrival.call).reply guestDevice =
      arrival.reply guestDevice := by
  obtain ⟨device, command, ⟨request | bytes, response, buffer⟩⟩ := arrival
  · let other : SimulatedDevice := { device with signer := signer }
    show (ioctl command ⟨.guest request, response, buffer⟩ other).1 =
      (ioctl command ⟨.guest request, response, buffer⟩ device).1
    by_cases hOpen : device.isOpen = true
    · have hOther : other.isOpen = true := hOpen
      have hAnswer : other.answer command request _ = device.answer command request _ :=
        answer_of_signer (by simpa [signingMessage?, hOpen] using hAgree)
          ⟨.guest request, response, buffer⟩
      rw [ioctl_open hOther, ioctl_open hOpen, hAnswer]
    · have hClosed : device.isOpen = false := by simpa using hOpen
      have hOther : other.isOpen = false := hClosed
      rw [ioctl_closed hOther, ioctl_closed hClosed]
  · rfl

/-- A reply as the signer's answer wants it, for a call that asks for the report of a prepared
response.  A failure is passed on.  Components that do not fit are refused, and others stand in the
report that the call leaves, whatever becomes of the certificates. -/
inductive Answered (prepared : PreparedResponse) {n : Nat} (argument : Argument n) :
    Except (List String) SignatureComponents → Reply n → Prop
  | failed (causes : List String) :
      Answered prepared argument (.error causes) ⟨.error (.sign causes), argument⟩
  | unfit (components : SignatureComponents) (cause : ComponentError)
      (hEmbed : (prepared.response.report.signature.embed components.r components.s).1 =
        .error cause) :
      Answered prepared argument (.ok components) ⟨.error (.setSignature cause), argument⟩
  | embedded (components : SignatureComponents) (signature : SignatureArea) (reply : Reply n)
      (hEmbed : prepared.response.report.signature.embed components.r components.s =
        (.ok (), signature))
      (hResponse : reply.argument.response =
        { prepared.response with
          report := { prepared.response.report with signature := signature } }) :
      Answered prepared argument (.ok components) reply

theorem ioctl_answered {device : SimulatedDevice} {command : UInt64} {version : UInt8}
    {payload : Payload} {word : ErrorWord} {reportData : Block 64} {prepared : PreparedResponse}
    (hOpen : device.isOpen = true) (hAsks : AsksForReport command payload reportData)
    (hFound : device.registry.get? reportData = some prepared)
    (hWord : prepared.errorWord = .clear) {n : Nat} (response : ResponseMessage)
    (buffer : Block n) :
    let argument : Argument n := ⟨.guest ⟨version, payload, word⟩, response, buffer⟩
    Answered prepared argument
      (device.signer.sign prepared.response.report.signedBytes.toList)
      (ioctl command argument device).1 := by
  intro argument
  cases hSigner : device.signer.sign prepared.response.report.signedBytes.toList with
  | error causes =>
      rw [ioctl_of_withholds hOpen hAsks (.sign prepared causes hFound hWord hSigner)]
      exact .failed causes
  | ok components =>
      rcases hEmbed : prepared.response.report.signature.embed components.r components.s with
        ⟨cause | ⟨⟩, signature⟩
      · have hCause := congrArg Prod.fst hEmbed
        rw [ioctl_of_withholds hOpen hAsks
          (.setSignature prepared components cause hFound hWord hSigner hCause)]
        exact .unfit components cause hCause
      · have hSign := Report.sign_of_components hSigner
        rw [hEmbed] at hSign
        exact .embedded components signature _ hEmbed
          (response_of_signed hOpen hAsks hFound hWord hSign response buffer)

/-- A call that asks the signer for a message is answered by what the signer says to it. -/
theorem reply_answered (arrival : Arrival SimulatedDevice) (message : Bytes)
    (hMessage : signingMessage? arrival = some message) :
    ∃ version payload word reportData prepared,
      arrival.call.argument.request = .guest ⟨version, payload, word⟩ ∧
      AsksForReport arrival.call.command payload reportData ∧
      arrival.state.registry.get? reportData = some prepared ∧
      Answered prepared arrival.call.argument (arrival.state.signer.sign message)
        (arrival.reply guestDevice) := by
  obtain ⟨hOpen, version, payload, word, reportData, prepared, hRequest, hAsks, hFound, hWord,
    rfl⟩ := (signingMessage?_eq_some_iff arrival message).mp hMessage
  refine ⟨version, payload, word, reportData, prepared, hRequest, hAsks, hFound, ?_⟩
  obtain ⟨device, command, ⟨request, response, buffer⟩⟩ := arrival
  obtain rfl : request = .guest ⟨version, payload, word⟩ := hRequest
  rw [← Report.toList_signedBytes]
  exact ioctl_answered hOpen hAsks hFound hWord response buffer

/-! ## What the client's calls ask the signer for -/

/-- The record of the device has grown from `before` by the messages of the observed calls. -/
def Ledger (before : List Bytes)
    (observed : SimulatedDevice × List (Arrival SimulatedDevice)) (device : SimulatedDevice) :
    Prop :=
  observed.1 = device ∧ device.signed = before ++ observed.2.filterMap signingMessage?

theorem ledger_answersAlike (before : List Bytes) :
    GuestDevice.AnswersAlike (Ledger before) guestDevice.observed guestDevice := by
  rintro n command argument ⟨device, seen⟩ device' ⟨hDevice, hSigned⟩
  obtain rfl : device = device' := hDevice
  refine ⟨rfl, rfl, ?_⟩
  have hSeen : device.signed = before ++ seen.filterMap signingMessage? := hSigned
  let arrival : Arrival SimulatedDevice := ⟨device, command, argument⟩
  show (arrival.next guestDevice).signed = before ++ (seen ++ [arrival]).filterMap signingMessage?
  rw [next_guestDevice, List.filterMap_append, ← List.append_assoc, ← hSeen]
  rfl

theorem signed_of_runsAlike {α : Type} {right : Client SimulatedDevice α}
    (program : GuestDevice (SimulatedDevice × List (Arrival SimulatedDevice)) →
      Client (SimulatedDevice × List (Arrival SimulatedDevice)) α)
    (hAlike : ∀ before, Client.RunsAlike (Ledger before) (program guestDevice.observed) right)
    (device : SimulatedDevice) :
    (right device).2.signed =
      device.signed ++ (guestDevice.arrivals device program).filterMap signingMessage? :=
  (hAlike device.signed (device, []) device ⟨rfl, (List.append_nil _).symm⟩).2.2

/-- A size query asks the signer for nothing. -/
theorem signingMessage?_sizeQuery (device : SimulatedDevice) (request : RequestMessage)
    (response : ResponseMessage) :
    signingMessage? (.extended device request 0 response) = none := by
  have hNone : saturatedLength 0 = 0 := rfl
  simp [signingMessage?, Arrival.extended, Argument.extended, Request.fresh, askedData?, hNone]

theorem length_signings_of_course {device : SimulatedDevice} {request : RequestMessage}
    {arrivals : List (Arrival SimulatedDevice)} {outcome : Except Error (Report × Bytes)}
    (hCourse : Client.Course guestDevice request device arrivals outcome) :
    (arrivals.filterMap signingMessage?).length ≤ 1 := by
  cases hCourse with
  | query query hQuery => exact List.length_filterMap_le _ _
  | plain query last hQuery =>
      rw [hQuery, List.filterMap_cons_none (signingMessage?_sizeQuery _ _ _)]
      exact List.length_filterMap_le _ _
  | fill query last hQuery =>
      rw [hQuery, List.filterMap_cons_none (signingMessage?_sizeQuery _ _ _)]
      exact List.length_filterMap_le _ _

/-! ## Operations -/

inductive Operation where
  | openDevice
  | closeDevice
  | register (reportData : Block 64) (prepared : PreparedResponse)
  | setCertificates (certificates : Bytes)
  | ioctl (command : UInt64) {n : Nat} (argument : Argument n)
  | requestReport (reportData : Block 64) (vmpl : UInt32)
  | requestWithCertificates (reportData : Block 64) (vmpl : UInt32)

namespace Operation

/-- The device after an operation.  One that fails to open or to close it leaves it alone. -/
def apply : Operation → SimulatedDevice → SimulatedDevice
  | openDevice, device => device.openDevice.toOption.getD device
  | closeDevice, device => device.closeDevice.toOption.getD device
  | register reportData prepared, device => (device.register reportData prepared).2
  | setCertificates certificates, device => device.withCertificates certificates
  | ioctl command argument, device => (SimulatedDevice.ioctl command argument device).2
  | requestReport reportData vmpl, device =>
    (Client.requestReport guestDevice reportData vmpl device).2
  | requestWithCertificates reportData vmpl, device =>
    (Client.requestWithCertificates guestDevice reportData vmpl device).2

/-- The calls that reach the device in an operation. -/
def arrivals : Operation → SimulatedDevice → List (Arrival SimulatedDevice)
  | ioctl command argument, device => [⟨device, command, argument⟩]
  | requestReport reportData vmpl, device =>
    guestDevice.arrivals device (Client.requestReport · reportData vmpl)
  | requestWithCertificates reportData vmpl, device =>
    guestDevice.arrivals device (Client.requestWithCertificates · reportData vmpl)
  | _, _ => []

/-- One operation adds the messages of its calls to the record. -/
theorem signed_apply (operation : Operation) (device : SimulatedDevice) :
    (operation.apply device).signed =
      device.signed ++ (operation.arrivals device).filterMap signingMessage? := by
  cases operation with
  | openDevice =>
      cases hOpen : device.isOpen <;>
        simp [apply, arrivals, SimulatedDevice.openDevice, hOpen, Except.toOption]
  | closeDevice =>
      cases hOpen : device.isOpen <;>
        simp [apply, arrivals, SimulatedDevice.closeDevice, hOpen, Except.toOption]
  | register reportData prepared => simp [apply, arrivals, SimulatedDevice.register]
  | setCertificates certificates => simp [apply, arrivals, withCertificates]
  | ioctl command argument =>
      let arrival : Arrival SimulatedDevice := ⟨device, command, argument⟩
      exact congrArg signed (next_guestDevice arrival)
  | requestReport reportData vmpl =>
      exact signed_of_runsAlike (Client.requestReport · reportData vmpl)
        (fun before => Client.requestReport_runsAlike (ledger_answersAlike before) _ _) device
  | requestWithCertificates reportData vmpl =>
      exact signed_of_runsAlike (Client.requestWithCertificates · reportData vmpl)
        (fun before => Client.requestWithCertificates_runsAlike (ledger_answersAlike before) _ _)
        device

/-- No operation asks the signer twice.  Only a request with certificates makes two calls, and its
first is a size query. -/
theorem length_signings_le_one (operation : Operation) (device : SimulatedDevice) :
    ((operation.arrivals device).filterMap signingMessage?).length ≤ 1 := by
  cases operation with
  | ioctl command argument => exact List.length_filterMap_le _ _
  | requestReport reportData vmpl =>
      rw [arrivals, Client.arrivals_requestReport]
      exact List.length_filterMap_le _ _
  | requestWithCertificates reportData vmpl =>
      exact length_signings_of_course
        (Client.course_requestWithCertificates guestDevice reportData vmpl device)
  | _ => exact Nat.zero_le 1

end Operation

/-! ## Runs -/

/-- An operation, and the signer as it answers then.  A signer with a memory is another one at each
turn. -/
structure Turn where
  signer : Signer
  operation : Operation

namespace Turn

def apply (turn : Turn) (device : SimulatedDevice) : SimulatedDevice :=
  turn.operation.apply { device with signer := turn.signer }

def arrivals (turn : Turn) (device : SimulatedDevice) : List (Arrival SimulatedDevice) :=
  turn.operation.arrivals { device with signer := turn.signer }

end Turn

/-- The device after a run. -/
def run : List Turn → SimulatedDevice → SimulatedDevice
  | [], device => device
  | turn :: later, device => run later (turn.apply device)

/-- The calls that reach the device in a run, each with the state that it finds. -/
def runArrivals : List Turn → SimulatedDevice → List (Arrival SimulatedDevice)
  | [], _ => []
  | turn :: later, device => turn.arrivals device ++ runArrivals later (turn.apply device)

theorem signed_run (turns : List Turn) (device : SimulatedDevice) :
    (run turns device).signed =
      device.signed ++ (runArrivals turns device).filterMap signingMessage? := by
  induction turns generalizing device with
  | nil => exact (List.append_nil _).symm
  | cons turn later ih =>
      have hTurn : (turn.apply device).signed =
          device.signed ++ (turn.arrivals device).filterMap signingMessage? :=
        turn.operation.signed_apply _
      rw [run, runArrivals, ih, hTurn, List.filterMap_append, List.append_assoc]

/-- Along every run on a new device, the messages for which the signer was asked are those of the
calls that `signingMessage?` picks, one for each and in the order of the calls.  These are the calls
that ask an open device for a report over data whose response is at that time prepared without an
error word; the message is the signed part of that response's report.  No operation asks the signer
twice.  What the signer answers to the message decides the reply to the call, and nothing that a
call answers depends on the signer but by this answer. -/
theorem signed_of_run (signer : Signer) (turns : List Turn) :
    (run turns (new signer)).signed =
      (runArrivals turns (new signer)).filterMap signingMessage? ∧
    (∀ arrival message, signingMessage? arrival = some message ↔
      arrival.state.isOpen = true ∧ ∃ version payload word reportData prepared,
        arrival.call.argument.request = .guest ⟨version, payload, word⟩ ∧
        AsksForReport arrival.call.command payload reportData ∧
        arrival.state.registry.get? reportData = some prepared ∧
        prepared.errorWord = .clear ∧
        message = prepared.response.report.toBlock.toList.take 0x2A0) ∧
    (∀ (operation : Operation) (device : SimulatedDevice),
      ((operation.arrivals device).filterMap signingMessage?).length ≤ 1) ∧
    (∀ arrival message, signingMessage? arrival = some message →
      ∃ version payload word reportData prepared,
        arrival.call.argument.request = .guest ⟨version, payload, word⟩ ∧
        AsksForReport arrival.call.command payload reportData ∧
        arrival.state.registry.get? reportData = some prepared ∧
        Answered prepared arrival.call.argument (arrival.state.signer.sign message)
          (arrival.reply guestDevice)) ∧
    ∀ (arrival : Arrival SimulatedDevice) (other : Signer),
      (∀ message, signingMessage? arrival = some message →
        other.sign message = arrival.state.signer.sign message) →
      (Arrival.mk { arrival.state with signer := other } arrival.call).reply guestDevice =
        arrival.reply guestDevice :=
  ⟨signed_run turns (new signer), signingMessage?_eq_some_iff, Operation.length_signings_le_one,
    reply_answered, reply_of_signer⟩

/-- A signer without a key is asked all the same, and its failure is the reply. -/
theorem signed_of_run_of_keyless_signer :
    let data : Block 64 := .zero 64
    let signer : Signer := .failing ["no key loaded"]
    let argument : Argument 0 := ⟨.guest ⟨1, .report (.new data 0), .clear⟩, .zero, .zero 0⟩
    let turns : List Turn :=
      [⟨signer, .openDevice⟩, ⟨signer, .register data (.accepted data)⟩,
        ⟨signer, .ioctl Command.getReport argument⟩]
    (run turns (new signer)).signed =
        [(PreparedResponse.currentReport data).toBlock.toList.take 0x2A0] ∧
      (runArrivals turns (new signer)).map (fun arrival => (arrival.reply guestDevice).result) =
        [.error (.sign ["no key loaded"])] := by
  intro data signer argument turns
  let device : SimulatedDevice :=
    { new signer with
      isOpen := true
      registry := (Registry.empty.insert data (.accepted data)).2 }
  let arrival : Arrival SimulatedDevice := ⟨device, Command.getReport, argument⟩
  have hArrivals : runArrivals turns (new signer) = [arrival] := rfl
  obtain ⟨hSigned, hMessage, -, hAnswered, -⟩ := signed_of_run signer turns
  have hFound : device.registry.get? data = some (.accepted data) :=
    OrderedMap.get?_insert_self _ _ _
  have hAsked : signingMessage? arrival = some _ :=
    (hMessage arrival _).mpr
      ⟨rfl, 1, _, .clear, data, _, rfl, .plain (.new data 0), hFound, rfl, rfl⟩
  obtain ⟨_, _, _, _, _, _, _, _, hReply⟩ := hAnswered arrival _ hAsked
  rw [hSigned, hArrivals, List.filterMap_cons_some hAsked, List.map_singleton]
  refine ⟨rfl, ?_⟩
  generalize arrival.reply guestDevice = reply at hReply ⊢
  cases hReply
  rfl

end SimulatedDevice

end SnpGuest
