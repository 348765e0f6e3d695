import SnpGuest.Proofs.Simulator.Calls

namespace SnpGuest

/-!
# Refused calls

Every error of the simulated device has one cause, and the causes exclude one another: the form of
the argument is looked at first, then whether the device is open, then the command together with
the payload, then the prepared response and the signature, and the buffer last.  `Rejects` has the
rules for what is seen at the call itself, `Withholds` those for the report, and `Refuses` puts them
together.

A refused call leaves the caller's memory alone, with one exception.  When the certificates do not
fit, the report has been served already, so the response and the error word are those of the plain
call.
-/

namespace Report

theorem sign_of_failure {report : Report} {signer : Signer} {causes : List String}
    (hSigner : signer.sign report.signedBytes.toList = .error causes) :
    report.sign signer = (.error (.signer causes), report) := by
  rw [sign_eq, hSigner, withAnswer]

theorem sign_of_components {report : Report} {signer : Signer} {components : SignatureComponents}
    (hSigner : signer.sign report.signedBytes.toList = .ok components) :
    report.sign signer =
      ((report.signature.embed components.r components.s).1.mapError .embedding,
        { report with
          signature := (report.signature.embed components.r components.s).2 }) := by
  rw [sign_eq, hSigner, withAnswer]

end Report

/-- A command and a payload that together ask for a report over some data.  An extended payload
that declares no buffer does not. -/
inductive AsksForReport : UInt64 → Payload → Block 64 → Prop
  | plain (report : RequestMessage) :
      AsksForReport Command.getReport (.report report) report.reportData
  | extended (report : RequestMessage) (certsLen : UInt32) (hLen : certsLen ≠ 0) :
      AsksForReport Command.getExtendedReport (.extended report certsLen) report.reportData

namespace SimulatedDevice

/-! ## Serving -/

/-- Why the device has no report for some data. -/
inductive Withholds (device : SimulatedDevice) (reportData : Block 64) : Error → Prop
  | noResponse (hUnknown : device.registry.get? reportData = none) :
      Withholds device reportData (.noResponse reportData)
  | sign (prepared : PreparedResponse) (causes : List String)
      (hFound : device.registry.get? reportData = some prepared)
      (hWord : prepared.errorWord = .clear)
      (hSigner : device.signer.sign prepared.response.report.signedBytes.toList = .error causes) :
      Withholds device reportData (.sign causes)
  | setSignature (prepared : PreparedResponse) (components : SignatureComponents)
      (cause : ComponentError) (hFound : device.registry.get? reportData = some prepared)
      (hWord : prepared.errorWord = .clear)
      (hSigner : device.signer.sign prepared.response.report.signedBytes.toList = .ok components)
      (hEmbed : (prepared.response.report.signature.embed components.r components.s).1 =
        .error cause) :
      Withholds device reportData (.setSignature cause)

theorem serve_result_eq_error_iff (device : SimulatedDevice) (reportData : Block 64)
    (response : ResponseMessage) (word : ErrorWord) (cause : Error) :
    (device.serve reportData response word).result = .error cause ↔
      device.Withholds reportData cause := by
  constructor
  · intro hError
    cases hFound : device.registry.get? reportData with
    | none =>
        rw [serve_of_unknown hFound] at hError
        cases hError
        exact .noResponse hFound
    | some prepared =>
        by_cases hWord : prepared.errorWord = .clear
        · cases hSigner : device.signer.sign prepared.response.report.signedBytes.toList with
          | error causes =>
              rw [serve_of_unsigned hFound hWord (Report.sign_of_failure hSigner)] at hError
              cases hError
              exact .sign prepared causes hFound hWord hSigner
          | ok components =>
              have hSign := Report.sign_of_components hSigner
              cases hEmbed : (prepared.response.report.signature.embed components.r
                  components.s).1 with
              | error flaw =>
                  rw [hEmbed] at hSign
                  rw [serve_of_unsigned hFound hWord hSign] at hError
                  cases hError
                  exact .setSignature prepared components flaw hFound hWord hSigner hEmbed
              | ok _ =>
                  rw [hEmbed] at hSign
                  rw [serve_of_signed hFound hWord hSign] at hError
                  cases hError
        · rw [serve_of_refused hFound hWord] at hError
          cases hError
  · intro hWithholds
    cases hWithholds with
    | noResponse hUnknown => rw [serve_of_unknown hUnknown]
    | sign prepared causes hFound hWord hSigner =>
        rw [serve_of_unsigned hFound hWord (Report.sign_of_failure hSigner)]
        rfl
    | setSignature prepared components cause hFound hWord hSigner hEmbed =>
        have hSign := Report.sign_of_components hSigner
        rw [hEmbed] at hSign
        rw [serve_of_unsigned hFound hWord hSign]
        rfl

theorem exists_served {device : SimulatedDevice} {reportData : Block 64}
    (hServed : ∀ cause, ¬ device.Withholds reportData cause) (response : ResponseMessage)
    (word : ErrorWord) :
    ∃ exit, (device.serve reportData response word).result = .ok exit := by
  cases hResult : (device.serve reportData response word).result with
  | error cause =>
      have hWithholds := (serve_result_eq_error_iff device _ _ _ cause).mp hResult
      exact absurd hWithholds (hServed cause)
  | ok exit => exact ⟨exit, rfl⟩

/-! ## Calls -/

/-- Why the device turns a call away at sight, before it looks for a report. -/
inductive Rejects (device : SimulatedDevice) (command : UInt64) : Request → Error → Prop
  | raw (bytes : Bytes) :
      Rejects device command (.raw bytes) (.unexpectedRequest (.raw bytes.length))
  | notOpen (request : GuestRequest) (hClosed : device.isOpen = false) :
      Rejects device command (.guest request) .notOpen
  | extendedPayload (version : UInt8) (report : RequestMessage) (certsLen : UInt32)
      (word : ErrorWord) (hOpen : device.isOpen = true) (hCommand : command = Command.getReport) :
      Rejects device command (.guest ⟨version, .extended report certsLen, word⟩)
        (.unexpectedRequest (.payload command true))
  | plainPayload (version : UInt8) (report : RequestMessage) (word : ErrorWord)
      (hOpen : device.isOpen = true) (hCommand : command = Command.getExtendedReport) :
      Rejects device command (.guest ⟨version, .report report, word⟩)
        (.unexpectedRequest (.payload command false))
  | invalidCommand (request : GuestRequest) (hOpen : device.isOpen = true)
      (hReport : command ≠ Command.getReport) (hExtended : command ≠ Command.getExtendedReport) :
      Rejects device command (.guest request) (.invalidCommand command)

/-- Why the device refuses a call with a certificate buffer of `n` bytes. -/
inductive Refuses (device : SimulatedDevice) (command : UInt64) (n : Nat) :
    Request → Error → Prop
  | rejected (request : Request) (cause : Error)
      (hRejects : device.Rejects command request cause) :
      Refuses device command n request cause
  | withheld (version : UInt8) (payload : Payload) (word : ErrorWord) (reportData : Block 64)
      (cause : Error) (hOpen : device.isOpen = true)
      (hAsks : AsksForReport command payload reportData)
      (hWithholds : device.Withholds reportData cause) :
      Refuses device command n (.guest ⟨version, payload, word⟩) cause
  | bufferTooSmall (version : UInt8) (report : RequestMessage) (certsLen : UInt32)
      (word : ErrorWord) (hOpen : device.isOpen = true)
      (hCommand : command = Command.getExtendedReport) (hLen : certsLen ≠ 0)
      (hServed : ∀ cause, ¬ device.Withholds report.reportData cause)
      (hSmall : min certsLen.toNat n < device.certificates.length) :
      Refuses device command n (.guest ⟨version, .extended report certsLen, word⟩)
        (.bufferTooSmall (min certsLen.toNat n) device.certificates.length)

/-- A call that is not turned away at sight is a size query or asks for a report. -/
theorem rejects_or_asks (device : SimulatedDevice) (command : UInt64) (request : Request) :
    (∃ cause, device.Rejects command request cause) ∨
      device.isOpen = true ∧ ∃ version payload word,
        request = .guest ⟨version, payload, word⟩ ∧
          ((command = Command.getExtendedReport ∧ ∃ report, payload = .extended report 0) ∨
            ∃ reportData, AsksForReport command payload reportData) := by
  rcases request with ⟨version, payload, word⟩ | bytes
  · cases hOpen : device.isOpen with
    | false => exact .inl ⟨_, .notOpen _ hOpen⟩
    | true =>
        by_cases hReport : command = Command.getReport
        · cases payload with
          | report report =>
              subst hReport
              exact .inr ⟨rfl, version, _, word, rfl, .inr ⟨_, .plain report⟩⟩
          | extended report certsLen =>
              exact .inl ⟨_, .extendedPayload version report certsLen word hOpen hReport⟩
        · by_cases hExtended : command = Command.getExtendedReport
          · cases payload with
            | report report => exact .inl ⟨_, .plainPayload version report word hOpen hExtended⟩
            | extended report certsLen =>
                subst hExtended
                refine .inr ⟨rfl, version, _, word, rfl, ?_⟩
                by_cases hLen : certsLen = 0
                · exact .inl ⟨rfl, report, by rw [hLen]⟩
                · exact .inr ⟨_, .extended report certsLen hLen⟩
          · exact .inl ⟨_, .invalidCommand _ hOpen hReport hExtended⟩
  · exact .inl ⟨_, .raw bytes⟩

section Refused

variable {device : SimulatedDevice} {command : UInt64} {n : Nat}

theorem ioctl_of_rejects {argument : Argument n} {cause : Error}
    (hRejects : device.Rejects command argument.request cause) :
    ioctl command argument device = (⟨.error cause, argument⟩, device) := by
  obtain ⟨request, response, buffer⟩ := argument
  cases hRejects with
  | raw bytes => exact ioctl_raw device command bytes response buffer
  | notOpen request hClosed => exact ioctl_closed hClosed command request response buffer
  | extendedPayload version report certsLen word hOpen hCommand =>
      subst hCommand
      exact ioctl_plain_of_extended hOpen version report certsLen word response buffer
  | plainPayload version report word hOpen hCommand =>
      subst hCommand
      exact ioctl_extended_of_plain hOpen version report word response buffer
  | invalidCommand request hOpen hReport hExtended =>
      exact ioctl_unknown hOpen hReport hExtended request response buffer

theorem ioctl_of_withholds {version : UInt8} {payload : Payload} {word : ErrorWord}
    {reportData : Block 64} {cause : Error} (hOpen : device.isOpen = true)
    (hAsks : AsksForReport command payload reportData)
    (hWithholds : device.Withholds reportData cause) (response : ResponseMessage)
    (buffer : Block n) :
    (ioctl command ⟨.guest ⟨version, payload, word⟩, response, buffer⟩ device).1 =
      ⟨.error cause, ⟨.guest ⟨version, payload, word⟩, response, buffer⟩⟩ := by
  have hError := (serve_result_eq_error_iff device reportData response word cause).mpr hWithholds
  obtain ⟨hResponse, hWord⟩ := serve_of_error hError
  cases hAsks with
  | plain report => simp only [ioctl_plain hOpen, hError, hResponse, hWord]
  | extended report certsLen hLen =>
      simp only [ioctl_extended hOpen hLen, hError, hResponse, hWord]

/-- When the buffer is too small, the plain call over the same request goes well, and its response
and error word are in the caller's memory already. -/
theorem ioctl_of_small_buffer {version : UInt8} {report : RequestMessage} {certsLen : UInt32}
    {word : ErrorWord} (hOpen : device.isOpen = true) (hLen : certsLen ≠ 0)
    (hServed : ∀ cause, ¬ device.Withholds report.reportData cause)
    (hSmall : min certsLen.toNat n < device.certificates.length) (response : ResponseMessage)
    (buffer : Block n) :
    let plain := (ioctl Command.getReport
      (⟨.guest ⟨version, .report report, word⟩, response, .zero 0⟩ : Argument 0) device).1
    (∃ exit, plain.result = .ok exit) ∧
      (ioctl Command.getExtendedReport
        ⟨.guest ⟨version, .extended report certsLen, word⟩, response, buffer⟩ device).1 =
      ⟨.error (.bufferTooSmall (min certsLen.toNat n) device.certificates.length),
        ⟨.guest ⟨version, .extended report certsLen, plain.argument.request.errorWord⟩,
          plain.argument.response, buffer⟩⟩ := by
  intro plain
  have hPlain : plain = _ :=
    congrArg Prod.fst (ioctl_plain hOpen version report word response (.zero 0))
  obtain ⟨exit, hResult⟩ := exists_served hServed response word
  rw [hPlain, ioctl_extended hOpen hLen]
  simp only [hResult, Request.errorWord]
  exact ⟨⟨exit, rfl⟩, fill_of_small exit _ hSmall⟩

theorem ioctl_of_room {version : UInt8} {report : RequestMessage} {certsLen : UInt32}
    {word : ErrorWord} (hOpen : device.isOpen = true) (hLen : certsLen ≠ 0)
    (hServed : ∀ cause, ¬ device.Withholds report.reportData cause)
    (hRoom : device.certificates.length ≤ min certsLen.toNat n) (response : ResponseMessage)
    (buffer : Block n) :
    ∃ exit, (ioctl Command.getExtendedReport
      ⟨.guest ⟨version, .extended report certsLen, word⟩, response, buffer⟩ device).1.result =
        .ok exit := by
  obtain ⟨exit, hResult⟩ := exists_served hServed response word
  rw [ioctl_extended hOpen hLen]
  simp only [hResult]
  obtain ⟨filled, -, -, hFill⟩ := fill_of_fits exit _ hRoom
  exact ⟨exit, by rw [hFill]⟩

/-- A signed report reaches the caller's memory, whatever becomes of the certificates. -/
theorem response_of_signed {version : UInt8} {payload : Payload} {word : ErrorWord}
    {reportData : Block 64} {prepared : PreparedResponse} {signed : Report}
    (hOpen : device.isOpen = true) (hAsks : AsksForReport command payload reportData)
    (hFound : device.registry.get? reportData = some prepared)
    (hWord : prepared.errorWord = .clear)
    (hSign : prepared.response.report.sign device.signer = (.ok (), signed))
    (response : ResponseMessage) (buffer : Block n) :
    (ioctl command ⟨.guest ⟨version, payload, word⟩, response, buffer⟩ device).1.argument.response =
      { prepared.response with report := signed } := by
  have hServe := serve_of_signed hFound hWord hSign response word
  cases hAsks with
  | plain report => rw [ioctl_plain hOpen, hServe]
  | extended report certsLen hLen =>
      rw [ioctl_extended hOpen hLen]
      simp only [hServe, response_fill]

theorem ioctl_of_refuses {argument : Argument n} {cause : Error}
    (hRefuses : device.Refuses command n argument.request cause) :
    (ioctl command argument device).1.result = .error cause := by
  obtain ⟨request, response, buffer⟩ := argument
  cases hRefuses with
  | rejected request cause hRejects => rw [ioctl_of_rejects hRejects]
  | withheld version payload word reportData cause hOpen hAsks hWithholds =>
      rw [ioctl_of_withholds hOpen hAsks hWithholds]
  | bufferTooSmall version report certsLen word hOpen hCommand hLen hServed hSmall =>
      subst hCommand
      rw [(ioctl_of_small_buffer hOpen hLen hServed hSmall response buffer).2]

/-- The causes exclude one another. -/
theorem Refuses.unique {request : Request} {cause other : Error}
    (hCause : device.Refuses command n request cause)
    (hOther : device.Refuses command n request other) : cause = other := by
  let argument : Argument n := ⟨request, .zero, .zero n⟩
  have hFirst : (ioctl command argument device).1.result = .error cause := ioctl_of_refuses hCause
  have hSecond : (ioctl command argument device).1.result = .error other :=
    ioctl_of_refuses hOther
  exact Except.error.inj (hFirst.symm.trans hSecond)

/-- Nothing fails without a cause. -/
theorem refuses_of_error (hSize : device.certificates.length < CertificateTable.wordLimit)
    {argument : Argument n} {cause : Error}
    (hError : (ioctl command argument device).1.result = .error cause) :
    device.Refuses command n argument.request cause := by
  rcases device.rejects_or_asks command argument.request with
    ⟨cause', hRejects⟩ | ⟨hOpen, version, payload, word, hRequest, hRest⟩
  · rw [ioctl_of_rejects hRejects] at hError
    cases hError
    exact .rejected _ _ hRejects
  obtain ⟨request, response, buffer⟩ := argument
  obtain rfl : request = .guest ⟨version, payload, word⟩ := hRequest
  rcases hRest with ⟨rfl, report, rfl⟩ | ⟨reportData, hAsks⟩
  · rw [ioctl_sizeQuery hOpen hSize] at hError
    cases hError
  by_cases hWithholds : ∃ cause', device.Withholds reportData cause'
  · obtain ⟨cause', hWithholds⟩ := hWithholds
    rw [ioctl_of_withholds hOpen hAsks hWithholds] at hError
    cases hError
    exact .withheld version payload word reportData _ hOpen hAsks hWithholds
  have hServed : ∀ cause', ¬ device.Withholds reportData cause' := not_exists.mp hWithholds
  cases hAsks with
  | plain report =>
      obtain ⟨exit, hResult⟩ := exists_served hServed response word
      rw [ioctl_plain hOpen, hResult] at hError
      cases hError
  | extended report certsLen hLen =>
      by_cases hSmall : min certsLen.toNat n < device.certificates.length
      · have hRefuses : device.Refuses Command.getExtendedReport n
            (.guest ⟨version, .extended report certsLen, word⟩) _ :=
          .bufferTooSmall version report certsLen word hOpen rfl hLen hServed hSmall
        have hRefused : (ioctl Command.getExtendedReport ⟨.guest ⟨version, .extended report
            certsLen, word⟩, response, buffer⟩ device).1.result = _ := ioctl_of_refuses hRefuses
        cases hRefused.symm.trans hError
        exact hRefuses
      · obtain ⟨exit, hOk⟩ :=
          ioctl_of_room hOpen hLen hServed (Nat.not_lt.mp hSmall) response buffer
        cases hOk.symm.trans hError

/-- Unless the buffer is the cause, a refused call leaves the caller's memory alone. -/
theorem argument_of_refuses {argument : Argument n} {cause : Error}
    (hRefuses : device.Refuses command n argument.request cause)
    (hOther : ∀ actual required, cause ≠ .bufferTooSmall actual required) :
    (ioctl command argument device).1.argument = argument := by
  obtain ⟨request, response, buffer⟩ := argument
  cases hRefuses with
  | rejected request cause hRejects => rw [ioctl_of_rejects hRejects]
  | withheld version payload word reportData cause hOpen hAsks hWithholds =>
      rw [ioctl_of_withholds hOpen hAsks hWithholds]
  | bufferTooSmall => exact absurd rfl (hOther _ _)

theorem argument_of_small_buffer {argument : Argument n} {actual required : Nat}
    (hRefuses : device.Refuses command n argument.request (.bufferTooSmall actual required)) :
    ∃ version report certsLen word exit,
      let plain := (ioctl Command.getReport (⟨.guest ⟨version, .report report, word⟩,
        argument.response, .zero 0⟩ : Argument 0) device).1
      argument.request = .guest ⟨version, .extended report certsLen, word⟩ ∧
      plain.result = .ok exit ∧
      (ioctl command argument device).1.argument =
        ⟨.guest ⟨version, .extended report certsLen, plain.argument.request.errorWord⟩,
          plain.argument.response, argument.certificates⟩ := by
  obtain ⟨request, response, buffer⟩ := argument
  cases hRefuses with
  -- Neither a look at the request nor the search for a report complains about the buffer.
  | rejected _ _ hRejects => cases hRejects
  | withheld _ _ _ _ _ _ _ hWithholds => cases hWithholds
  | bufferTooSmall version report certsLen word hOpen hCommand hLen hServed hSmall =>
      subst hCommand
      obtain ⟨⟨exit, hPlain⟩, hReply⟩ := ioctl_of_small_buffer hOpen hLen hServed hSmall response
        buffer
      exact ⟨version, report, certsLen, word, exit, rfl, hPlain, by rw [hReply]⟩

theorem ioctl_device (device : SimulatedDevice) (command : UInt64) (argument : Argument n) :
    ∃ messages, (ioctl command argument device).2 = device.after messages := by
  obtain ⟨⟨request⟩ | bytes, response, buffer⟩ := argument
  · cases hOpen : device.isOpen with
    | false => exact ⟨[], by rw [ioctl_closed hOpen, after_nil]⟩
    | true => exact ⟨_, by rw [ioctl_open hOpen]⟩
  · exact ⟨[], by rw [ioctl_raw, after_nil]⟩

end Refused

/-! ## Main statement -/

/-- For any state, command and argument, with certificates whose length fits the length field: a
call fails exactly for the cause that `Refuses` gives.  A failed call leaves the whole argument as
it was, unless the buffer is too small.  Then the buffer and the request are as before, except that
the response and the error word are what the plain call over the same request leaves, and that call
goes well.  Whether a call fails or not, the device keeps everything but the record of its
signer. -/
theorem ioctl_refusals (device : SimulatedDevice)
    (hSize : device.certificates.length < CertificateTable.wordLimit) (command : UInt64)
    {n : Nat} (argument : Argument n) :
    let outcome := ioctl command argument device
    (∀ cause, outcome.1.result = .error cause ↔
      device.Refuses command n argument.request cause) ∧
    (∀ cause, outcome.1.result = .error cause →
      (∀ actual required, cause ≠ .bufferTooSmall actual required) →
      outcome.1.argument = argument) ∧
    (∀ actual required, outcome.1.result = .error (.bufferTooSmall actual required) →
      ∃ version report certsLen word exit,
        let plain := (ioctl Command.getReport (⟨.guest ⟨version, .report report, word⟩,
          argument.response, .zero 0⟩ : Argument 0) device).1
        argument.request = .guest ⟨version, .extended report certsLen, word⟩ ∧
        plain.result = .ok exit ∧
        outcome.1.argument =
          ⟨.guest ⟨version, .extended report certsLen, plain.argument.request.errorWord⟩,
            plain.argument.response, argument.certificates⟩) ∧
    ∃ messages, outcome.2 = { device with signed := device.signed ++ messages } := by
  intro outcome
  have hRefused : ∀ cause, outcome.1.result = .error cause ↔
      device.Refuses command n argument.request cause :=
    fun _ => ⟨refuses_of_error hSize, ioctl_of_refuses⟩
  refine ⟨hRefused, fun cause hError hOther => ?_, fun actual required hError => ?_,
    ioctl_device device command argument⟩
  · exact argument_of_refuses ((hRefused cause).mp hError) hOther
  · exact argument_of_small_buffer ((hRefused _).mp hError)

/-- A buffer of two bytes for three bytes of certificates: the call fails and the buffer is as it
was, but the response holds the prepared one with its report signed. -/
theorem ioctl_refusals_of_short_buffer :
    let data : Block 64 := .zero 64
    let prepared : PreparedResponse := .accepted data
    let device : SimulatedDevice :=
      { new (.fixed ⟨[1], [2]⟩) with
        isOpen := true
        registry := (Registry.empty.insert data prepared).2
        certificates := [1, 2, 3] }
    let argument : Argument 2 :=
      ⟨.guest ⟨1, .extended (.new data 0) 2, .clear⟩, .zero, ⟨[9, 9], rfl⟩⟩
    let outcome := (ioctl Command.getExtendedReport argument device).1
    device.certificates.length < CertificateTable.wordLimit ∧
      outcome.result = .error (.bufferTooSmall 2 3) ∧
      ∃ report, prepared.response.report.sign device.signer = (.ok (), report) ∧
        outcome.argument =
          { argument with response := { prepared.response with report := report } } := by
  intro data prepared device argument outcome
  have hSize : device.certificates.length < CertificateTable.wordLimit := by decide
  obtain ⟨hCause, -, hSmall, -⟩ :=
    ioctl_refusals device hSize Command.getExtendedReport argument
  have hFound : device.registry.get? data = some prepared := OrderedMap.get?_insert_self _ _ _
  have hSigner : device.signer.sign prepared.response.report.signedBytes.toList =
    .ok ⟨[1], [2]⟩ := rfl
  have hEmbed : (prepared.response.report.signature.embed [1] [2]).1 = .ok () := rfl
  have hSign := Report.sign_of_components hSigner
  rw [hEmbed] at hSign
  have hServe := serve_of_signed hFound rfl hSign .zero .clear
  have hServed : ∀ cause, ¬ device.Withholds data cause := by
    intro cause hWithholds
    have hError := (serve_result_eq_error_iff device data .zero .clear cause).mpr hWithholds
    rw [hServe] at hError
    cases hError
  have hError : outcome.result = .error (.bufferTooSmall 2 3) :=
    (hCause _).mpr (.bufferTooSmall 1 (.new data 0) 2 .clear rfl rfl (by decide) hServed
      (by decide))
  obtain ⟨version, report, certsLen, word, exit, hRequest, -, hArgument⟩ := hSmall 2 3 hError
  cases hRequest
  refine ⟨hSize, hError, _, hSign, hArgument.trans ?_⟩
  rw [ioctl_plain rfl]
  simp only [argument, RequestMessage.new, hServe, Request.errorWord]

end SimulatedDevice

end SnpGuest
