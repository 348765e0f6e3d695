import SnpGuest.Simulator.Device

namespace SnpGuest

/-!
# What one call to the simulated device does

A call looks at the form of the request, at whether the device is open, and at the command, in this
order.  What is left then is serving a report, and the four ways in which that can go are said once,
in `serve_cases`.  The other statements here give each kind of call in terms of `serve`, for any
content of the caller's memory.
-/

theorem Bytes.take_overwrite_zero {old new : Bytes} :
    (Bytes.overwrite old 0 new).take new.length = new := by
  simp [Bytes.overwrite]

theorem Bytes.drop_overwrite_zero {old new : Bytes} :
    (Bytes.overwrite old 0 new).drop new.length = old.drop new.length := by
  simp [Bytes.overwrite]

namespace SimulatedDevice

/-- The device after it asked its signer for some messages. -/
def after (device : SimulatedDevice) (messages : List Bytes) : SimulatedDevice :=
  { device with signed := device.signed ++ messages }

@[simp] theorem after_nil (device : SimulatedDevice) : device.after [] = device := by
  simp [after]

/-! ## Serving -/

section Serving

variable {device : SimulatedDevice} {reportData : Block 64} {prepared : PreparedResponse}

theorem serve_of_unknown (hUnknown : device.registry.get? reportData = none)
    (response : ResponseMessage) (word : ErrorWord) :
    device.serve reportData response word =
      ⟨.error (.noResponse reportData), response, word, []⟩ := by
  simp [serve, hUnknown]

theorem serve_of_refused (hFound : device.registry.get? reportData = some prepared)
    (hWord : prepared.errorWord ≠ .clear) (response : ResponseMessage) (word : ErrorWord) :
    device.serve reportData response word =
      ⟨.ok prepared.exitResult, response, prepared.errorWord, []⟩ := by
  simp [serve, hFound, hWord]

theorem serve_of_unsigned (hFound : device.registry.get? reportData = some prepared)
    (hWord : prepared.errorWord = .clear) {cause : SigningError} {report : Report}
    (hSign : prepared.response.report.sign device.signer = (.error cause, report))
    (response : ResponseMessage) (word : ErrorWord) :
    device.serve reportData response word =
      ⟨.error (signingError cause), response, word,
        [prepared.response.report.signedBytes.toList]⟩ := by
  simp [serve, hFound, hWord, Report.signWith_ask, hSign]

theorem serve_of_signed (hFound : device.registry.get? reportData = some prepared)
    (hWord : prepared.errorWord = .clear) {report : Report}
    (hSign : prepared.response.report.sign device.signer = (.ok (), report))
    (response : ResponseMessage) (word : ErrorWord) :
    device.serve reportData response word =
      ⟨.ok prepared.exitResult, { prepared.response with report := report }, word,
        [prepared.response.report.signedBytes.toList]⟩ := by
  simp [serve, hFound, hWord, Report.signWith_ask, hSign]

/-- For known data the way does not depend on what the caller's memory holds. -/
theorem serve_ways (hFound : device.registry.get? reportData = some prepared) :
    (prepared.errorWord ≠ .clear ∧ ∀ response word, device.serve reportData response word =
      ⟨.ok prepared.exitResult, response, prepared.errorWord, []⟩) ∨
    (prepared.errorWord = .clear ∧ ∃ cause, ∀ response word,
      device.serve reportData response word =
        ⟨.error (signingError cause), response, word,
          [prepared.response.report.signedBytes.toList]⟩) ∨
    (prepared.errorWord = .clear ∧ ∃ report,
      prepared.response.report.sign device.signer = (.ok (), report) ∧
      ∀ response word, device.serve reportData response word =
        ⟨.ok prepared.exitResult, { prepared.response with report := report }, word,
          [prepared.response.report.signedBytes.toList]⟩) := by
  by_cases hWord : prepared.errorWord = .clear
  · cases hSign : prepared.response.report.sign device.signer with
    | mk result report =>
        cases result with
        | error cause => exact .inr (.inl ⟨hWord, cause, serve_of_unsigned hFound hWord hSign⟩)
        | ok _ => exact .inr (.inr ⟨hWord, report, rfl, serve_of_signed hFound hWord hSign⟩)
  · exact .inl ⟨hWord, serve_of_refused hFound hWord⟩

end Serving

/-- Serving a request goes in one of four ways.  Only a report that is signed and embedded reaches
the response buffer, and only an error word from the prepared response reaches the request. -/
theorem serve_cases (device : SimulatedDevice) (reportData : Block 64)
    (response : ResponseMessage) (word : ErrorWord) :
    (device.registry.get? reportData = none ∧
      device.serve reportData response word =
        ⟨.error (.noResponse reportData), response, word, []⟩) ∨
    ∃ prepared, device.registry.get? reportData = some prepared ∧
      ((prepared.errorWord ≠ .clear ∧
          device.serve reportData response word =
            ⟨.ok prepared.exitResult, response, prepared.errorWord, []⟩) ∨
        (prepared.errorWord = .clear ∧ ∃ cause,
          device.serve reportData response word =
            ⟨.error (signingError cause), response, word,
              [prepared.response.report.signedBytes.toList]⟩) ∨
        (prepared.errorWord = .clear ∧ ∃ report,
          prepared.response.report.sign device.signer = (.ok (), report) ∧
          device.serve reportData response word =
            ⟨.ok prepared.exitResult, { prepared.response with report := report }, word,
              [prepared.response.report.signedBytes.toList]⟩)) := by
  cases hFound : device.registry.get? reportData with
  | none => exact .inl ⟨rfl, serve_of_unknown hFound response word⟩
  | some prepared =>
      refine .inr ⟨prepared, rfl, ?_⟩
      rcases serve_ways hFound with
        ⟨hWord, hServe⟩ | ⟨hWord, cause, hServe⟩ | ⟨hWord, report, hSign, hServe⟩
      · exact .inl ⟨hWord, hServe response word⟩
      · exact .inr (.inl ⟨hWord, cause, hServe response word⟩)
      · exact .inr (.inr ⟨hWord, report, hSign, hServe response word⟩)

/-- A request that fails leaves the response buffer and the error word as they were. -/
theorem serve_of_error {device : SimulatedDevice} {reportData : Block 64}
    {response : ResponseMessage} {word : ErrorWord} {cause : Error}
    (hError : (device.serve reportData response word).result = .error cause) :
    (device.serve reportData response word).response = response ∧
      (device.serve reportData response word).errorWord = word := by
  rcases serve_cases device reportData response word with
    ⟨-, hServe⟩ | ⟨prepared, -, ⟨-, hServe⟩ | ⟨-, cause', hServe⟩ | ⟨-, report, -, hServe⟩⟩
  · simp [hServe]
  · simp [hServe] at hError
  · simp [hServe]
  · simp [hServe] at hError

/-! ## Calls -/

section Calls

variable {n : Nat} {device : SimulatedDevice}

theorem ioctl_closed (hClosed : device.isOpen = false) (command : UInt64)
    (request : GuestRequest) (response : ResponseMessage) (buffer : Block n) :
    ioctl command ⟨.guest request, response, buffer⟩ device =
      (⟨.error .notOpen, ⟨.guest request, response, buffer⟩⟩, device) := by
  simp [ioctl, hClosed]

theorem ioctl_raw (device : SimulatedDevice) (command : UInt64) (bytes : Bytes)
    (response : ResponseMessage) (buffer : Block n) :
    ioctl command ⟨.raw bytes, response, buffer⟩ device =
      (⟨.error (.unexpectedRequest (.raw bytes.length)), ⟨.raw bytes, response, buffer⟩⟩,
        device) := by
  simp [ioctl]

theorem ioctl_open (hOpen : device.isOpen = true) (command : UInt64)
    (request : GuestRequest) (response : ResponseMessage) (buffer : Block n) :
    ioctl command ⟨.guest request, response, buffer⟩ device =
      ((device.answer command request ⟨.guest request, response, buffer⟩).1,
        device.after (device.answer command request ⟨.guest request, response, buffer⟩).2) := by
  simp [ioctl, hOpen, after]

theorem ioctl_unknown (hOpen : device.isOpen = true) {command : UInt64}
    (hReport : command ≠ Command.getReport) (hExtended : command ≠ Command.getExtendedReport)
    (request : GuestRequest) (response : ResponseMessage) (buffer : Block n) :
    ioctl command ⟨.guest request, response, buffer⟩ device =
      (⟨.error (.invalidCommand command), ⟨.guest request, response, buffer⟩⟩, device) := by
  rw [ioctl_open hOpen]
  simp [answer, hReport, hExtended]

theorem ioctl_plain_of_extended (hOpen : device.isOpen = true) (version : UInt8)
    (report : RequestMessage) (certsLen : UInt32) (word : ErrorWord)
    (response : ResponseMessage) (buffer : Block n) :
    ioctl Command.getReport
        ⟨.guest ⟨version, .extended report certsLen, word⟩, response, buffer⟩ device =
      (⟨.error (.unexpectedRequest (.payload Command.getReport true)),
        ⟨.guest ⟨version, .extended report certsLen, word⟩, response, buffer⟩⟩, device) := by
  rw [ioctl_open hOpen]
  simp [answer]

theorem ioctl_extended_of_plain (hOpen : device.isOpen = true) (version : UInt8)
    (report : RequestMessage) (word : ErrorWord) (response : ResponseMessage)
    (buffer : Block n) :
    ioctl Command.getExtendedReport
        ⟨.guest ⟨version, .report report, word⟩, response, buffer⟩ device =
      (⟨.error (.unexpectedRequest (.payload Command.getExtendedReport false)),
        ⟨.guest ⟨version, .report report, word⟩, response, buffer⟩⟩, device) := by
  rw [ioctl_open hOpen]
  simp [answer, Command.getExtendedReport_ne_getReport]

/-- A plain request is served as it is. -/
theorem ioctl_plain (hOpen : device.isOpen = true) (version : UInt8) (report : RequestMessage)
    (word : ErrorWord) (response : ResponseMessage) (buffer : Block n) :
    ioctl Command.getReport ⟨.guest ⟨version, .report report, word⟩, response, buffer⟩ device =
      (⟨(device.serve report.reportData response word).result,
          ⟨.guest ⟨version, .report report,
              (device.serve report.reportData response word).errorWord⟩,
            (device.serve report.reportData response word).response, buffer⟩⟩,
        device.after (device.serve report.reportData response word).signed) := by
  rw [ioctl_open hOpen]
  rfl

theorem answer_extended (report : RequestMessage) (certsLen : UInt32) (version : UInt8)
    (word : ErrorWord) (argument : Argument n) :
    device.answer Command.getExtendedReport ⟨version, .extended report certsLen, word⟩ argument =
      device.answerExtended ⟨version, .extended report certsLen, word⟩ report certsLen
        argument := by
  simp [answer, Command.getExtendedReport_ne_getReport]

/-- A size query looks at the certificates only. -/
theorem ioctl_sizeQuery (hOpen : device.isOpen = true)
    (hSize : device.certificates.length < CertificateTable.wordLimit) (version : UInt8)
    (report : RequestMessage) (word : ErrorWord) (response : ResponseMessage)
    (buffer : Block n) :
    ioctl Command.getExtendedReport
        ⟨.guest ⟨version, .extended report 0, word⟩, response, buffer⟩ device =
      (⟨.ok .ok, ⟨.guest ⟨version, .extended report (UInt32.ofNat device.certificates.length),
        .sizeReply⟩, response, buffer⟩⟩, device) := by
  rw [ioctl_open hOpen, answer_extended]
  simp [answerExtended, answerSize, hSize]

theorem ioctl_sizeQuery_of_large (hOpen : device.isOpen = true)
    (hLarge : CertificateTable.wordLimit ≤ device.certificates.length) (version : UInt8)
    (report : RequestMessage) (word : ErrorWord) (response : ResponseMessage)
    (buffer : Block n) :
    ioctl Command.getExtendedReport
        ⟨.guest ⟨version, .extended report 0, word⟩, response, buffer⟩ device =
      (⟨.error (.certificatesTooLarge device.certificates.length),
        ⟨.guest ⟨version, .extended report 0, word⟩, response, buffer⟩⟩, device) := by
  rw [ioctl_open hOpen, answer_extended]
  simp [answerExtended, answerSize, Nat.not_lt.mpr hLarge]

/-- A request that declares a buffer is served like a plain one, and then the buffer is filled. -/
theorem ioctl_extended (hOpen : device.isOpen = true) {certsLen : UInt32} (hLen : certsLen ≠ 0)
    (version : UInt8) (report : RequestMessage) (word : ErrorWord) (response : ResponseMessage)
    (buffer : Block n) :
    ioctl Command.getExtendedReport
        ⟨.guest ⟨version, .extended report certsLen, word⟩, response, buffer⟩ device =
      (let service := device.serve report.reportData response word
        let argument : Argument n :=
          ⟨.guest ⟨version, .extended report certsLen, service.errorWord⟩, service.response, buffer⟩
        (match service.result with
          | .error cause => ⟨.error cause, argument⟩
          | .ok result => device.fill certsLen result argument,
        device.after service.signed)) := by
  rw [ioctl_open hOpen, answer_extended, answerExtended, if_neg hLen]
  simp only [Service.leave]
  cases (device.serve report.reportData response word).result <;> rfl

theorem fill_of_fits {certsLen : UInt32} (result : ExitResult) (argument : Argument n)
    (hFits : device.certificates.length ≤ min certsLen.toNat n) :
    ∃ filled : Block n,
      filled.toList.take device.certificates.length = device.certificates ∧
      filled.toList.drop device.certificates.length =
        argument.certificates.toList.drop device.certificates.length ∧
      device.fill certsLen result argument =
        ⟨.ok result, { argument with certificates := filled }⟩ := by
  refine ⟨argument.certificates.overwrite 0 ⟨device.certificates, rfl⟩ (by omega),
    Bytes.take_overwrite_zero, Bytes.drop_overwrite_zero, ?_⟩
  simp only [fill, dif_pos hFits]

/-- A buffer of the size of the certificates takes them whole. -/
theorem fill_of_same_size {certsLen : UInt32} (result : ExitResult)
    (argument : Argument certsLen.toNat)
    (hSize : device.certificates.length = certsLen.toNat) :
    device.fill certsLen result argument =
      ⟨.ok result, { argument with certificates := ⟨device.certificates, hSize⟩ }⟩ := by
  have hFits : device.certificates.length ≤ min certsLen.toNat certsLen.toNat :=
    Nat.le_of_eq (hSize.trans (Nat.min_self _).symm)
  obtain ⟨filled, hFront, -, hFill⟩ := fill_of_fits result argument hFits
  have hAll : filled.toList.length ≤ device.certificates.length :=
    Nat.le_of_eq (filled.length_toList.trans hSize.symm)
  rw [List.take_of_length_le hAll] at hFront
  have hWhole : filled = ⟨device.certificates, hSize⟩ := Block.ext hFront
  rw [hFill, hWhole]

theorem fill_of_small {certsLen : UInt32} (result : ExitResult) (argument : Argument n)
    (hSmall : min certsLen.toNat n < device.certificates.length) :
    device.fill certsLen result argument =
      ⟨.error (.bufferTooSmall (min certsLen.toNat n) device.certificates.length), argument⟩ := by
  simp only [fill, dif_neg (Nat.not_le.mpr hSmall)]

/-- Whether the certificates fit or not, the response that was served before stays. -/
theorem response_fill (certsLen : UInt32) (result : ExitResult) (argument : Argument n) :
    (device.fill certsLen result argument).argument.response = argument.response := by
  unfold fill
  dsimp only
  split <;> rfl

end Calls

/-! ## The extended call against the plain one -/

/-- What an open device does with an extended request, for any declared length, any real buffer and
any old contents of the caller's memory.  A size query writes the length of the certificates and
the error word of a size reply, and nothing else.  Any other is decided by the plain call over the
same request: its failure is passed on; otherwise its response and error word stand, and the
certificates fill the front of the buffer, or do not fit into the declared part of it.  The signer
is used as the plain call uses it. -/
theorem ioctl_getExtendedReport (device : SimulatedDevice) (hOpen : device.isOpen = true)
    {n : Nat} (version : UInt8) (report : RequestMessage) (certsLen : UInt32) (word : ErrorWord)
    (response : ResponseMessage) (buffer : Block n) :
    let argument : Argument n :=
      ⟨.guest ⟨version, .extended report certsLen, word⟩, response, buffer⟩
    let outcome := ioctl Command.getExtendedReport argument device
    let required := device.certificates.length
    let actual := min certsLen.toNat n
    (certsLen = 0 → required < CertificateTable.wordLimit →
      ∃ size : UInt32, size.toNat = required ∧
        outcome = (⟨.ok .ok, ⟨.guest ⟨version, .extended report size, .sizeReply⟩, response,
          buffer⟩⟩, device)) ∧
    (certsLen ≠ 0 →
      let plain := ioctl Command.getReport
        (⟨.guest ⟨version, .report report, word⟩, response, .zero 0⟩ : Argument 0) device
      let left : Request :=
        .guest ⟨version, .extended report certsLen, plain.1.argument.request.errorWord⟩
      outcome.2 = plain.2 ∧
      (∀ cause, plain.1.result = .error cause → outcome.1 = ⟨.error cause, argument⟩) ∧
      ∀ result, plain.1.result = .ok result →
        (required ≤ actual → ∃ filled : Block n,
          filled.toList.take required = device.certificates ∧
          filled.toList.drop required = buffer.toList.drop required ∧
          outcome.1 = ⟨.ok result, left, plain.1.argument.response, filled⟩) ∧
        (actual < required →
          outcome.1 = ⟨.error (.bufferTooSmall actual required),
            left, plain.1.argument.response, buffer⟩)) := by
  intro argument outcome required actual
  constructor
  · rintro rfl hSize
    exact ⟨UInt32.ofNat required, UInt32.toNat_ofNat_of_lt' hSize,
      ioctl_sizeQuery hOpen hSize version report word response buffer⟩
  intro hLen plain left
  have hOutcome : outcome = _ := ioctl_extended hOpen hLen version report word response buffer
  have hPlain : plain = _ := ioctl_plain hOpen version report word response (.zero 0)
  have hWord : plain.1.argument.request.errorWord =
      (device.serve report.reportData response word).errorWord := by
    rw [hPlain]
    rfl
  have hResponse : plain.1.argument.response =
      (device.serve report.reportData response word).response := by
    rw [hPlain]
  have hResult : plain.1.result = (device.serve report.reportData response word).result := by
    rw [hPlain]
  simp only [left, hWord, hResponse, hResult]
  refine ⟨by rw [hOutcome, hPlain], fun cause hError => ?_, fun result hOk => ?_⟩
  · obtain ⟨hOldResponse, hOldWord⟩ := serve_of_error hError
    rw [hOutcome]
    simp only [hError, hOldResponse, hOldWord, argument]
  · let served : Argument n :=
      ⟨.guest ⟨version, .extended report certsLen,
        (device.serve report.reportData response word).errorWord⟩,
        (device.serve report.reportData response word).response, buffer⟩
    have hFill : outcome.1 = device.fill certsLen result served := by
      rw [hOutcome]
      simp only [hOk, served]
    rw [hFill]
    exact ⟨fill_of_fits result served, fill_of_small result served⟩

/-- The certificates come with a refusal too: the firmware's error word, nothing signed, and the
blob in front of what the buffer held. -/
theorem ioctl_getExtendedReport_of_refused :
    let data : Block 64 := .zero 64
    let device : SimulatedDevice :=
      { new (.failing ["no key loaded"]) with
        isOpen := true
        registry := (Registry.empty.insert data (.refused data ⟨0x16⟩)).2
        certificates := [1, 2, 3] }
    let argument : Argument 5 :=
      ⟨.guest ⟨1, .extended (.new data 0) 4, .clear⟩, .zero, ⟨[9, 9, 9, 9, 9], rfl⟩⟩
    device.isOpen = true ∧ ∃ filled : Block 5,
      filled.toList.take 3 = [1, 2, 3] ∧ filled.toList.drop 3 = [9, 9] ∧
      (ioctl Command.getExtendedReport argument device).1 =
        ⟨.ok .ok, ⟨.guest ⟨1, .extended (.new data 0) 4, ⟨0x16⟩⟩, .zero, filled⟩⟩ := by
  intro data device argument
  have hFound : device.registry.get? data = some (.refused data ⟨0x16⟩) :=
    OrderedMap.get?_insert_self _ _ _
  have hServe : device.serve data .zero .clear = ⟨.ok .ok, .zero, ⟨0x16⟩, []⟩ := by
    simp only [serve, hFound]
    rfl
  have hPlain := @ioctl_plain 0 device rfl 1 (.new data 0) .clear .zero (.zero 0)
  simp only [RequestMessage.new, hServe] at hPlain
  obtain ⟨-, hServed⟩ := ioctl_getExtendedReport device rfl 1 (.new data 0) 4 .clear .zero
    ⟨[9, 9, 9, 9, 9], rfl⟩
  obtain ⟨-, -, hOk⟩ := hServed (by decide)
  simp only [RequestMessage.new, hPlain] at hOk
  exact ⟨rfl, (hOk .ok rfl).1 (by decide)⟩

end SimulatedDevice

end SnpGuest
