import SnpGuest.Proofs.Simulator.Refusals

namespace SnpGuest

/-!
# The error word of a served request

An open device that serves a request writes its error word only when the firmware refuses.  A
success writes nothing, so the word stands for the answer only if it was clear to begin with.  A
caller that reuses a request, in particular the one of its size query, reads an old error behind a
report that was signed.
-/

namespace SimulatedDevice

/-- What a served request leaves in an error word. -/
def leftWord (prepared : PreparedResponse) (word : ErrorWord) : ErrorWord :=
  if prepared.errorWord = .clear then word else prepared.errorWord

/-- The word is the prepared one unless an old error stands where there should be none. -/
theorem leftWord_eq_iff (prepared : PreparedResponse) (word : ErrorWord) :
    leftWord prepared word = prepared.errorWord ↔
      prepared.errorWord ≠ .clear ∨ word = .clear := by
  by_cases hWord : prepared.errorWord = .clear
  · simp [leftWord, hWord]
  · simp [leftWord, hWord]

section Served

variable {device : SimulatedDevice} {reportData : Block 64} {word : ErrorWord}

theorem serve_errorWord {response : ResponseMessage} {exit : ExitResult}
    (hServed : (device.serve reportData response word).result = .ok exit) :
    ∃ prepared, device.registry.get? reportData = some prepared ∧
      (device.serve reportData response word).errorWord = leftWord prepared word := by
  rcases serve_cases device reportData response word with
    ⟨-, hServe⟩ | ⟨prepared, hFound, ⟨hWord, hServe⟩ | ⟨-, cause, hServe⟩ | ⟨hWord, _, -, hServe⟩⟩
  · simp [hServe] at hServed
  · exact ⟨prepared, hFound, by simp [hServe, leftWord, hWord]⟩
  · simp [hServe] at hServed
  · exact ⟨prepared, hFound, by simp [hServe, leftWord, hWord]⟩

/-- Filling the buffer keeps the request. -/
theorem fill_request {n : Nat} (certsLen : UInt32) (exit : ExitResult) (argument : Argument n) :
    (device.fill certsLen exit argument).argument.request = argument.request := by
  rw [fill]
  split <;> rfl

/-- A call that asks for a report and succeeds leaves the error word of its service. -/
theorem exists_served_of_ok (hOpen : device.isOpen = true) {command : UInt64} {payload : Payload}
    (hAsks : AsksForReport command payload reportData) {n : Nat} {version : UInt8}
    {response : ResponseMessage} {buffer : Block n} {exit : ExitResult}
    (hOk : (ioctl command ⟨.guest ⟨version, payload, word⟩, response, buffer⟩ device).1.result =
      .ok exit) :
    (∃ served, (device.serve reportData response word).result = .ok served) ∧
      (ioctl command ⟨.guest ⟨version, payload, word⟩, response, buffer⟩
        device).1.argument.request.errorWord =
          (device.serve reportData response word).errorWord := by
  cases hAsks with
  | plain report =>
      rw [ioctl_plain hOpen] at hOk ⊢
      exact ⟨⟨exit, hOk⟩, rfl⟩
  | extended report certsLen hLen =>
      rw [ioctl_extended hOpen hLen] at hOk ⊢
      cases hResult : (device.serve report.reportData response word).result with
      | error cause =>
          simp only [hResult] at hOk
          cases hOk
      | ok served =>
          refine ⟨⟨served, rfl⟩, ?_⟩
          simp only [hResult, fill_request]
          rfl

end Served

/-- When an open device answers a request for a report without an error, the error word afterwards
is that of the prepared response if this refuses, and otherwise whatever the request came with.  So
it is the prepared word exactly if the firmware refuses or the request came with a clear word. -/
theorem errorWord_of_ok (device : SimulatedDevice) (hOpen : device.isOpen = true)
    {command : UInt64} {payload : Payload} {reportData : Block 64}
    (hAsks : AsksForReport command payload reportData) {n : Nat} (version : UInt8)
    (word : ErrorWord) (response : ResponseMessage) (buffer : Block n) {exit : ExitResult}
    (hOk : (ioctl command ⟨.guest ⟨version, payload, word⟩, response, buffer⟩ device).1.result =
      .ok exit) :
    let left := (ioctl command ⟨.guest ⟨version, payload, word⟩, response, buffer⟩
      device).1.argument.request.errorWord
    ∃ prepared, device.registry.get? reportData = some prepared ∧
      left = leftWord prepared word ∧
      (left = prepared.errorWord ↔ prepared.errorWord ≠ .clear ∨ word = .clear) := by
  intro left
  obtain ⟨⟨served, hServed⟩, hLeft⟩ := exists_served_of_ok hOpen hAsks hOk
  obtain ⟨prepared, hFound, hWord⟩ := serve_errorWord hServed
  have hSame : left = leftWord prepared word := hLeft.trans hWord
  refine ⟨prepared, hFound, hSame, ?_⟩
  rw [hSame]
  exact leftWord_eq_iff prepared word

/-- Behind a word that was clear, the firmware's refusal is what the caller reads. -/
theorem errorWord_of_ok_of_refused :
    let data : Block 64 := .zero 64
    let device : SimulatedDevice :=
      { new (.fixed ⟨[1], [2]⟩) with
        isOpen := true
        registry := (Registry.empty.insert data (.refused data ⟨0x16⟩)).2 }
    let argument : Argument 0 := .plain (.new data 0)
    let reply := (ioctl Command.getReport argument device).1
    reply.result = .ok .ok ∧ reply.argument.request.errorWord = ⟨0x16⟩ := by
  intro data device argument reply
  have hFound : device.registry.get? data = some (.refused data ⟨0x16⟩) :=
    OrderedMap.get?_insert_self _ _ _
  have hOk : reply.result = .ok .ok := by
    have hServe := serve_of_refused hFound (by decide) .zero .clear
    have hPlain := @ioctl_plain 0 device rfl 1 (.new data 0) .clear .zero (.zero 0)
    simp only [RequestMessage.new, hServe] at hPlain
    exact congrArg (fun outcome => outcome.1.result) hPlain
  obtain ⟨prepared, hPrepared, hLeft, -⟩ :=
    errorWord_of_ok device rfl (.plain (.new data 0)) 1 .clear .zero (.zero 0) hOk
  obtain rfl : prepared = .refused data ⟨0x16⟩ :=
    Option.some.inj (hPrepared.symm.trans hFound)
  exact ⟨hOk, hLeft⟩

/-! ## A request that is used again -/

/-- A report that is signed comes with certificates that fit, and with the error word of the
request. -/
theorem ioctl_extended_of_signed (device : SimulatedDevice) (hOpen : device.isOpen = true)
    (asked : RequestMessage) {prepared : PreparedResponse} {signed : Report}
    (hFound : device.registry.get? asked.reportData = some prepared)
    (hWord : prepared.errorWord = .clear)
    (hSign : prepared.response.report.sign device.signer = (.ok (), signed))
    {n : Nat} {certsLen : UInt32} (hLen : certsLen ≠ 0)
    (hFits : device.certificates.length ≤ min certsLen.toNat n) (version : UInt8)
    (word : ErrorWord) (response : ResponseMessage) (buffer : Block n) :
    ∃ filled : Block n,
      (ioctl Command.getExtendedReport
        ⟨.guest ⟨version, .extended asked certsLen, word⟩, response, buffer⟩ device).1 =
      ⟨.ok prepared.exitResult, ⟨.guest ⟨version, .extended asked certsLen, word⟩,
        { prepared.response with report := signed }, filled⟩⟩ := by
  have hServe := serve_of_signed hFound hWord hSign response word
  rw [ioctl_extended hOpen hLen]
  simp only [hServe]
  obtain ⟨filled, -, -, hFill⟩ := fill_of_fits prepared.exitResult
    ⟨.guest ⟨version, .extended asked certsLen, word⟩,
      { prepared.response with report := signed }, buffer⟩ hFits
  exact ⟨filled, hFill⟩

/-- A size query answers into the error word.  A request that is used again for the report keeps
that answer although the report is signed. -/
theorem exists_errorWord_behind_sizeQuery :
    let data : Block 64 := .zero 64
    let prepared : PreparedResponse := .accepted data
    let device : SimulatedDevice :=
      { new (.fixed ⟨[1], [2]⟩) with
        isOpen := true
        registry := (Registry.empty.insert data prepared).2
        certificates := [1, 2, 3] }
    let query := (ioctl Command.getExtendedReport (.extended (.new data 0) 0 .zero) device).1
    let lent : Argument 3 := ⟨query.argument.request, query.argument.response, .zero 3⟩
    let reply := (ioctl Command.getExtendedReport lent device).1
    query.result = .ok .ok ∧ reply.result = .ok .ok ∧
      device.registry.get? data = some prepared ∧ prepared.errorWord = .clear ∧
      reply.argument.request.errorWord = .sizeReply := by
  intro data prepared device query lent reply
  have hFound : device.registry.get? data = some prepared := OrderedMap.get?_insert_self _ _ _
  have hSize : device.certificates.length < CertificateTable.wordLimit := by decide
  have hQuery : query = ⟨.ok .ok, ⟨.guest ⟨1, .extended (.new data 0) 3, .sizeReply⟩, .zero,
      .zero 0⟩⟩ :=
    congrArg Prod.fst (ioctl_sizeQuery (n := 0) rfl hSize 1 (.new data 0) .clear .zero (.zero 0))
  have hLent : lent = ⟨.guest ⟨1, .extended (.new data 0) 3, .sizeReply⟩, .zero, .zero 3⟩ := by
    simp only [lent, hQuery]
  obtain ⟨signed, hSign⟩ : ∃ signed, prepared.response.report.sign device.signer =
    (.ok (), signed) := ⟨_, rfl⟩
  obtain ⟨filled, hFill⟩ := ioctl_extended_of_signed (n := 3) device rfl (.new data 0) hFound
    rfl hSign (by decide : (3 : UInt32) ≠ 0) (by decide) 1 .sizeReply .zero (.zero 3)
  rw [← hLent] at hFill
  have hReply : reply = _ := hFill
  exact ⟨by rw [hQuery], by rw [hReply]; rfl, hFound, rfl, by rw [hReply]; rfl⟩

end SimulatedDevice

end SnpGuest
