import SnpGuest.Proofs.Report.Packing
import SnpGuest.Proofs.Simulator.Independence
import SnpGuest.Proofs.Simulator.SignedReports

namespace SnpGuest

/-!
# Plain reports, byte by byte

A plain request for known data goes one of four ways.  The firmware refuses, and nothing but the
error word is written.  The signer fails, or gives a component that is too long, and nothing is
written at all.  Or the whole response buffer is written: it holds the prepared response, except
that the two components of the signature stand in the 144 bytes that the report keeps for them.

Which way it is depends on the prepared response and the signer alone.  A call changes neither, so
the same request gets the same reply again, however often it is made.
-/

/-! ## The bytes of a signed response -/

/-- Embedding two components rewrites the 144 bytes behind the signed ones. -/
theorem Report.toList_withComponents (report : Report) (r s : Block 72) :
    (toBlock { report with signature := { report.signature with r := r, s := s } }).toList =
      report.toBlock.toList.overwrite 0x2A0 (r.toList ++ s.toList) := by
  have hWidth : (r.toList ++ s.toList).length = 144 := by simp
  have hSigned : report.toBlock.toList.take 0x2A0 = report.signedBytes.toList :=
    (toList_signedBytes report).symm
  rw [Bytes.overwrite, hWidth, hSigned, drop_toBlock, toList_toBlock, List.append_assoc]
  rfl

theorem ResponseMessage.toList_withComponents (response : ResponseMessage) (r s : Block 72) :
    let report : Report :=
      { response.report with signature := { response.report.signature with r := r, s := s } }
    (toBlock { response with report := report }).toList =
      response.toBlock.toList.overwrite (reportOffset + 0x2A0) (r.toList ++ s.toList) := by
  intro report
  have hInside : 0x2A0 + (r.toList ++ s.toList).length ≤
      response.report.toBlock.toList.length := by
    rw [List.length_append, r.length_toList, s.length_toList, Block.length_toList]
    decide
  have hOverwrite := Bytes.overwrite_append response.front.toList hInside
    response.padding.toList
  rw [response.front.length_toList] at hOverwrite
  rw [toList_toBlock response, hOverwrite, ← Report.toList_withComponents]
  exact toList_toBlock _

namespace SignatureArea

/-- A component fits if at most 72 bytes of it are left behind the leading zeros. -/
def Fits (component : Bytes) : Prop :=
  (BigEndian.significant component).length ≤ 72

instance (component : Bytes) : Decidable (Fits component) :=
  inferInstanceAs (Decidable (_ ≤ 72))

/-- The 72 bytes of a component, low byte first. -/
def stored (component : Bytes) : Bytes :=
  LittleEndian.encode 72 (BigEndian.decode component)

theorem exists_field_of_fits {component : Bytes} (hFits : Fits component) :
    ∃ block : Block 72, field component = .ok block ∧ block.toList = stored component := by
  have hSmall := (BigEndian.length_significant_le_iff component 72).mp hFits
  obtain ⟨block, hField, hValue⟩ := exists_field hSmall
  refine ⟨block, hField, ?_⟩
  rw [stored, ← hValue]
  exact (congrArg Block.toList (Block.ofNat_toNat block)).symm

theorem field_of_not_fits {component : Bytes} (hLong : ¬ Fits component) :
    field component = .error .doesNotFit :=
  if_neg hLong

theorem embed_of_long (signature : SignatureArea) {r s : Bytes} (hLong : ¬ (Fits r ∧ Fits s)) :
    (signature.embed r s).1 = .error .doesNotFit := by
  by_cases hFits : Fits r
  · obtain ⟨block, hField, -⟩ := exists_field_of_fits hFits
    rw [embed_of_unfit_second signature hField (field_of_not_fits fun hS => hLong ⟨hFits, hS⟩)]
  · rw [embed_of_unfit_first signature s (field_of_not_fits hFits)]

end SignatureArea

/-- A response with the components of its signature in it. -/
def ResponseMessage.SignedWith (prepared : ResponseMessage) (components : SignatureComponents)
    (left : ResponseMessage) : Prop :=
  left.toBlock.toList = prepared.toBlock.toList.overwrite (reportOffset + 0x2A0)
    (SignatureArea.stored components.r ++ SignatureArea.stored components.s)

namespace SimulatedDevice

/-! ## One request -/

section Served

variable {device : SimulatedDevice} {reportData : Block 64} {prepared : PreparedResponse}

theorem serve_of_long (hFound : device.registry.get? reportData = some prepared)
    (hWord : prepared.errorWord = .clear) {components : SignatureComponents}
    (hSigner : device.signer.sign prepared.response.report.signedBytes.toList = .ok components)
    (hLong : ¬ (SignatureArea.Fits components.r ∧ SignatureArea.Fits components.s))
    (response : ResponseMessage) (word : ErrorWord) :
    device.serve reportData response word =
      ⟨.error (.setSignature .doesNotFit), response, word,
        [prepared.response.report.signedBytes.toList]⟩ := by
  have hSign := Report.sign_of_components hSigner
  rw [SignatureArea.embed_of_long _ hLong] at hSign
  exact serve_of_unsigned hFound hWord hSign response word

theorem exists_serve_of_fits (hFound : device.registry.get? reportData = some prepared)
    (hWord : prepared.errorWord = .clear) {components : SignatureComponents}
    (hSigner : device.signer.sign prepared.response.report.signedBytes.toList = .ok components)
    (hR : SignatureArea.Fits components.r) (hS : SignatureArea.Fits components.s) :
    ∃ left, prepared.response.SignedWith components left ∧ ∀ response word,
      device.serve reportData response word =
        ⟨.ok prepared.exitResult, left, word, [prepared.response.report.signedBytes.toList]⟩ := by
  obtain ⟨r, hFieldR, hBytesR⟩ := SignatureArea.exists_field_of_fits hR
  obtain ⟨s, hFieldS, hBytesS⟩ := SignatureArea.exists_field_of_fits hS
  have hSign := Report.sign_of_components hSigner
  rw [SignatureArea.embed_of_fields _ hFieldR hFieldS] at hSign
  refine ⟨_, ?_, serve_of_signed hFound hWord hSign⟩
  rw [ResponseMessage.SignedWith, ← hBytesR, ← hBytesS]
  exact prepared.response.toList_withComponents r s

/-- What is written and what is signed does not depend on the old response. -/
theorem serve_of_other (hFound : device.registry.get? reportData = some prepared)
    (response other : ResponseMessage) (word : ErrorWord) :
    let service := device.serve reportData response word
    let twin := device.serve reportData other word
    twin.result = service.result ∧ twin.errorWord = service.errorWord ∧
      twin.signed = service.signed ∧
      (prepared.errorWord = .clear → ∀ exit, service.result = .ok exit →
        twin.response = service.response) := by
  intro service twin
  rcases serve_ways hFound with ⟨hWord, hServe⟩ | ⟨-, _, hServe⟩ | ⟨-, _, -, hServe⟩
  · simp [service, twin, hServe, hWord]
  · simp [service, twin, hServe]
  · simp [service, twin, hServe]

end Served

/-! ## The same request again -/

/-- Served from what it left, a request leaves the same. -/
theorem serve_again (device : SimulatedDevice) (reportData : Block 64)
    (response : ResponseMessage) (word : ErrorWord) :
    let service := device.serve reportData response word
    device.serve reportData service.response service.errorWord = service := by
  intro service
  cases hFound : device.registry.get? reportData with
  | none => simp only [service, serve_of_unknown hFound]
  | some prepared =>
      rcases serve_ways hFound with ⟨-, hServe⟩ | ⟨-, _, hServe⟩ | ⟨-, _, -, hServe⟩
      all_goals simp only [service, hServe]

/-- A reply does not depend on what was put before the signer earlier. -/
theorem ioctl_after {n : Nat} (command : UInt64) (argument : Argument n) (device : SimulatedDevice)
    (messages : List Bytes) :
    (ioctl command argument (device.after messages)).1 = (ioctl command argument device).1 :=
  ((Alike.refl (fun _ => True) device).after messages).ioctl_eq fun _ _ _ _ => trivial

/-- A plain call made again, with the argument as it was left and on the device as it was left, gets
the same reply. -/
theorem ioctl_getReport_again {n : Nat} (argument : Argument n) (device : SimulatedDevice) :
    let outcome := ioctl Command.getReport argument device
    (ioctl Command.getReport outcome.1.argument outcome.2).1 = outcome.1 := by
  intro outcome
  obtain ⟨messages, hAfter⟩ := ioctl_device device Command.getReport argument
  have hSame : (ioctl Command.getReport outcome.1.argument outcome.2).1 =
      (ioctl Command.getReport outcome.1.argument device).1 := by
    rw [hAfter]
    exact ioctl_after _ _ device messages
  rw [hSame]
  obtain ⟨⟨version, payload, word⟩ | bytes, response, buffer⟩ := argument
  · cases hOpen : device.isOpen with
    | false => simp only [outcome, ioctl_closed hOpen]
    | true =>
        cases payload with
        | report report =>
            simp only [outcome, ioctl_plain hOpen]
            rw [serve_again]
        | extended report certsLen => simp only [outcome, ioctl_plain_of_extended hOpen]
  · rfl

/-- The reply to a call, and the device behind it, when the call was made `count` times before, each
time with the argument as the time before left it. -/
def repeated {n : Nat} (command : UInt64) :
    Nat → Argument n → SimulatedDevice → Reply n × SimulatedDevice
  | 0, argument, device => ioctl command argument device
  | count + 1, argument, device =>
    repeated command count (ioctl command argument device).1.argument
      (ioctl command argument device).2

theorem repeated_getReport {n : Nat} (count : Nat) (argument : Argument n)
    (device : SimulatedDevice) :
    (repeated Command.getReport count argument device).1 =
      (ioctl Command.getReport argument device).1 := by
  induction count generalizing argument device with
  | zero => rfl
  | succ count ih => exact (ih _ _).trans (ioctl_getReport_again argument device)

theorem repeated_device {n : Nat} (command : UInt64) (count : Nat) (argument : Argument n)
    (device : SimulatedDevice) :
    ∃ messages, (repeated command count argument device).2 = device.after messages := by
  induction count generalizing argument device with
  | zero => exact ioctl_device device command argument
  | succ count ih =>
      obtain ⟨first, hFirst⟩ := ioctl_device device command argument
      obtain ⟨later, hLater⟩ := ih (ioctl command argument device).1.argument
        (ioctl command argument device).2
      refine ⟨first ++ later, hLater.trans ?_⟩
      rw [hFirst, after, after, after, List.append_assoc]

/-! ## Main statement -/

/-- What an open device does with a plain request for known data, for any contents of the prepared
response, any signer and any contents of the caller's memory.  A refusal of the firmware goes into
the error word; the response stays, and nothing is signed.  Otherwise the signed bytes of the
prepared report are put before the signer once.  If it fails, or gives a component of more than 72
bytes behind its leading zeros, the argument stays as it was.  If not, the response holds the
prepared one, with the components in the 144 bytes of the signature and every other byte as it was
prepared.  Nothing else of the request matters than its data, and nothing of the old response.  The
prepared responses stay, and the request gets the same reply however often it is made, with the
memory as it was left or as it was at first. -/
theorem ioctl_getReport (device : SimulatedDevice) (hOpen : device.isOpen = true)
    (request : RequestMessage) {prepared : PreparedResponse}
    (hFound : device.registry.get? request.reportData = some prepared) {n : Nat}
    (version : UInt8) (word : ErrorWord) (response : ResponseMessage) (buffer : Block n) :
    let argument : Argument n := ⟨.guest ⟨version, .report request, word⟩, response, buffer⟩
    let outcome := ioctl Command.getReport argument device
    let message := prepared.response.report.signedBytes.toList
    (prepared.errorWord ≠ .clear →
      outcome = (⟨.ok prepared.exitResult,
        ⟨.guest ⟨version, .report request, prepared.errorWord⟩, response, buffer⟩⟩, device)) ∧
    (prepared.errorWord = .clear →
      outcome.2 = { device with signed := device.signed ++ [message] } ∧
      (∀ causes, device.signer.sign message = .error causes →
        outcome.1 = ⟨.error (.sign causes), argument⟩) ∧
      ∀ components, device.signer.sign message = .ok components →
        (¬ (SignatureArea.Fits components.r ∧ SignatureArea.Fits components.s) →
          outcome.1 = ⟨.error (.setSignature .doesNotFit), argument⟩) ∧
        (SignatureArea.Fits components.r → SignatureArea.Fits components.s →
          ∃ left, prepared.response.SignedWith components left ∧
            outcome.1 = ⟨.ok prepared.exitResult,
              ⟨.guest ⟨version, .report request, word⟩, left, buffer⟩⟩)) ∧
    (∀ (other : RequestMessage) (otherVersion : UInt8) (otherResponse : ResponseMessage)
      {m : Nat} (otherBuffer : Block m), other.reportData = request.reportData →
      let twin := ioctl Command.getReport
        ⟨.guest ⟨otherVersion, .report other, word⟩, otherResponse, otherBuffer⟩ device
      twin.1.result = outcome.1.result ∧
      twin.1.argument.request.errorWord = outcome.1.argument.request.errorWord ∧
      twin.2 = outcome.2 ∧
      (prepared.errorWord = .clear → ∀ exit, outcome.1.result = .ok exit →
        twin.1.argument.response = outcome.1.argument.response)) ∧
    outcome.2.registry = device.registry ∧
    ∀ count,
      let again := repeated Command.getReport count argument device
      again.1 = outcome.1 ∧ (ioctl Command.getReport argument again.2).1 = outcome.1 := by
  intro argument outcome message
  have hOutcome : outcome = _ := ioctl_plain hOpen version request word response buffer
  refine ⟨fun hWord => ?_, fun hWord => ⟨?_, fun causes hSigner => ?_,
    fun components hSigner => ⟨fun hLong => ?_, fun hR hS => ?_⟩⟩,
    fun other otherVersion otherResponse m otherBuffer hData => ?_, ?_,
    fun count => ⟨repeated_getReport count argument device, ?_⟩⟩
  · rw [hOutcome, serve_of_refused hFound hWord, after_nil]
  · rw [hOutcome, serve_signed]
    simp [after, messageFor?, hFound, hWord, message]
  · rw [hOutcome, serve_of_unsigned hFound hWord (Report.sign_of_failure hSigner)]
    rfl
  · rw [hOutcome, serve_of_long hFound hWord hSigner hLong]
  · obtain ⟨left, hLeft, hServe⟩ := exists_serve_of_fits hFound hWord hSigner hR hS
    exact ⟨left, hLeft, by rw [hOutcome, hServe]⟩
  · obtain ⟨hResult, hWord, hSigned, hResponse⟩ :=
      serve_of_other hFound response otherResponse word
    intro twin
    have hTwin : twin = _ :=
      ioctl_plain hOpen otherVersion other word otherResponse otherBuffer
    rw [hTwin, hOutcome, hData]
    refine ⟨hResult, hWord, ?_, hResponse⟩
    rw [hSigned]
  · rw [hOutcome]
    rfl
  · obtain ⟨messages, hAgain⟩ := repeated_device Command.getReport count argument device
    rw [hAgain]
    exact ioctl_after _ _ device messages

/-- A prepared response of 4000 bytes `0xFF`, also where its signature is, and two components of one
byte: the reply holds these two, with zeros behind each, among the bytes `0xFF`. -/
theorem ioctl_getReport_of_stale_bytes :
    let stale : Block ResponseMessage.size := ⟨List.replicate 4000 0xFF, List.length_replicate⟩
    let prepared : PreparedResponse := ⟨.ofBlock stale, .ok, .clear⟩
    let request : RequestMessage := .new (.zero 64) 3
    let device : SimulatedDevice :=
      { new (.fixed ⟨[0, 1], [2]⟩) with
        isOpen := true
        registry := (Registry.empty.insert request.reportData prepared).2 }
    let outcome := ioctl Command.getReport (.plain request) device
    device.isOpen = true ∧ device.registry.get? request.reportData = some prepared ∧
      outcome.1.result = .ok .ok ∧
      outcome.1.argument.response.toBlock.toList = stale.toList.overwrite (32 + 0x2A0)
        ((1 :: List.replicate 71 0) ++ (2 :: List.replicate 71 0)) := by
  intro stale prepared request device outcome
  have hFound : device.registry.get? request.reportData = some prepared :=
    OrderedMap.get?_insert_self _ _ _
  obtain ⟨-, hAccepted, -⟩ :=
    ioctl_getReport device rfl request hFound 1 .clear .zero (.zero 0)
  obtain ⟨-, -, hComponents⟩ := hAccepted rfl
  obtain ⟨-, hFit⟩ := hComponents ⟨[0, 1], [2]⟩ rfl
  obtain ⟨left, hLeft, hReply⟩ := hFit (by decide) (by decide)
  have hOutcome : outcome.1 = _ := hReply
  have hOne : SignatureArea.stored [0, 1] = 1 :: List.replicate 71 0 := by decide
  have hTwo : SignatureArea.stored [2] = 2 :: List.replicate 71 0 := by decide
  rw [ResponseMessage.SignedWith, ResponseMessage.toBlock_ofBlock, hOne, hTwo] at hLeft
  exact ⟨rfl, hFound, by rw [hOutcome], by rw [hOutcome]; exact hLeft⟩

end SimulatedDevice

end SnpGuest
