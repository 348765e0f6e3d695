import SnpGuest.Proofs.Crypto.Ecdsa
import SnpGuest.Proofs.Report.Embedding
import SnpGuest.Proofs.Simulator.ErrorWords

namespace SnpGuest

/-!
# Signed reports

The signature of a report covers exactly the bytes in front of it.  So embedding a signature does
not touch what was signed, and the report verifies; signing it once more signs the same bytes and
changes nothing.  This holds for every report, also for one that has a signature already, and hangs
on the signature scheme only by `SignatureScheme.Lawful`.  Every report that the simulated device
hands out is of this kind.
-/

namespace Report

/-! ## The place of the signature -/

theorem toList_toBlock (report : Report) :
    report.toBlock.toList = report.signedBytes.toList ++ (report.signature.r.toList ++
      (report.signature.s.toList ++ report.signature.reserved.toList)) := by
  have hTail : report.bytesOf Field.signature = report.signature.r.toList ++
      (report.signature.s.toList ++ (report.signature.reserved.toList ++ [])) := rfl
  rw [List.append_nil] at hTail
  rw [← hTail]
  exact List.flatMap_append

/-- Behind the signed bytes and two components of 72 bytes stands the reserved rest. -/
theorem drop_toBlock (report : Report) :
    report.toBlock.toList.drop (0x2A0 + 144) = report.signature.reserved.toList := by
  have hFront : (report.signedBytes.toList ++ report.signature.r.toList ++
      report.signature.s.toList).length = 0x2A0 + 144 := by
    simp
  rw [toList_toBlock, ← List.append_assoc, ← List.append_assoc, List.drop_left' hFront]

/-- The signature is no part of what it covers. -/
theorem signedBytes_withSignature (report : Report) (signature : SignatureArea) :
    signedBytes { report with signature := signature } = report.signedBytes :=
  rfl

/-! ## Signing with a key -/

section Signing

variable {scheme : SignatureScheme}

/-- Two numbers of 48 bytes can always be embedded, so signing with a key hangs on the scheme
alone. -/
theorem exists_sign_ofKey_iff (key : scheme.PrivateKey) (report : Report) :
    (∃ signed, report.sign (.ofKey scheme key) = (.ok (), signed)) ↔
      (scheme.sign key report.signedBytes.toList).isSome := by
  cases hSign : scheme.sign key report.signedBytes.toList with
  | none =>
      have hSigner : (Signer.ofKey scheme key).sign report.signedBytes.toList =
          .error ["ECDSA P-384 signing failed", "signature error"] := by
        simp only [Signer.ofKey, hSign]
      simp [sign_of_failure hSigner]
  | some components =>
      obtain ⟨r, s⟩ := components
      have hSigner : (Signer.ofKey scheme key).sign report.signedBytes.toList =
          .ok ⟨BigEndian.encode 48 r, BigEndian.encode 48 s⟩ := by
        simp only [Signer.ofKey, hSign]
      obtain ⟨embedded, hEmbed, -⟩ := report.signature.exists_embed
        ⟨BigEndian.encode 48 r, BigEndian.length_encode 48 r⟩
        ⟨BigEndian.encode 48 s, BigEndian.length_encode 48 s⟩
      refine iff_of_true ⟨{ report with signature := embedded }, ?_⟩ rfl
      rw [sign_of_components hSigner, hEmbed]
      rfl

/-- What it means that `signed` is the report with the signature of a key in it. -/
structure SignedBy (scheme : SignatureScheme) (key : scheme.PrivateKey)
    (report signed : Report) : Prop where
  sign : report.sign (.ofKey scheme key) = (.ok (), signed)
  front : signed.toBlock.toList.take 0x2A0 = report.toBlock.toList.take 0x2A0
  reserved : signed.toBlock.toList.drop (0x2A0 + 144) =
    report.toBlock.toList.drop (0x2A0 + 144)
  /-- The components in the report are the 48 bytes each that the signer gives for these bytes. -/
  components : ∃ r s : Block 48,
    (Signer.ofKey scheme key).sign (report.toBlock.toList.take 0x2A0) =
      .ok ⟨r.toList, s.toList⟩ ∧
    signed.signature.scalars = .ok (r, s)
  verifies : signed.verify scheme (scheme.publicKey key) = .ok ()
  again : signed.sign (.ofKey scheme key) = (.ok (), signed)

/-- The numbers that a lawful scheme gives for a message fit into 48 bytes, are in range, and
verify. -/
theorem exists_components (hLawful : scheme.Lawful) (key : scheme.PrivateKey) (message : Bytes) :
    ∃ r s : Block 48,
      (Signer.ofKey scheme key).sign message = .ok ⟨r.toList, s.toList⟩ ∧
      scheme.inRange (BigEndian.decode r.toList) = true ∧
      scheme.inRange (BigEndian.decode s.toList) = true ∧
      scheme.verify (scheme.publicKey key) message (BigEndian.decode r.toList)
        (BigEndian.decode s.toList) = true := by
  obtain ⟨⟨r, s⟩, hSign⟩ := Option.isSome_iff_exists.mp (hLawful.sign_isSome key message)
  obtain ⟨hRangeR, hRangeS⟩ := hLawful.sign_inRange key message r s hSign
  have hDecode : ∀ component, scheme.inRange component = true →
      BigEndian.decode (BigEndian.encode 48 component) = component := by
    intro component hRange
    have hBelow : component < scheme.order := by
      rw [scheme.inRange_iff] at hRange
      omega
    rw [BigEndian.decode_encode, Nat.mod_eq_of_lt (Nat.lt_of_lt_of_le hBelow hLawful.order_le)]
  refine ⟨⟨BigEndian.encode 48 r, BigEndian.length_encode 48 r⟩,
    ⟨BigEndian.encode 48 s, BigEndian.length_encode 48 s⟩, by simp only [Signer.ofKey, hSign], ?_⟩
  rw [hDecode r hRangeR, hDecode s hRangeS]
  exact ⟨hRangeR, hRangeS, hLawful.verify_sign key message r s hSign⟩

/-- Every report can be signed. -/
theorem exists_signedBy (hLawful : scheme.Lawful) (key : scheme.PrivateKey) (report : Report) :
    ∃ signed, SignedBy scheme key report signed := by
  obtain ⟨r, s, hSigner, hRangeR, hRangeS, hVerify⟩ :=
    exists_components hLawful key report.signedBytes.toList
  obtain ⟨embedded, hEmbed, hReserved, hScalars, hAgain⟩ := report.signature.exists_embed r s
  let signed : Report := { report with signature := embedded }
  have hSigned : signed.signedBytes = report.signedBytes :=
    signedBytes_withSignature report embedded
  refine ⟨signed, ?_, ?_, ?_, ⟨r, s, ?_, hScalars⟩, ?_, ?_⟩
  · rw [sign_of_components hSigner, hEmbed]
    rfl
  · rw [← toList_signedBytes, ← toList_signedBytes, hSigned]
  · rw [drop_toBlock, drop_toBlock]
    exact congrArg Block.toList hReserved
  · rw [← toList_signedBytes]
    exact hSigner
  · have hArea : signed.signature.scalars = .ok (r, s) := hScalars
    simp [verify, hArea, hRangeR, hRangeS, hSigned, hVerify]
  · have hSame : (Signer.ofKey scheme key).sign signed.signedBytes.toList =
        .ok ⟨r.toList, s.toList⟩ := by
      rw [hSigned]
      exact hSigner
    have hArea : signed.signature.embed r.toList s.toList = (.ok (), embedded) := hAgain
    rw [sign_of_components hSame, hArea]
    rfl

end Signing

end Report

namespace SimulatedDevice

/-! ## Reports of the device -/

/-- With a prepared response that the firmware accepts, every call for a report over its data
leaves that response with its report signed.  An extended call can still complain that the
certificates do not fit. -/
theorem ioctl_of_signed {device : SimulatedDevice} (hOpen : device.isOpen = true)
    {reportData : Block 64} {prepared : PreparedResponse} {signed : Report}
    (hFound : device.registry.get? reportData = some prepared)
    (hWord : prepared.errorWord = .clear)
    (hSign : prepared.response.report.sign device.signer = (.ok (), signed))
    {command : UInt64} {payload : Payload} (hAsks : AsksForReport command payload reportData)
    {n : Nat} (version : UInt8) (word : ErrorWord) (response : ResponseMessage)
    (buffer : Block n) :
    let reply := (ioctl command ⟨.guest ⟨version, payload, word⟩, response, buffer⟩ device).1
    reply.argument.response = { prepared.response with report := signed } ∧
      (reply.result = .ok prepared.exitResult ∨
        ∃ actual, reply.result =
          .error (.bufferTooSmall actual device.certificates.length)) := by
  refine ⟨response_of_signed hOpen hAsks hFound hWord hSign response buffer, ?_⟩
  have hServe := serve_of_signed hFound hWord hSign response word
  cases hAsks with
  | plain report =>
      rw [ioctl_plain hOpen, hServe]
      exact .inl rfl
  | extended report certsLen hLen =>
      rw [ioctl_extended hOpen hLen]
      simp only [hServe]
      rcases Nat.lt_or_ge (min certsLen.toNat n) device.certificates.length with hSmall | hFits
      · rw [fill_of_small prepared.exitResult _ hSmall]
        exact .inr ⟨_, rfl⟩
      · obtain ⟨filled, -, -, hFill⟩ := fill_of_fits prepared.exitResult _ hFits
        rw [hFill]
        exact .inl rfl

/-- For a lawful scheme and any of its keys.  Every report can be signed: the signed bytes and the
reserved rest stay, the signer's components are read back, the signature verifies under the key's
public part, and signing once more gives the same report.  An open device with that key answers
every call for a report, whatever the caller's memory holds, with the prepared response and its
report signed in this sense, if the firmware accepts. -/
theorem signedBy_of_lawful {scheme : SignatureScheme} (hLawful : scheme.Lawful)
    (key : scheme.PrivateKey) :
    (∀ report : Report, ∃ signed, Report.SignedBy scheme key report signed) ∧
    ∀ (device : SimulatedDevice) (reportData : Block 64) (prepared : PreparedResponse),
      device.isOpen = true → device.signer = .ofKey scheme key →
      device.registry.get? reportData = some prepared → prepared.errorWord = .clear →
      ∃ signed, Report.SignedBy scheme key prepared.response.report signed ∧
        ∀ {n : Nat} (command : UInt64) (payload : Payload) (version : UInt8) (word : ErrorWord)
          (response : ResponseMessage) (buffer : Block n),
          AsksForReport command payload reportData →
          let reply := (ioctl command ⟨.guest ⟨version, payload, word⟩, response, buffer⟩
            device).1
          reply.argument.response = { prepared.response with report := signed } ∧
            (reply.result = .ok prepared.exitResult ∨
              ∃ actual, reply.result =
                .error (.bufferTooSmall actual device.certificates.length)) := by
  refine ⟨Report.exists_signedBy hLawful key, ?_⟩
  intro device reportData prepared hOpen hSigner hFound hWord
  obtain ⟨signed, hSigned⟩ := Report.exists_signedBy hLawful key prepared.response.report
  have hSign : prepared.response.report.sign device.signer = (.ok (), signed) := by
    rw [hSigner]
    exact hSigned.sign
  refine ⟨signed, hSigned, ?_⟩
  intro n command payload version word response buffer hAsks
  exact ioctl_of_signed hOpen hFound hWord hSign hAsks version word response buffer

/-- A key on the curve, and a report over zero data that was signed before.  The device signs it
again to the same report. -/
theorem signedBy_of_lawful_of_trusted :
    let key : Ecdsa.PrivateKey := ⟨1, by decide⟩
    let data : Block 64 := .zero 64
    Ecdsa.trusted.Lawful ∧
      ∃ signed, Report.SignedBy Ecdsa.trusted key (PreparedResponse.currentReport data) signed ∧
        let device : SimulatedDevice :=
          { new (.ofKey Ecdsa.trusted key) with
            isOpen := true
            registry := (Registry.empty.insert data (.ofReport signed)).2 }
        let reply := (ioctl Command.getReport (.plain (.new data 0)) device).1
        reply.argument.response = .ofReport signed := by
  intro key data
  obtain ⟨hReports, hCalls⟩ := signedBy_of_lawful Ecdsa.trusted_lawful key
  obtain ⟨signed, hSigned⟩ := hReports (PreparedResponse.currentReport data)
  refine ⟨Ecdsa.trusted_lawful, signed, hSigned, ?_⟩
  intro device reply
  have hFound : device.registry.get? data = some (.ofReport signed) :=
    OrderedMap.get?_insert_self _ _ _
  obtain ⟨again, hAgain, hReply⟩ := hCalls device data (.ofReport signed) rfl rfl hFound rfl
  have hSame : again = signed :=
    congrArg Prod.snd (hAgain.sign.symm.trans hSigned.again)
  rw [hSame] at hReply
  exact (hReply Command.getReport _ 1 .clear .zero (.zero 0) (.plain (.new data 0))).1

end SimulatedDevice

end SnpGuest
