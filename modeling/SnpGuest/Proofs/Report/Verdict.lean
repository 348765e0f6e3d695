import SnpGuest.Proofs.Report.Fields
import SnpGuest.Proofs.Report.Validation
import SnpGuest.Proofs.Simulator.SignedReports

namespace SnpGuest

/-!
# The verdict of validation

Validation puts seven questions to the bytes of a report, and the first that is answered badly gives
the verdict (`Report.validate_eq_firstOf`).  `ReportFlaw.IsIn` says of each question which bytes and
bits it looks at; no other byte plays a part.  The components of the signature are among those that
do not, so whoever signs a report, the simulated device included, leaves its verdict alone.
-/

/-! ## Words and their bits -/

/-- Bits 2 to 4 of a word as a number. -/
theorem toNat_keyBits (word : UInt32) : ((word &&& 0x1c) >>> 2).toNat = word.toNat / 4 % 8 := by
  have hMask : (0x1c : Nat) >>> 2 = 2 ^ 3 - 1 := by decide
  show (word.toNat &&& 0x1c) >>> 2 = _
  rw [Nat.shiftRight_and_distrib, hMask, Nat.and_two_pow_sub_one_eq_mod, Nat.shiftRight_eq_div_pow]

/-- A code is unknown if it is not among those of a list. -/
theorem find?_code_isNone_iff {α : Type} (codeOf : α → UInt32) (known : List α) (code : UInt32) :
    (known.find? fun value => codeOf value == code).isNone ↔
      code.toNat ∉ known.map fun value => (codeOf value).toNat := by
  rw [Option.isNone_iff_eq_none, List.find?_eq_none, List.mem_map, not_exists]
  simp only [beq_iff_eq, UInt32.toNat_inj, not_and]

/-- A word of flags is unknown if one of its bits from the tenth on is set. -/
theorem PolicyFlag.ofWord?_isNone_iff (word : UInt16) :
    (ofWord? word).isNone ↔ ∃ bit, 10 ≤ bit ∧ bit < 16 ∧ word.toNat.testBit bit = true := by
  have hSmall : (ofWord? word).isNone ↔ ¬ word.toNat < 2 ^ 10 := by
    rw [ofWord?]
    split <;> simp_all
  rw [hSmall]
  constructor
  · intro hLarge
    by_contra hNone
    refine hLarge (Nat.lt_pow_two_of_testBit _ fun bit hBit => ?_)
    by_cases hInside : bit < 16
    · exact Bool.eq_false_iff.mpr fun hSet => hNone ⟨bit, hBit, hInside, hSet⟩
    · apply Nat.testBit_lt_two_pow
      exact Nat.lt_of_lt_of_le word.toNat_lt (Nat.pow_le_pow_right (by decide) (by omega))
  · rintro ⟨bit, hBit, -, hSet⟩ hLess
    have hClear : word.toNat.testBit bit = false :=
      Nat.testBit_lt_two_pow (Nat.lt_of_lt_of_le hLess (Nat.pow_le_pow_right (by decide) hBit))
    rw [hSet] at hClear
    cases hClear

theorem Block.isZero_iff {n : Nat} (block : Block n) : block.isZero = true ↔ block = .zero n := by
  constructor
  · intro hZero
    apply Block.ext
    rw [isZero, Bytes.isZero, List.all_eq_true] at hZero
    exact List.eq_replicate_iff.mpr ⟨block.length_toList, fun byte hByte => by
      simpa using hZero byte hByte⟩
  · rintro rfl
    exact isZero_zero n

theorem Block.ofUInt32_eq_zero_iff (word : UInt32) : ofUInt32 word = zero 4 ↔ word = 0 := by
  constructor
  · intro hZero
    rw [← toUInt32_ofUInt32 word, hZero]
    rfl
  · rintro rfl
    rfl

/-! ## The questions -/

namespace ReportFlaw

/-- The flaws in the order in which they are looked for. -/
def inOrder : List ReportFlaw :=
  [outdatedVersion, reservedPolicy, unknownPolicyFlag, reservedKey, unknownSigningKey,
    unknownAlgorithm, reservedSignature]

theorem mem_inOrder (flaw : ReportFlaw) : flaw ∈ inOrder := by
  cases flaw <;> decide

theorem nodup_inOrder : inOrder.Nodup := by
  decide

/-- What each flaw is in the bytes of a report. -/
def IsIn (bytes : Block Report.size) : ReportFlaw → Prop
  | outdatedVersion => (bytes.slice 0 4 (by decide)).toNat ∈ [1, 2]
  | reservedPolicy => bytes.slice 12 4 (by decide) ≠ .zero 4
  | unknownPolicyFlag => ∃ bit, 10 ≤ bit ∧ bit < 16 ∧
      (bytes.slice 10 2 (by decide)).toNat.testBit bit = true
  | reservedKey => bytes.slice 76 4 (by decide) ≠ .zero 4
  -- Bits 2 to 4 of the word.
  | unknownSigningKey => (bytes.slice 72 4 (by decide)).toNat / 4 % 8 ∉ [0, 1, 7]
  | unknownAlgorithm => (bytes.slice 52 4 (by decide)).toNat ∉ [0, 1]
  | reservedSignature => bytes.slice (0x2A0 + 144) 368 (by decide) ≠ .zero 368

/-- The flaw is in the bytes, and none of those that are looked for earlier. -/
def IsFirstIn (bytes : Block Report.size) (flaw : ReportFlaw) : Prop :=
  ∃ front back, inOrder = front ++ flaw :: back ∧ flaw.IsIn bytes ∧
    ∀ earlier ∈ front, ¬ earlier.IsIn bytes

/-- The verdict of some questions put in turn: the first flaw that is there. -/
def firstOf (isThere : ReportFlaw → Prop) [DecidablePred isThere] :
    List ReportFlaw → Except ReportFlaw Unit
  | [] => .ok ()
  | flaw :: rest => if isThere flaw then .error flaw else firstOf isThere rest

section FirstOf

variable (isThere : ReportFlaw → Prop) [DecidablePred isThere]

/-- The questions behind are put only if none before them was answered badly. -/
theorem firstOf_append (front back : List ReportFlaw) :
    firstOf isThere (front ++ back) =
      match firstOf isThere front with
      | .error flaw => .error flaw
      | .ok () => firstOf isThere back := by
  induction front with
  | nil => rfl
  | cons flaw front ih =>
      rw [List.cons_append, firstOf, firstOf]
      by_cases hThere : isThere flaw
      · simp only [if_pos hThere]
      · simp only [if_neg hThere, ih]

theorem firstOf_eq_ok_iff (flaws : List ReportFlaw) :
    firstOf isThere flaws = .ok () ↔ ∀ flaw ∈ flaws, ¬ isThere flaw := by
  induction flaws with
  | nil => simp [firstOf]
  | cons flaw rest ih =>
      rw [firstOf, List.forall_mem_cons]
      by_cases hThere : isThere flaw
      · simp [hThere]
      · simp [hThere, ih]

theorem isThere_of_firstOf {flaws : List ReportFlaw} {flaw : ReportFlaw}
    (hError : firstOf isThere flaws = .error flaw) : flaw ∈ flaws ∧ isThere flaw := by
  induction flaws with
  | nil => cases hError
  | cons first rest ih =>
      rw [firstOf] at hError
      by_cases hFirst : isThere first
      · rw [if_pos hFirst] at hError
        obtain rfl := Except.error.inj hError
        exact ⟨List.mem_cons_self, hFirst⟩
      · rw [if_neg hFirst] at hError
        exact ⟨List.mem_cons_of_mem _ (ih hError).1, (ih hError).2⟩

theorem firstOf_eq_error_iff {front : List ReportFlaw} {flaw : ReportFlaw} (hNew : flaw ∉ front)
    (back : List ReportFlaw) :
    firstOf isThere (front ++ flaw :: back) = .error flaw ↔
      isThere flaw ∧ ∀ earlier ∈ front, ¬ isThere earlier := by
  constructor
  · intro hError
    refine ⟨(isThere_of_firstOf isThere hError).2, ?_⟩
    rw [← firstOf_eq_ok_iff]
    rw [firstOf_append] at hError
    cases hFront : firstOf isThere front with
    | ok _ => rfl
    | error other =>
        rw [hFront] at hError
        obtain rfl : other = flaw := Except.error.inj hError
        exact absurd (isThere_of_firstOf isThere hFront).1 hNew
  · rintro ⟨hThere, hFront⟩
    rw [firstOf_append, (firstOf_eq_ok_iff isThere front).mpr hFront]
    exact if_pos hThere

end FirstOf

end ReportFlaw

/-! ## The answers -/

namespace Report

/-- What each flaw is in the fields of a report. -/
def Has (report : Report) : ReportFlaw → Prop
  | .outdatedVersion => report.body.version = 1 ∨ report.body.version = 2
  | .reservedPolicy => report.body.policy.reserved ≠ 0
  | .unknownPolicyFlag => report.body.policy.flags?.isNone
  | .reservedKey => report.body.reservedKey ≠ 0
  | .unknownSigningKey => report.signingKey?.isNone
  | .unknownAlgorithm => report.signingAlgorithm?.isNone
  | .reservedSignature => ¬ report.signature.reserved.isZero

instance (report : Report) : DecidablePred report.Has
  | .outdatedVersion => inferInstanceAs (Decidable (_ ∨ _))
  | .reservedPolicy | .reservedKey => inferInstanceAs (Decidable (_ ≠ _))
  | .unknownPolicyFlag | .unknownSigningKey | .unknownAlgorithm =>
    inferInstanceAs (Decidable (_ = true))
  | .reservedSignature => inferInstanceAs (Decidable (¬ _))

theorem validate_eq_firstOf (report : Report) :
    report.validate = ReportFlaw.firstOf report.Has ReportFlaw.inOrder := by
  have hPolicy : report.body.policy.validate =
      ReportFlaw.firstOf report.Has [.reservedPolicy, .unknownPolicyFlag] := rfl
  have hSignature : report.signature.validate =
      ReportFlaw.firstOf report.Has [.reservedSignature] := (ite_not ..).symm
  have hBehind := ReportFlaw.firstOf_append report.Has [.reservedPolicy, .unknownPolicyFlag]
    [.reservedKey, .unknownSigningKey, .unknownAlgorithm]
  have hBody : report.validateBody = ReportFlaw.firstOf report.Has (.outdatedVersion ::
      ([.reservedPolicy, .unknownPolicyFlag] ++
        [.reservedKey, .unknownSigningKey, .unknownAlgorithm])) := by
    show _ = if report.Has .outdatedVersion then .error .outdatedVersion
      else ReportFlaw.firstOf report.Has _
    rw [hBehind, ← hPolicy]
    rfl
  rw [validate, hBody, hSignature]
  exact (ReportFlaw.firstOf_append report.Has _ _).symm

/-- The bytes of a report show its flaws. -/
theorem isIn_toBlock_iff (report : Report) (flaw : ReportFlaw) :
    flaw.IsIn report.toBlock ↔ report.Has flaw := by
  cases flaw with
  | outdatedVersion =>
      have hRead : report.toBlock.slice 0 4 (by decide) = .ofUInt32 report.body.version :=
        report.read_toBlock .version
      rw [ReportFlaw.IsIn, hRead, Block.toNat_ofUInt32]
      simp [Has, ← UInt32.toNat_inj]
  | reservedPolicy =>
      have hRead : report.toBlock.slice 12 4 (by decide) =
          .ofUInt32 report.body.policy.reserved := report.read_toBlock .policyReserved
      rw [ReportFlaw.IsIn, hRead]
      exact not_congr (Block.ofUInt32_eq_zero_iff _)
  | unknownPolicyFlag =>
      have hRead : report.toBlock.slice 10 2 (by decide) = .ofUInt16 report.body.policy.flags :=
        report.read_toBlock .policyFlags
      rw [ReportFlaw.IsIn, hRead, Block.toNat_ofUInt16]
      exact (PolicyFlag.ofWord?_isNone_iff _).symm
  | reservedKey =>
      have hRead : report.toBlock.slice 76 4 (by decide) = .ofUInt32 report.body.reservedKey :=
        report.read_toBlock .reservedKey
      rw [ReportFlaw.IsIn, hRead]
      exact not_congr (Block.ofUInt32_eq_zero_iff _)
  | unknownSigningKey =>
      have hRead : report.toBlock.slice 72 4 (by decide) = .ofUInt32 report.body.keyInfo :=
        report.read_toBlock .keyInfo
      rw [ReportFlaw.IsIn, hRead, Block.toNat_ofUInt32, ← toNat_keyBits]
      exact (find?_code_isNone_iff SigningKey.code [.vcek, .vlek, .none] _).symm
  | unknownAlgorithm =>
      have hRead : report.toBlock.slice 52 4 (by decide) = .ofUInt32 report.body.signatureAlgo :=
        report.read_toBlock .signatureAlgo
      rw [ReportFlaw.IsIn, hRead, Block.toNat_ofUInt32]
      exact (find?_code_isNone_iff SigningAlgorithm.code [.invalid, .ecdsaP384Sha384] _).symm
  | reservedSignature =>
      have hRead : report.toBlock.slice (0x2A0 + 144) 368 (by decide) =
          report.signature.reserved := report.read_toBlock .signatureReserved
      rw [ReportFlaw.IsIn, hRead]
      exact not_congr (Block.isZero_iff _).symm

theorem has_ofBlock_iff (bytes : Block size) (flaw : ReportFlaw) :
    (ofBlock bytes).Has flaw ↔ flaw.IsIn bytes := by
  rw [← isIn_toBlock_iff, toBlock_ofBlock]

/-- What two reports share if validation cannot tell them apart. -/
structure LookAlike (left right : Block size) : Prop where
  version : left.slice 0 4 (by decide) = right.slice 0 4 (by decide)
  reservedPolicy : left.slice 12 4 (by decide) = right.slice 12 4 (by decide)
  policyFlags : ∀ bit, 10 ≤ bit → bit < 16 →
    (left.slice 10 2 (by decide)).toNat.testBit bit =
      (right.slice 10 2 (by decide)).toNat.testBit bit
  reservedKey : left.slice 76 4 (by decide) = right.slice 76 4 (by decide)
  signingKey : (left.slice 72 4 (by decide)).toNat / 4 % 8 =
    (right.slice 72 4 (by decide)).toNat / 4 % 8
  algorithm : left.slice 52 4 (by decide) = right.slice 52 4 (by decide)
  reservedSignature : left.slice (0x2A0 + 144) 368 (by decide) =
    right.slice (0x2A0 + 144) 368 (by decide)

theorem LookAlike.isIn_iff {left right : Block size} (hAlike : LookAlike left right)
    (flaw : ReportFlaw) : flaw.IsIn left ↔ flaw.IsIn right := by
  cases flaw with
  | outdatedVersion => rw [ReportFlaw.IsIn, ReportFlaw.IsIn, hAlike.version]
  | reservedPolicy => rw [ReportFlaw.IsIn, ReportFlaw.IsIn, hAlike.reservedPolicy]
  | unknownPolicyFlag =>
      refine exists_congr fun bit => and_congr_right fun hLow => and_congr_right fun hHigh => ?_
      rw [hAlike.policyFlags bit hLow hHigh]
  | reservedKey => rw [ReportFlaw.IsIn, ReportFlaw.IsIn, hAlike.reservedKey]
  | unknownSigningKey => rw [ReportFlaw.IsIn, ReportFlaw.IsIn, hAlike.signingKey]
  | unknownAlgorithm => rw [ReportFlaw.IsIn, ReportFlaw.IsIn, hAlike.algorithm]
  | reservedSignature => rw [ReportFlaw.IsIn, ReportFlaw.IsIn, hAlike.reservedSignature]

theorem validate_eq_ok_iff (bytes : Block size) :
    (ofBlock bytes).validate = .ok () ↔ ∀ flaw : ReportFlaw, ¬ flaw.IsIn bytes := by
  rw [validate_eq_firstOf, ReportFlaw.firstOf_eq_ok_iff]
  simp only [ReportFlaw.mem_inOrder, forall_true_left, has_ofBlock_iff]

/-- The flaws in front are those that are looked for earlier. -/
theorem validate_eq_error_iff (bytes : Block size) {front back : List ReportFlaw}
    {flaw : ReportFlaw} (hOrder : ReportFlaw.inOrder = front ++ flaw :: back) :
    (ofBlock bytes).validate = .error flaw ↔
      flaw.IsIn bytes ∧ ∀ earlier ∈ front, ¬ earlier.IsIn bytes := by
  have hNew : flaw ∉ front := by
    intro hFront
    have hNodup : (front ++ flaw :: back).Nodup := hOrder ▸ ReportFlaw.nodup_inOrder
    exact (List.nodup_append.mp hNodup).2.2 flaw hFront flaw List.mem_cons_self rfl
  rw [validate_eq_firstOf, hOrder, ReportFlaw.firstOf_eq_error_iff _ hNew]
  simp only [has_ofBlock_iff]

theorem validate_eq_error_iff_isFirstIn (bytes : Block size) (flaw : ReportFlaw) :
    (ofBlock bytes).validate = .error flaw ↔ flaw.IsFirstIn bytes := by
  constructor
  · intro hError
    obtain ⟨front, back, hOrder⟩ := List.append_of_mem (ReportFlaw.mem_inOrder flaw)
    exact ⟨front, back, hOrder, (validate_eq_error_iff bytes hOrder).mp hError⟩
  · rintro ⟨front, back, hOrder, hFirst⟩
    exact (validate_eq_error_iff bytes hOrder).mpr hFirst

/-- The texts of the verdicts.  The two reserved areas share one. -/
theorem validate_text_iff (bytes : Block size) (text : String) :
    (ofBlock bytes).validate.mapError ReportFlaw.message = .error text ↔
      (text = "outdated attestation report version - upgrade firmware" ∧
        ReportFlaw.outdatedVersion.IsFirstIn bytes) ∨
      (text = "nonzero value in _reserved" ∧
        (ReportFlaw.reservedPolicy.IsFirstIn bytes ∨
          ReportFlaw.reservedSignature.IsFirstIn bytes)) ∨
      (text = "invalid flags" ∧ ReportFlaw.unknownPolicyFlag.IsFirstIn bytes) ∨
      (text = "nonzero value in _reserved_4" ∧ ReportFlaw.reservedKey.IsFirstIn bytes) ∨
      (text = "invalid signing key setting" ∧ ReportFlaw.unknownSigningKey.IsFirstIn bytes) ∨
      (text = "invalid signature algorithm" ∧ ReportFlaw.unknownAlgorithm.IsFirstIn bytes) := by
  simp only [← validate_eq_error_iff_isFirstIn]
  rcases (ofBlock bytes).validate with flaw | _
  · cases flaw <;> simp [Except.mapError, ReportFlaw.message, eq_comm]
  · simp [Except.mapError]

theorem validate_of_lookAlike {left right : Block size} (hAlike : LookAlike left right) :
    (ofBlock left).validate = (ofBlock right).validate := by
  cases hRight : (ofBlock right).validate with
  | ok _ =>
      rw [validate_eq_ok_iff] at hRight ⊢
      intro flaw
      rw [hAlike.isIn_iff]
      exact hRight flaw
  | error flaw =>
      rw [validate_eq_error_iff_isFirstIn] at hRight ⊢
      simp only [ReportFlaw.IsFirstIn, hAlike.isIn_iff]
      exact hRight

theorem validate_embed (report : Report) (r s : Bytes) :
    validate { report with signature := (report.signature.embed r s).2 } = report.validate :=
  validate_congr rfl (report.signature.reserved_embed r s)

end Report

namespace SimulatedDevice

/-- With a prepared response that the firmware accepts, a call for a report fails and leaves the
response as it was, or writes a report with the verdict of the prepared one. -/
theorem ioctl_keeps_verdict (device : SimulatedDevice) {reportData : Block 64}
    {prepared : PreparedResponse} (hFound : device.registry.get? reportData = some prepared)
    (hWord : prepared.errorWord = .clear) {command : UInt64} {payload : Payload}
    (hAsks : AsksForReport command payload reportData) {n : Nat} (version : UInt8)
    (word : ErrorWord) (response : ResponseMessage) (buffer : Block n) :
    let reply := (ioctl command ⟨.guest ⟨version, payload, word⟩, response, buffer⟩ device).1
    ((∃ cause, reply.result = .error cause) ∧ reply.argument.response = response) ∨
      reply.argument.response.report.validate = prepared.response.report.validate := by
  intro reply
  cases hOpen : device.isOpen with
  | false =>
      refine .inl ?_
      simp only [reply, ioctl_closed hOpen]
      exact ⟨⟨_, rfl⟩, trivial⟩
  | true =>
      rcases serve_ways hFound with ⟨hRefused, -⟩ | ⟨-, cause, hServe⟩ | ⟨-, signed, hSign, -⟩
      · exact absurd hWord hRefused
      · refine .inl ?_
        cases hAsks with
        | plain report =>
            simp only [reply, ioctl_plain hOpen, hServe]
            exact ⟨⟨_, rfl⟩, trivial⟩
        | extended report certsLen hLen =>
            simp only [reply, ioctl_extended hOpen hLen, hServe]
            exact ⟨⟨_, rfl⟩, trivial⟩
      · obtain ⟨hResponse, -⟩ :=
          ioctl_of_signed hOpen hFound hWord hSign hAsks version word response buffer
        have hVerdict := prepared.response.report.validate_sign device.signer
        rw [hSign] at hVerdict
        exact .inr ((congrArg (fun left => left.report.validate) hResponse).trans hVerdict)

end SimulatedDevice

/-- The verdict on any 1184 bytes is the first of the seven flaws, in the order of the checks, that
the bytes show, with the text that belongs to it, and there is none exactly if they show no flaw.
So bytes that look alike to these checks get the same verdict.  Embedding components, whether they
fit or not, and signing, whether it goes well or not, keep the verdict.  So does the simulated
device, open or not, with any signer: what it leaves behind is the caller's old response after a
failure, or has the verdict of the prepared report; and a current report over any data validates
when it comes from the device. -/
theorem Report.validate_verdict :
    (∀ bytes : Block Report.size,
      let verdict := (Report.ofBlock bytes).validate
      (∀ front flaw back, ReportFlaw.inOrder = front ++ flaw :: back →
        (verdict = .error flaw ↔ flaw.IsIn bytes ∧ ∀ earlier ∈ front, ¬ earlier.IsIn bytes)) ∧
      (verdict = .ok () ↔ ∀ flaw : ReportFlaw, ¬ flaw.IsIn bytes) ∧
      (∀ text, verdict.mapError ReportFlaw.message = .error text ↔
        (text = "outdated attestation report version - upgrade firmware" ∧
          ReportFlaw.outdatedVersion.IsFirstIn bytes) ∨
        (text = "nonzero value in _reserved" ∧
          (ReportFlaw.reservedPolicy.IsFirstIn bytes ∨
            ReportFlaw.reservedSignature.IsFirstIn bytes)) ∨
        (text = "invalid flags" ∧ ReportFlaw.unknownPolicyFlag.IsFirstIn bytes) ∨
        (text = "nonzero value in _reserved_4" ∧ ReportFlaw.reservedKey.IsFirstIn bytes) ∨
        (text = "invalid signing key setting" ∧ ReportFlaw.unknownSigningKey.IsFirstIn bytes) ∨
        (text = "invalid signature algorithm" ∧ ReportFlaw.unknownAlgorithm.IsFirstIn bytes)) ∧
      ∀ other, Report.LookAlike bytes other → (Report.ofBlock other).validate = verdict) ∧
    (∀ (report : Report) (r s : Bytes),
      validate { report with signature := (report.signature.embed r s).2 } = report.validate) ∧
    (∀ (report : Report) (signer : Signer),
      (report.sign signer).2.validate = report.validate) ∧
    ∀ (device : SimulatedDevice) (reportData : Block 64) (prepared : PreparedResponse),
      device.registry.get? reportData = some prepared → prepared.errorWord = .clear →
      ∀ {n : Nat} (command : UInt64) (payload : Payload) (version : UInt8) (word : ErrorWord)
        (response : ResponseMessage) (buffer : Block n),
        AsksForReport command payload reportData →
        let reply := (SimulatedDevice.ioctl command
          ⟨.guest ⟨version, payload, word⟩, response, buffer⟩ device).1
        ((∃ exit, reply.result = .ok exit) ∨ reply.argument.response ≠ response →
          reply.argument.response.report.validate = prepared.response.report.validate) ∧
        ∀ data exit, prepared = .accepted data → reply.result = .ok exit →
          reply.argument.response.report.validate = .ok () := by
  refine ⟨fun bytes => ⟨fun front flaw back hOrder => validate_eq_error_iff bytes hOrder,
    validate_eq_ok_iff bytes, validate_text_iff bytes,
    fun other hAlike => (validate_of_lookAlike hAlike).symm⟩, validate_embed, validate_sign, ?_⟩
  intro device reportData prepared hFound hWord n command payload version word response buffer
    hAsks reply
  have hKept : (∃ exit, reply.result = .ok exit) ∨ reply.argument.response ≠ response →
      reply.argument.response.report.validate = prepared.response.report.validate := by
    intro hWritten
    rcases SimulatedDevice.ioctl_keeps_verdict device hFound hWord hAsks version word response
      buffer with ⟨⟨cause, hError⟩, hOld⟩ | hVerdict
    · rcases hWritten with ⟨exit, hOk⟩ | hNew
      · cases hError.symm.trans hOk
      · exact absurd hOld hNew
    · exact hVerdict
  refine ⟨hKept, ?_⟩
  rintro data exit rfl hOk
  exact (hKept (.inl ⟨exit, hOk⟩)).trans (validate_currentReport data)

/-- A device that signs with fixed components hands out a current report, and it validates. -/
theorem Report.validate_verdict_of_accepted :
    let data : Block 64 := .zero 64
    let prepared : PreparedResponse := .accepted data
    let device : SimulatedDevice :=
      { SimulatedDevice.new (.fixed ⟨[1], [2]⟩) with
        isOpen := true
        registry := (Registry.empty.insert data prepared).2 }
    let argument : Argument 0 := ⟨.guest ⟨1, .report (.new data 0), .clear⟩, .zero, .zero 0⟩
    let reply := (SimulatedDevice.ioctl Command.getReport argument device).1
    device.registry.get? data = some prepared ∧ reply.result = .ok .ok ∧
      reply.argument.response.report.validate = .ok () := by
  intro data prepared device argument reply
  have hFound : device.registry.get? data = some prepared := OrderedMap.get?_insert_self _ _ _
  obtain ⟨signed, hSign⟩ : ∃ signed, prepared.response.report.sign device.signer =
    (.ok (), signed) := ⟨_, rfl⟩
  have hReply : reply.result = .ok .ok := by
    have hServe := SimulatedDevice.serve_of_signed hFound rfl hSign .zero .clear
    have hPlain := @SimulatedDevice.ioctl_plain 0 device rfl 1 (.new data 0) .clear .zero (.zero 0)
    simp only [RequestMessage.new, hServe] at hPlain
    exact congrArg (fun outcome => outcome.1.result) hPlain
  obtain ⟨-, -, -, hCalls⟩ := validate_verdict
  obtain ⟨-, hValid⟩ := hCalls device data prepared hFound rfl (n := 0) Command.getReport _ 1 .clear
    .zero (.zero 0) (.plain (.new data 0))
  refine ⟨hFound, hReply, ?_⟩
  rw [← hValid data .ok rfl hReply]

end SnpGuest
