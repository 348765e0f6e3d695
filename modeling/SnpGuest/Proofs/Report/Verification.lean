import SnpGuest.Proofs.Report.Embedding
import SnpGuest.Proofs.Report.Fields
import SnpGuest.Report.Signing

namespace SnpGuest

/-!
# What the verification of a report looks at

Verification reads the components as numbers and puts three questions to them in turn: whether a
scalar has room for both, whether both are in range, and whether they belong to the signed bytes.
`verify_eq` says so of a report, and the rest puts it in terms of its bytes.  The bytes behind the
second component never come up.

The scheme may be any scheme, and nothing is asked of it: what it accepts is left to it.
-/

/-- A scalar has no room for a component with a byte other than zero above the lower 48. -/
theorem SignatureArea.bound_le_toNat_iff (stored : Block 72) :
    LittleEndian.bound 48 ≤ stored.toNat ↔ ∃ byte ∈ stored.toList.drop 48, byte ≠ 0 := by
  have hUpper : (stored.slice 48 24 (by decide)).toList = stored.toList.drop 48 :=
    List.take_of_length_le (by simp)
  rw [← Nat.not_lt, ← isZero_upper_iff, Block.isZero, hUpper, Bytes.isZero, List.all_eq_true]
  simp

namespace Report

variable (scheme : SignatureScheme) (key : scheme.PublicKey)

/-! ## The three questions -/

theorem verify_eq (report : Report) :
    let r := report.signature.r.toNat
    let s := report.signature.s.toNat
    report.verify scheme key =
      if LittleEndian.bound 48 ≤ r ∨ LittleEndian.bound 48 ≤ s then
        .error (.component .longerThanScalar)
      else if (r = 0 ∨ scheme.order ≤ r) ∨ (s = 0 ∨ scheme.order ≤ s) then
        .error .outOfRange
      else if scheme.verify key report.signedBytes.toList r s then .ok ()
      else .error .mismatch := by
  intro r s
  by_cases hLong : LittleEndian.bound 48 ≤ r ∨ LittleEndian.bound 48 ≤ s
  · rw [if_pos hLong, verify, SignatureArea.scalars_of_large hLong]
  rw [if_neg hLong]
  obtain ⟨hSmallR, hSmallS⟩ := not_or.mp hLong
  obtain ⟨scalarR, hR, -⟩ := SignatureArea.exists_scalar (Nat.lt_of_not_le hSmallR)
  obtain ⟨scalarS, hS, -⟩ := SignatureArea.exists_scalar (Nat.lt_of_not_le hSmallS)
  have hScalars := (SignatureArea.scalars_eq_ok_iff report.signature _ _).mpr ⟨hR, hS⟩
  -- The scalars are the same numbers, only with their bytes in the other order.
  have hValueR := (SignatureArea.scalar_eq_ok_iff _ _).mp hR
  have hValueS := (SignatureArea.scalar_eq_ok_iff _ _).mp hS
  -- The program asks whether both are in range; its answer is no when one of them is not.
  have hRange : (!(scheme.inRange r && scheme.inRange s)) = true ↔
      (r = 0 ∨ scheme.order ≤ r) ∨ (s = 0 ∨ scheme.order ≤ s) := by
    rw [Bool.not_eq_true', ← Bool.not_eq_true, Bool.and_eq_true, scheme.inRange_iff,
      scheme.inRange_iff]
    tauto
  rw [verify, hScalars]
  simp only [hValueR, hValueS]
  exact if_congr hRange rfl rfl

/-- The messages tell which of the questions was answered badly. -/
theorem message_iff {long barred : Prop} [Decidable long] [Decidable barred] {accepted : Bool}
    {verdict : Except VerificationError Unit}
    (hVerdict : verdict =
      if long then .error (.component .longerThanScalar)
      else if barred then .error .outOfRange
      else if accepted then .ok ()
      else .error .mismatch) :
    let answer := verdict.mapError VerificationError.message
    (answer = .error "signature component is longer than a P-384 scalar" ↔ long) ∧
    (answer = .error "could not extract ECDSA P-384 signature" ↔ ¬ long ∧ barred) ∧
    (answer = .error "failed to verify ECDSA P-384 signature" ↔
      ¬ long ∧ ¬ barred ∧ accepted = false) ∧
    (answer = .ok () ↔ ¬ long ∧ ¬ barred ∧ accepted = true) := by
  rw [hVerdict]
  by_cases hLong : long
  · simp [hLong, Except.mapError, VerificationError.message, ComponentError.message]
  by_cases hBarred : barred
  · simp [hLong, hBarred, Except.mapError, VerificationError.message]
  cases accepted <;> simp [hLong, hBarred, Except.mapError, VerificationError.message]

/-- Two reports with the same signed bytes and components are verified alike. -/
theorem verify_congr {left right : Report} (hSigned : left.signedBytes = right.signedBytes)
    (hR : left.signature.r = right.signature.r) (hS : left.signature.s = right.signature.s) :
    left.verify scheme key = right.verify scheme key := by
  rw [verify_eq, verify_eq, hSigned, hR, hS]

/-! ## The bytes of a report -/

theorem signature_r_ofBlock (bytes : Block size) :
    (ofBlock bytes).signature.r = bytes.slice 0x2A0 72 (by decide) :=
  get_ofBlock bytes .signatureR

theorem signature_s_ofBlock (bytes : Block size) :
    (ofBlock bytes).signature.s = bytes.slice (0x2A0 + 72) 72 (by decide) :=
  get_ofBlock bytes .signatureS

theorem toList_signedBytes_ofBlock (bytes : Block size) :
    (ofBlock bytes).signedBytes.toList = bytes.toList.take 0x2A0 := by
  rw [toList_signedBytes, toBlock_ofBlock]

theorem verify_ofBlock_congr {left right : Block size}
    (hFront : left.toList.take (0x2A0 + 144) = right.toList.take (0x2A0 + 144)) :
    (ofBlock left).verify scheme key = (ofBlock right).verify scheme key := by
  apply verify_congr
  · apply Block.ext
    rw [toList_signedBytes_ofBlock, toList_signedBytes_ofBlock]
    have hSigned := congrArg (List.take 0x2A0) hFront
    rwa [List.take_take, List.take_take, Nat.min_eq_left (by decide)] at hSigned
  · rw [signature_r_ofBlock, signature_r_ofBlock]
    exact Block.slice_congr hFront (by decide) _
  · rw [signature_s_ofBlock, signature_s_ofBlock]
    exact Block.slice_congr hFront (by decide) _

/-- What verification answers for the bytes of a report, under any key of any scheme.  A component
with a byte other than zero above its lower 48 is too long.  Otherwise a component that is zero or
not below the order is refused.  Otherwise the scheme decides on the two numbers and the bytes in
front of them, also when the second number is a high one.  So the answer is the same for all reports
that agree on the signed bytes and the two components, and a component of zeros is never
accepted. -/
theorem verify_outcome (bytes : Block size) :
    let r := bytes.slice 0x2A0 72 (by decide)
    let s := bytes.slice (0x2A0 + 72) 72 (by decide)
    let long := (∃ byte ∈ r.toList.drop 48, byte ≠ 0) ∨ (∃ byte ∈ s.toList.drop 48, byte ≠ 0)
    let barred := (r.toNat = 0 ∨ scheme.order ≤ r.toNat) ∨ (s.toNat = 0 ∨ scheme.order ≤ s.toNat)
    let accepted := scheme.verify key (bytes.toList.take 0x2A0) r.toNat s.toNat
    let answer := ((ofBlock bytes).verify scheme key).mapError VerificationError.message
    (answer = .error "signature component is longer than a P-384 scalar" ↔ long) ∧
    (answer = .error "could not extract ECDSA P-384 signature" ↔ ¬ long ∧ barred) ∧
    (answer = .error "failed to verify ECDSA P-384 signature" ↔
      ¬ long ∧ ¬ barred ∧ accepted = false) ∧
    (answer = .ok () ↔ ¬ long ∧ ¬ barred ∧ accepted = true) ∧
    (∀ other : Block size, other.toList.take (0x2A0 + 144) = bytes.toList.take (0x2A0 + 144) →
      ((ofBlock other).verify scheme key).mapError VerificationError.message = answer) ∧
    (r = .zero 72 ∨ s = .zero 72 → answer ≠ .ok ()) := by
  intro r s long barred accepted answer
  have hVerify := verify_eq scheme key (ofBlock bytes)
  simp only [signature_r_ofBlock, signature_s_ofBlock, toList_signedBytes_ofBlock,
    SignatureArea.bound_le_toNat_iff] at hVerify
  obtain ⟨hTooLong, hOutOfRange, hMismatch, hOk⟩ := message_iff hVerify
  refine ⟨hTooLong, hOutOfRange, hMismatch, hOk, fun other hFront => ?_, fun hZero hAccepted => ?_⟩
  · rw [verify_ofBlock_congr scheme key hFront]
  · obtain ⟨-, hInRange, -⟩ := hOk.mp hAccepted
    rcases hZero with hZero | hZero
    · exact hInRange (.inl (.inl ((congrArg Block.toNat hZero).trans (Block.toNat_zero 72))))
    · exact hInRange (.inr (.inl ((congrArg Block.toNat hZero).trans (Block.toNat_zero 72))))

end Report

end SnpGuest
