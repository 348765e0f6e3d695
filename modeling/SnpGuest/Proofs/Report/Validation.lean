import SnpGuest.Report.Signing
import SnpGuest.Report.Validation
import SnpGuest.Simulator.Registry

namespace SnpGuest

/-!
# Validation and signing

Signing writes the two components and nothing else, and no check looks at these.  So a report gets
the same verdict before and after it is signed, whether signing goes well or not.
-/

theorem Block.isZero_zero (n : Nat) : (zero n).isZero = true := by
  simp [isZero, Bytes.isZero]

/-- The reserved bytes stay, also when a component does not fit. -/
theorem SignatureArea.reserved_embed (signature : SignatureArea) (r s : Bytes) :
    (signature.embed r s).2.reserved = signature.reserved := by
  unfold embed
  split
  · rfl
  · split <;> rfl

namespace Report

theorem sign_body (report : Report) (signer : Signer) :
    (report.sign signer).2.body = report.body := by
  rw [sign_eq]
  cases signer.sign report.signedBytes.toList <;> rfl

theorem sign_reserved (report : Report) (signer : Signer) :
    (report.sign signer).2.signature.reserved = report.signature.reserved := by
  rw [sign_eq]
  cases signer.sign report.signedBytes.toList with
  | error causes => rfl
  | ok components => exact report.signature.reserved_embed _ _

/-- The verdict hangs on the body and the reserved bytes of the signature. -/
theorem validate_congr {left right : Report} (hBody : left.body = right.body)
    (hReserved : left.signature.reserved = right.signature.reserved) :
    left.validate = right.validate := by
  obtain ⟨body, signature⟩ := left
  cases hBody
  have hFront : validateBody ⟨right.body, signature⟩ = right.validateBody := rfl
  have hRest : signature.validate = right.signature.validate := by
    rw [SignatureArea.validate, SignatureArea.validate, hReserved]
  simp only [validate, hFront, hRest]

theorem validate_sign (report : Report) (signer : Signer) :
    (report.sign signer).2.validate = report.validate :=
  validate_congr (report.sign_body signer) (report.sign_reserved signer)

theorem validate_currentReport (reportData : Block 64) :
    (PreparedResponse.currentReport reportData).validate = .ok () := by
  have hVersion : ¬ (currentVersion = 1 ∨ currentVersion = 2) := by decide
  have hReserved : ¬ (0 : UInt32) ≠ 0 := by decide
  have hZero : (PreparedResponse.currentReport (.zero 64)).signingKey? = some .vcek := by decide
  -- The key word does not hang on the report data.
  have hKey : (PreparedResponse.currentReport reportData).signingKey? = some .vcek := hZero
  have hBody : (PreparedResponse.currentReport reportData).validateBody = .ok () := by
    rw [validateBody, hKey]
    exact (if_neg hVersion).trans (if_neg hReserved)
  have hSignature : (PreparedResponse.currentReport reportData).signature.validate = .ok () :=
    if_pos (Block.isZero_zero 368)
  rw [validate, hBody, hSignature]

end Report

end SnpGuest
