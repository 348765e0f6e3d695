import SnpGuest.Report.Basic

namespace SnpGuest

/-!
# Validation of reports

The checks on values that the format fixes, in the order in which they are made; the first that
fails gives the verdict.  Not every reserved field is looked at: of the reserved fields of the body
only the one behind the key word and the one in the policy are.
-/

inductive ReportFlaw where
  | outdatedVersion
  | reservedPolicy
  | unknownPolicyFlag
  | reservedKey
  | unknownSigningKey
  | unknownAlgorithm
  | reservedSignature
deriving DecidableEq

def ReportFlaw.message : ReportFlaw → String
  | .outdatedVersion => "outdated attestation report version - upgrade firmware"
  | .reservedPolicy => "nonzero value in _reserved"
  | .unknownPolicyFlag => "invalid flags"
  | .reservedKey => "nonzero value in _reserved_4"
  | .unknownSigningKey => "invalid signing key setting"
  | .unknownAlgorithm => "invalid signature algorithm"
  | .reservedSignature => "nonzero value in _reserved"

/-- Refuses a nonzero reserved word, then unknown flags. -/
def GuestPolicy.validate (policy : GuestPolicy) : Except ReportFlaw Unit :=
  if policy.reserved ≠ 0 then .error .reservedPolicy
  else if policy.flags?.isNone then .error .unknownPolicyFlag
  else .ok ()

/-- Refuses a nonzero reserved rest. -/
def SignatureArea.validate (signature : SignatureArea) : Except ReportFlaw Unit :=
  if signature.reserved.isZero then .ok () else .error .reservedSignature

namespace Report

/-- Checks the fields that the signature covers. -/
def validateBody (report : Report) : Except ReportFlaw Unit :=
  -- Version zero passes: it marks a report that promises no security.
  if report.body.version = 1 ∨ report.body.version = 2 then .error .outdatedVersion
  else
    match report.body.policy.validate with
    | .error flaw => .error flaw
    | .ok () =>
      if report.body.reservedKey ≠ 0 then .error .reservedKey
      else if report.signingKey?.isNone then .error .unknownSigningKey
      else if report.signingAlgorithm?.isNone then .error .unknownAlgorithm
      else .ok ()

/-- Checks the body and then the form of the signature. -/
def validate (report : Report) : Except ReportFlaw Unit :=
  match report.validateBody with
  | .error flaw => .error flaw
  | .ok () => report.signature.validate

end Report

end SnpGuest
