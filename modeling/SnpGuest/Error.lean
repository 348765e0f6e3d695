import SnpGuest.Certificate.Table
import SnpGuest.Message.Status
import SnpGuest.Report.Signature

namespace SnpGuest

/-!
# Errors

Everything that can go wrong between a caller and a guest device, as causes.  `Error.message` holds
the wording of each.
-/

/-- What a request handed to a device, or left by one, should not be. -/
inductive RequestProblem where
  /-- An argument that is no guest request at all. -/
  | raw (length : Nat)
  /-- A payload that the command does not take. -/
  | payload (command : UInt64) (isExtended : Bool)
  /-- A device put another request in the place of an extended one. -/
  | replaced
  /-- A problem that only the device knows. -/
  | described (text : String)
deriving DecidableEq

namespace RequestProblem

def payloadLabel (isExtended : Bool) : String :=
  if isExtended then "snp_ext_report_req" else "snp_report_req"

def message : RequestProblem → String
  | raw length => toString length ++ " byte argument is not a guest request"
  | payload command isExtended =>
    "command 0x" ++ Hex.number command.toNat ++ " does not accept payload " ++
      payloadLabel isExtended
  | replaced => "device replaced the extended report request"
  | described text => text

end RequestProblem

/-- Why a device, a client or a fetch failed. -/
inductive Error where
  | alreadyOpen
  | alreadyClosed
  | notOpen
  | noResponse (reportData : Block 64)
  /-- The signer failed; its messages, the outermost first. -/
  | sign (causes : List String)
  | setSignature (cause : ComponentError)
  | certificatesTooLarge (length : Nat)
  | bufferTooSmall (actual required : Nat)
  | invalidCommand (command : UInt64)
  | unexpectedRequest (problem : RequestProblem)
  | notFound (url : String)
  | lowerLayer (result : ExitResult)
  | firmware (word : ErrorWord)
  | certificateTable (cause : TableError)
deriving DecidableEq

namespace Error

def message : Error → String
  | alreadyOpen => "device already open"
  | alreadyClosed => "device already closed"
  | notOpen => "device is not open"
  | noResponse reportData =>
    "test error: no response for report data " ++ Hex.encode reportData.toList
  | sign causes => "test error: could not sign report: " ++ ": ".intercalate causes
  | setSignature cause => "test error: could not set signature: " ++ cause.message
  | certificatesTooLarge length =>
    "test error: certificate chain of " ++ toString length ++
      " bytes exceeds the 4 GiB length field"
  | bufferTooSmall actual required =>
    "test failure: cert buffer too small: " ++ toString actual ++ " < " ++ toString required
  | invalidCommand command => "invalid command 0x" ++ Hex.number command.toNat
  | unexpectedRequest problem => "unexpected request: " ++ problem.message
  | notFound url => "404: " ++ url
  | lowerLayer result => "guest request failed at the hypervisor layer: " ++ result.name
  | firmware word => "guest request rejected: " ++ word.message
  | certificateTable cause => "malformed certificate table: " ++ cause.message

end Error

end SnpGuest
