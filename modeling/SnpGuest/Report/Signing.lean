import SnpGuest.Crypto.Hmac
import SnpGuest.Crypto.SignatureScheme
import SnpGuest.Report.Layout
import SnpGuest.Text.Utf8

namespace SnpGuest

/-!
# Signing reports

A signer takes the signed bytes of a report and gives two components, big-endian numbers of any
length, or fails with a chain of messages.  Signing a report embeds what the signer gives.  It is
written for any way of asking a signer: as a function of the message, or with a record of what the
signer was asked.  The signature in a report is checked against a public key of any signature
scheme.
-/

/-- The components of a signature as big-endian numbers. -/
structure SignatureComponents where
  r : Bytes
  s : Bytes
deriving DecidableEq

/-- What signs reports.  A failure is a chain of messages, the outermost first. -/
structure Signer where
  sign : Bytes → Except (List String) SignatureComponents

namespace Signer

/-- The signer that always fails. -/
def failing (causes : List String) : Signer where
  sign _ := .error causes

/-- The signer that always gives the same components. -/
def fixed (components : SignatureComponents) : Signer where
  sign _ := .ok components

/-- The signer with a private key of a scheme. -/
def ofKey (scheme : SignatureScheme) (key : scheme.PrivateKey) : Signer where
  sign message :=
    match scheme.sign key message with
    | some (r, s) => .ok ⟨BigEndian.encode 48 r, BigEndian.encode 48 s⟩
    | none => .error ["ECDSA P-384 signing failed", "signature error"]

/-- Asks the signer, and adds the message to those that it was asked for before. -/
def ask (signer : Signer) (message : Bytes) :
    StateM (List Bytes) (Except (List String) SignatureComponents) := fun asked =>
  (signer.sign message, asked ++ [message])

/-- Mixed into every seed when a key is derived from it. -/
def seedSalt : String := "OAK_SEV_GUEST_TESTING_SALT"

/-- The scalar that a seed yields. -/
def seedScalar (seed : Bytes) : Block 48 :=
  Hkdf.derive (utf8 seedSalt) seed (utf8 "VCEK")

/-- The private key that a seed yields: the same key in every run. -/
def keyOfSeed? (scheme : SignatureScheme) (seed : Bytes) : Option scheme.PrivateKey :=
  scheme.privateKey? (BigEndian.decode (seedScalar seed).toList)

end Signer

/-- Why a report could not be signed. -/
inductive SigningError where
  | signer (causes : List String)
  | embedding (cause : ComponentError)
deriving DecidableEq

/-- Why a signature was not accepted. -/
inductive VerificationError where
  | component (cause : ComponentError)
  | outOfRange
  | mismatch
deriving DecidableEq

def VerificationError.message : VerificationError → String
  | .component cause => cause.message
  | .outOfRange => "could not extract ECDSA P-384 signature"
  | .mismatch => "failed to verify ECDSA P-384 signature"

namespace Report

/-- What comes of a signer's answer: the components are embedded, or there are none.  A failure can
leave the first component behind. -/
def withAnswer (report : Report) :
    Except (List String) SignatureComponents → Except SigningError Unit × Report
  | .error causes => (.error (.signer causes), report)
  | .ok components =>
    let (result, signature) := report.signature.embed components.r components.s
    (result.mapError .embedding, { report with signature := signature })

/-- Signs a report: asks for its signed bytes, once, and takes the answer. -/
def signWith {m : Type → Type} [Monad m] (report : Report)
    (ask : Bytes → m (Except (List String) SignatureComponents)) :
    m (Except SigningError Unit × Report) := do
  let answer ← ask report.signedBytes.toList
  return report.withAnswer answer

/-- Signs a report with a signer of which nothing counts but its answers. -/
def sign (report : Report) (signer : Signer) : Except SigningError Unit × Report :=
  (report.signWith (m := Id) signer.sign).run

theorem sign_eq (report : Report) (signer : Signer) :
    report.sign signer = report.withAnswer (signer.sign report.signedBytes.toList) :=
  rfl

/-- With a record of what the signer is asked, a report is signed as without one, and its signed
bytes are added to the record. -/
theorem signWith_ask (report : Report) (signer : Signer) (asked : List Bytes) :
    report.signWith signer.ask asked =
      (report.sign signer, asked ++ [report.signedBytes.toList]) :=
  rfl

/-- Checks the signature in a report: its form, the range of its components, and then whether it
belongs to the signed bytes. -/
def verify (scheme : SignatureScheme) (key : scheme.PublicKey) (report : Report) :
    Except VerificationError Unit :=
  match report.signature.scalars with
  | .error cause => .error (.component cause)
  | .ok (r, s) =>
    let r := BigEndian.decode r.toList
    let s := BigEndian.decode s.toList
    if !(scheme.inRange r && scheme.inRange s) then .error .outOfRange
    else if scheme.verify key report.signedBytes.toList r s then .ok ()
    else .error .mismatch

end Report

end SnpGuest
