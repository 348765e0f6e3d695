import SnpGuest.Bytes.BigEndian

namespace SnpGuest

/-!
# Embedded signature

The signature area of a report: two components, each a number of 72 bytes with its low byte first,
and a reserved rest.  Components come and go as big-endian numbers.  `SignatureArea.embed` takes
numbers of any length whose value fits; `SignatureArea.scalars` gives them back as the 48-byte
scalars of P-384.
-/

/-- Why a component cannot be stored or read. -/
inductive ComponentError where
  | doesNotFit
  | longerThanScalar
deriving DecidableEq

def ComponentError.message : ComponentError → String
  | .doesNotFit => "signature component does not fit in the signature field"
  | .longerThanScalar => "signature component is longer than a P-384 scalar"

/-- The signature area of a report. -/
structure SignatureArea where
  r : Block 72
  s : Block 72
  reserved : Block 368
deriving DecidableEq

namespace SignatureArea

/-- The field for a big-endian number: its bytes after the leading zeros, low byte first, with
zeros behind them. -/
def field (component : Bytes) : Except ComponentError (Block 72) :=
  let significant := BigEndian.significant component
  if significant.length ≤ 72 then .ok (Block.padded 72 significant.reverse)
  else .error .doesNotFit

/-- Stores two big-endian numbers. -/
def embed (signature : SignatureArea) (r s : Bytes) :
    Except ComponentError Unit × SignatureArea :=
  match field r with
  | .error cause => (.error cause, signature)
  | .ok rField =>
    -- The first component is stored before the second is looked at, so it stays in either case.
    let signature := { signature with r := rField }
    match field s with
    | .error cause => (.error cause, signature)
    | .ok sField => (.ok (), { signature with s := sField })

/-- The 48-byte big-endian scalar of a field whose upper 24 bytes are zero. -/
def scalar (component : Block 72) : Except ComponentError (Block 48) :=
  if (component.slice 48 24 (by decide)).isZero then
    .ok (component.slice 0 48 (by decide)).reverse
  else .error .longerThanScalar

/-- Both components as 48-byte big-endian scalars. -/
def scalars (signature : SignatureArea) : Except ComponentError (Block 48 × Block 48) := do
  let r ← scalar signature.r
  let s ← scalar signature.s
  return (r, s)

end SignatureArea

end SnpGuest
