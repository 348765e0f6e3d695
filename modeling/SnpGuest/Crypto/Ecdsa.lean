import SnpGuest.Crypto.Hmac
import SnpGuest.Crypto.P384
import SnpGuest.Crypto.SignatureScheme

namespace SnpGuest

/-!
# ECDSA on P-384 with SHA-384

The nonce is drawn from the key and the message (RFC 6979), so signing is a function.  The second
component is left as it comes out: it may lie in the upper half of the range, and verification
accepts it there.
-/

namespace Ecdsa

open P384

/-- A residue modulo the group order. -/
abbrev Scalar := Fin order

/-- A private key: a scalar other than zero. -/
structure PrivateKey where
  scalar : Scalar
  ne_zero : scalar ≠ 0

/-- The key with a given scalar. -/
def privateKey? (value : Nat) : Option PrivateKey :=
  if h : value < order then
    let scalar : Scalar := ⟨value, h⟩
    if ne : scalar = 0 then none else some ⟨scalar, ne⟩
  else none

/-- The public key: the multiple of the generator by the private scalar. -/
def publicKey (key : PrivateKey) : Point :=
  (Triple.scale key.scalar .generator).toPoint

/-- The digest of a message as a scalar. -/
def hashed (message : Bytes) : Scalar :=
  Fin.ofNat order (BigEndian.decode (Sha384.digest message).toList)

/-- The state of the nonce generator: a key and a value. -/
structure Generator where
  key : Bytes
  value : Bytes

namespace Generator

/-- Replaces the key by the code of the value with `extra` behind it, then the value by its code
under the new key. -/
def stir (generator : Generator) (extra : Bytes) : Generator :=
  let key := (Hmac.sha384 generator.key (generator.value ++ extra)).toList
  ⟨key, (Hmac.sha384 key generator.value).toList⟩

/-- The generator for a private scalar and a hashed message. -/
def start (secret digest : Scalar) : Generator :=
  let material := BigEndian.encode 48 secret.val ++ BigEndian.encode 48 digest.val
  let fresh : Generator := ⟨List.replicate 48 0, List.replicate 48 1⟩
  (fresh.stir (0 :: material)).stir (1 :: material)

/-- The first drawn number that is a scalar other than zero, among at most `tries` draws. -/
def draw : Nat → Generator → Option Scalar
  | 0, _ => none
  | tries + 1, generator =>
    let value := (Hmac.sha384 generator.key generator.value).toList
    match privateKey? (BigEndian.decode value) with
    | some candidate => some candidate.scalar
    | none => draw tries (Generator.stir ⟨generator.key, value⟩ [0])

end Generator

/-- Draws of a nonce before signing gives up.  One draw misses with a chance below `2 ^ -190`. -/
def maxDraws : Nat := 64

def sign (key : PrivateKey) (message : Bytes) : Option (Nat × Nat) := do
  let digest := hashed message
  let nonce ← Generator.draw maxDraws (Generator.start key.scalar digest)
  let r : Scalar := Fin.ofNat order (Triple.scale nonce .generator).toPoint.x.val
  let s : Scalar := inverse nonce * (digest + r * key.scalar)
  guard (r ≠ 0 ∧ s ≠ 0)
  return (r.val, s.val)

/-- Whether two components belong to a message under a public key. -/
def verify (key : Point) (message : Bytes) (r s : Nat) : Bool :=
  let scalarR : Scalar := Fin.ofNat order r
  let inverted := inverse (Fin.ofNat order s : Scalar)
  let sum := (Triple.scale (hashed message * inverted) .generator).add
    (Triple.scale (scalarR * inverted) key)
  !sum.isInfinity && sum.toPoint.x.val % order == r

abbrev p384 : SignatureScheme where
  PrivateKey := PrivateKey
  PublicKey := Point
  order := order
  privateKey? := privateKey?
  publicKey := publicKey
  encodeKey := Point.encode
  sign := sign
  verify := verify

end Ecdsa

end SnpGuest
