import SnpGuest.Bytes.BigEndian

namespace SnpGuest

/-!
# Signature schemes

What the rest of the library needs of the signature algorithm: key pairs, and signatures that are
two numbers below a group order.  Everything above this level is written for any scheme, so its
laws do not hang on the arithmetic of one curve.  `SignatureScheme.Lawful` says what a correct
scheme does.
-/

/-- Signatures made of two numbers, as ECDSA makes them. -/
structure SignatureScheme where
  PrivateKey : Type
  PublicKey : Type
  /-- A component of a signature lies strictly between zero and this number. -/
  order : Nat
  /-- The key with a given scalar, if the scalar is in range. -/
  privateKey? : Nat → Option PrivateKey
  publicKey : PrivateKey → PublicKey
  /-- The public form in which the key is handed out. -/
  encodeKey : PublicKey → Bytes
  /-- The components for a message, both the same for the same key and message. -/
  sign : PrivateKey → Bytes → Option (Nat × Nat)
  /-- Whether two components in range belong to a message. -/
  verify : PublicKey → Bytes → Nat → Nat → Bool

namespace SignatureScheme

variable (scheme : SignatureScheme)

/-- Whether a number may stand in a signature. -/
def inRange (component : Nat) : Bool :=
  0 < component && component < scheme.order

theorem inRange_iff (component : Nat) :
    scheme.inRange component = true ↔ ¬ (component = 0 ∨ scheme.order ≤ component) := by
  simp only [inRange, Bool.and_eq_true, decide_eq_true_eq]
  omega

/-- What a correct scheme does: components are numbers of 48 bytes, and a signature that a key
makes is in range and verifies under the key's public part. -/
structure Lawful : Prop where
  order_le : scheme.order ≤ LittleEndian.bound 48
  sign_isSome : ∀ key message, (scheme.sign key message).isSome
  sign_inRange : ∀ key message r s, scheme.sign key message = some (r, s) →
    scheme.inRange r ∧ scheme.inRange s
  verify_sign : ∀ key message r s, scheme.sign key message = some (r, s) →
    scheme.verify (scheme.publicKey key) message r s

end SignatureScheme

end SnpGuest
