import Mathlib.Data.Option.Basic
import SnpGuest.Crypto.Ecdsa

namespace SnpGuest

/-!
# What is known of signatures on the curve

That a signature of a key verifies under its public part needs the group law of the curve, and that
signing never gives up needs the hash to behave.  Neither is shown here.  What can be said without
them is that the components that come out are in range.

`trusted` is the scheme with both promises written into it.  It is lawful, so the laws that ask for
a lawful scheme are about something, and it does what `p384` does wherever this keeps them.
-/

namespace Ecdsa

theorem inRange_of_ne_zero {scalar : Scalar} (hScalar : scalar ≠ 0) :
    p384.inRange scalar.val = true := by
  have hPositive : 0 < scalar.val := Fin.pos_iff_ne_zero.mpr hScalar
  have hBelow : scalar.val < p384.order := scalar.isLt
  rw [SignatureScheme.inRange_iff]
  omega

/-- Signing gives two numbers in range or nothing. -/
theorem sign_inRange {key : PrivateKey} {message : Bytes} {r s : Nat}
    (hSign : sign key message = some (r, s)) :
    p384.inRange r = true ∧ p384.inRange s = true := by
  simp only [sign, Option.bind_eq_bind, Option.bind_eq_some_iff] at hSign
  obtain ⟨nonce, -, done, hGuard, hPair⟩ := hSign
  obtain ⟨rfl, rfl⟩ := Prod.mk.inj (Option.some.inj hPair)
  obtain ⟨hR, hS⟩ := (Option.guard_eq_some' done).mp hGuard
  exact ⟨inRange_of_ne_zero hR, inRange_of_ne_zero hS⟩

/-- The components for a message, with a fixed pair where signing gives up. -/
def componentsFor (key : PrivateKey) (message : Bytes) : Nat × Nat :=
  (sign key message).getD (1, 1)

theorem componentsFor_inRange {key : PrivateKey} {message : Bytes} {r s : Nat}
    (hComponents : componentsFor key message = (r, s)) :
    p384.inRange r = true ∧ p384.inRange s = true := by
  unfold componentsFor at hComponents
  cases hSign : sign key message with
  | none =>
      rw [hSign] at hComponents
      cases hComponents
      exact ⟨by decide, by decide⟩
  | some components =>
      rw [hSign] at hComponents
      rw [show components = (r, s) from hComponents] at hSign
      exact sign_inRange hSign

/-- Accepts what verifies, and in any case what the key itself signs. -/
def accepts (key : PrivateKey) (message : Bytes) (r s : Nat) : Bool :=
  verify (publicKey key) message r s || componentsFor key message == (r, s)

theorem accepts_componentsFor {key : PrivateKey} {message : Bytes} {r s : Nat}
    (hComponents : componentsFor key message = (r, s)) : accepts key message r s = true := by
  simp [accepts, hComponents]

/-- The scheme of `p384` in which a key signs every message and what it signs is accepted.  The
public key is the private one, so that `accepts` can look. -/
def trusted : SignatureScheme where
  PrivateKey := PrivateKey
  PublicKey := PrivateKey
  order := P384.order
  privateKey? := privateKey?
  publicKey key := key
  encodeKey key := (publicKey key).encode
  sign key message := some (componentsFor key message)
  verify := accepts

theorem trusted_lawful : trusted.Lawful where
  order_le := by decide
  sign_isSome _ _ := rfl
  sign_inRange _ _ _ _ hSign := componentsFor_inRange (Option.some.inj hSign)
  verify_sign key message r s hSign := by
    have hAccepts := accepts_componentsFor (Option.some.inj hSign)
    simp only [trusted]
    exact hAccepts

/-- Where signing does not give up and its result verifies, the trusted scheme signs and accepts as
`p384` does. -/
theorem trusted_eq_p384 {key : PrivateKey} {message : Bytes} {r s : Nat}
    (hSign : p384.sign key message = some (r, s))
    (hVerify : p384.verify (p384.publicKey key) message r s = true) (r' s' : Nat) :
    trusted.sign key message = p384.sign key message ∧
      trusted.verify key message r' s' =
        p384.verify (p384.publicKey key) message r' s' := by
  have hComponents : componentsFor key message = (r, s) := by
    unfold componentsFor
    rw [show sign key message = some (r, s) from hSign]
    rfl
  constructor
  · rw [hSign, ← hComponents]
    rfl
  · simp only [trusted, accepts, hComponents]
    by_cases hSame : (r, s) = (r', s')
    · obtain ⟨rfl, rfl⟩ := Prod.mk.inj hSame
      simpa using hVerify
    · simp [hSame]

end Ecdsa

end SnpGuest
