import SnpGuest.Crypto.Sha384

namespace SnpGuest

/-!
# Keyed hashing and key derivation

HMAC over SHA-384 (RFC 2104) and the extract-and-expand derivation on top of it (RFC 5869) for an
output of one digest.
-/

namespace Hmac

/-- The key as one block of the hash: a longer one is hashed first, a shorter one zero-padded. -/
def blockKey (key : Bytes) : Bytes :=
  Bytes.resize 128 (if key.length ≤ 128 then key else (Sha384.digest key).toList)

/-- The authentication code of a message under a key. -/
def sha384 (key message : Bytes) : Block 48 :=
  let block := blockKey key
  let inner := Sha384.digest (block.map (· ^^^ 0x36) ++ message)
  Sha384.digest (block.map (· ^^^ 0x5c) ++ inner.toList)

end Hmac

namespace Hkdf

/-- Derives 48 bytes from a salt, key material and a purpose. -/
def derive (salt material purpose : Bytes) : Block 48 :=
  let extracted := Hmac.sha384 salt material
  Hmac.sha384 extracted.toList (purpose ++ [1])

end Hkdf

end SnpGuest
