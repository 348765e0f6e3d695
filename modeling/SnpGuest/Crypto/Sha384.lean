import SnpGuest.Bytes.BigEndian

namespace SnpGuest

/-!
# SHA-384

The hash of FIPS 180-4 over byte strings: the SHA-512 compression with its own initial state, cut
to the first six words.  A message is padded to whole blocks of 128 bytes, and each block is mixed
into the state by eighty rounds.
-/

namespace Sha384

structure State where
  a : UInt64
  b : UInt64
  c : UInt64
  d : UInt64
  e : UInt64
  f : UInt64
  g : UInt64
  h : UInt64

/-- The initial state: fractional parts of the square roots of the ninth to sixteenth primes. -/
def initial : State where
  a := 0xcbbb9d5dc1059ed8
  b := 0x629a292a367cd507
  c := 0x9159015a3070dd17
  d := 0x152fecd8f70e5939
  e := 0x67332667ffc00b31
  f := 0x8eb44a8768581511
  g := 0xdb0c2e0d64f98fa7
  h := 0x47b5481dbefa4fa4

/-- The round constants: fractional parts of the cube roots of the first eighty primes. -/
def constants : List UInt64 :=
  [0x428a2f98d728ae22, 0x7137449123ef65cd, 0xb5c0fbcfec4d3b2f, 0xe9b5dba58189dbbc,
  0x3956c25bf348b538, 0x59f111f1b605d019, 0x923f82a4af194f9b, 0xab1c5ed5da6d8118,
  0xd807aa98a3030242, 0x12835b0145706fbe, 0x243185be4ee4b28c, 0x550c7dc3d5ffb4e2,
  0x72be5d74f27b896f, 0x80deb1fe3b1696b1, 0x9bdc06a725c71235, 0xc19bf174cf692694,
  0xe49b69c19ef14ad2, 0xefbe4786384f25e3, 0x0fc19dc68b8cd5b5, 0x240ca1cc77ac9c65,
  0x2de92c6f592b0275, 0x4a7484aa6ea6e483, 0x5cb0a9dcbd41fbd4, 0x76f988da831153b5,
  0x983e5152ee66dfab, 0xa831c66d2db43210, 0xb00327c898fb213f, 0xbf597fc7beef0ee4,
  0xc6e00bf33da88fc2, 0xd5a79147930aa725, 0x06ca6351e003826f, 0x142929670a0e6e70,
  0x27b70a8546d22ffc, 0x2e1b21385c26c926, 0x4d2c6dfc5ac42aed, 0x53380d139d95b3df,
  0x650a73548baf63de, 0x766a0abb3c77b2a8, 0x81c2c92e47edaee6, 0x92722c851482353b,
  0xa2bfe8a14cf10364, 0xa81a664bbc423001, 0xc24b8b70d0f89791, 0xc76c51a30654be30,
  0xd192e819d6ef5218, 0xd69906245565a910, 0xf40e35855771202a, 0x106aa07032bbd1b8,
  0x19a4c116b8d2d0c8, 0x1e376c085141ab53, 0x2748774cdf8eeb99, 0x34b0bcb5e19b48a8,
  0x391c0cb3c5c95a63, 0x4ed8aa4ae3418acb, 0x5b9cca4f7763e373, 0x682e6ff3d6b2b8a3,
  0x748f82ee5defb2fc, 0x78a5636f43172f60, 0x84c87814a1f0ab72, 0x8cc702081a6439ec,
  0x90befffa23631e28, 0xa4506cebde82bde9, 0xbef9a3f7b2c67915, 0xc67178f2e372532b,
  0xca273eceea26619c, 0xd186b8c721c0c207, 0xeada7dd6cde0eb1e, 0xf57d4f7fee6ed178,
  0x06f067aa72176fba, 0x0a637dc5a2c898a6, 0x113f9804bef90dae, 0x1b710b35131c471b,
  0x28db77f523047d84, 0x32caab7b40c72493, 0x3c9ebe0a15c9bebc, 0x431d67c49c100d4c,
  0x4cc5d4becb3e42b6, 0x597f299cfc657e2a, 0x5fcb6fab3ad6faec, 0x6c44198c4a475817]

/-- Rotates a word to the right. -/
def rotate (word amount : UInt64) : UInt64 :=
  (word >>> amount) ||| (word <<< (64 - amount))

/-- The mixing of the first chaining word. -/
def bigSigma0 (x : UInt64) : UInt64 :=
  rotate x 28 ^^^ rotate x 34 ^^^ rotate x 39

/-- The mixing of the fifth chaining word. -/
def bigSigma1 (x : UInt64) : UInt64 :=
  rotate x 14 ^^^ rotate x 18 ^^^ rotate x 41

/-- The mixing of the schedule word fifteen places back. -/
def smallSigma0 (x : UInt64) : UInt64 :=
  rotate x 1 ^^^ rotate x 8 ^^^ (x >>> 7)

/-- The mixing of the schedule word two places back. -/
def smallSigma1 (x : UInt64) : UInt64 :=
  rotate x 19 ^^^ rotate x 61 ^^^ (x >>> 6)

/-- Chooses between two words bit by bit. -/
def choose (x y z : UInt64) : UInt64 :=
  (x &&& y) ^^^ ((~~~x) &&& z)

def majority (x y z : UInt64) : UInt64 :=
  (x &&& y) ^^^ (x &&& z) ^^^ (y &&& z)

/-- One round, with its constant and its schedule word. -/
def round (s : State) (constant word : UInt64) : State :=
  let first := s.h + bigSigma1 s.e + choose s.e s.f s.g + constant + word
  let second := bigSigma0 s.a + majority s.a s.b s.c
  { a := first + second, b := s.a, c := s.b, d := s.c
    e := s.d + first, f := s.e, g := s.f, h := s.g }

/-- The schedule words from a given place on, from a window of the sixteen before it. -/
def extend : Nat → List UInt64 → List UInt64
  | 0, _ => []
  | more + 1, window =>
    let word := smallSigma1 (window.getD 14 0) + window.getD 9 0 +
      smallSigma0 (window.getD 1 0) + window.getD 0 0
    word :: extend more (window.drop 1 ++ [word])

/-- The sixteen words of a block. -/
def words : Nat → Bytes → List UInt64
  | 0, _ => []
  | more + 1, bytes =>
    UInt64.ofNat (BigEndian.decode (bytes.take 8)) :: words more (bytes.drop 8)

/-- The eighty schedule words of a block. -/
def schedule (block : Bytes) : List UInt64 :=
  let start := words 16 block
  start ++ extend 64 start

def add (s t : State) : State where
  a := s.a + t.a
  b := s.b + t.b
  c := s.c + t.c
  d := s.d + t.d
  e := s.e + t.e
  f := s.f + t.f
  g := s.g + t.g
  h := s.h + t.h

/-- Mixes a block into the state. -/
def compress (s : State) (block : Bytes) : State :=
  add s ((constants.zip (schedule block)).foldl (fun t kw => round t kw.1 kw.2) s)

/-- Mixes `count` blocks into the state. -/
def absorb : Nat → State → Bytes → State
  | 0, s, _ => s
  | count + 1, s, bytes => absorb count (compress s (bytes.take 128)) (bytes.drop 128)

/-- The message, a one bit, zeros up to the last sixteen bytes of a block, and the length of the
message in bits. -/
def pad (message : Bytes) : Bytes :=
  let zeros := (239 - message.length % 128) % 128
  message ++ (0x80 :: List.replicate zeros 0) ++ BigEndian.encode 16 (8 * message.length)

theorem length_pad_mod (message : Bytes) : (pad message).length % 128 = 0 := by
  simp only [pad, List.length_append, List.length_cons, List.length_replicate,
    BigEndian.length_encode]
  omega

/-- The first six words of the state. -/
def output (s : State) : Block 48 :=
  let word (x : UInt64) := BigEndian.encode 8 x.toNat
  ⟨word s.a ++ word s.b ++ word s.c ++ word s.d ++ word s.e ++ word s.f, by simp [word]⟩

def digest (message : Bytes) : Block 48 :=
  let padded := pad message
  output (absorb (padded.length / 128) initial padded)

end Sha384

end SnpGuest
