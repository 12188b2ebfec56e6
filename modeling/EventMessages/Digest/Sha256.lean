/-!
# EventMessages.Digest.Sha256

SHA-256 on byte lists.

A message is padded to whole blocks of 64 bytes:

```
message ++ 0x80 ++ zeros ++ length in bits, as 8 bytes
```

and each block in turn is mixed into a chain of eight words. `hash` pads the whole message first.
A `Hasher` takes the message in portions of any size and keeps only the chain, the bytes of the
block that is not full yet, and the number of bytes seen.
-/

namespace EventMessages.Digest.Sha256

/-! ## Words -/

/-- Rotation to the right. -/
def rotate (x : UInt32) (n : UInt32) : UInt32 := (x >>> n) ||| (x <<< (32 - n))

/-- Mixes the word two places back into the schedule. -/
def smallSigma1 (x : UInt32) : UInt32 := rotate x 17 ^^^ rotate x 19 ^^^ (x >>> 10)

/-- Mixes the word fifteen places back into the schedule. -/
def smallSigma0 (x : UInt32) : UInt32 := rotate x 7 ^^^ rotate x 18 ^^^ (x >>> 3)

def bigSigma0 (x : UInt32) : UInt32 := rotate x 2 ^^^ rotate x 13 ^^^ rotate x 22

def bigSigma1 (x : UInt32) : UInt32 := rotate x 6 ^^^ rotate x 11 ^^^ rotate x 25

/-- Takes the bits of `y` where `x` is set and those of `z` elsewhere. -/
def choose (x y z : UInt32) : UInt32 := (x &&& y) ^^^ ((~~~x) &&& z)

/-- The bits that at least two of the three words have. -/
def majority (x y z : UInt32) : UInt32 := (x &&& y) ^^^ (x &&& z) ^^^ (y &&& z)

/-- Big-endian words of a byte list whose length is a multiple of four. -/
def wordsOfBytes : List UInt8 → List UInt32
  | a :: b :: c :: d :: rest =>
    ((a.toUInt32 <<< 24) ||| (b.toUInt32 <<< 16) ||| (c.toUInt32 <<< 8) ||| d.toUInt32)
      :: wordsOfBytes rest
  | _ => []

/-- The four bytes of a word, the most significant first. -/
def bytesOfWord (w : UInt32) : List UInt8 :=
  [(w >>> 24).toUInt8, (w >>> 16).toUInt8, (w >>> 8).toUInt8, w.toUInt8]

/-- A number as 8 big-endian bytes, modulo 2 ^ 64. -/
def bytesOfLength (n : Nat) : List UInt8 :=
  [n >>> 56, n >>> 48, n >>> 40, n >>> 32, n >>> 24, n >>> 16, n >>> 8, n].map
    UInt8.ofNat

/-! ## One block -/

/-- The round constants: the first 32 bits of the fractional parts of the cube roots of the first
64 primes. -/
def roundConstants : List UInt32 := [
  0x428a2f98, 0x71374491, 0xb5c0fbcf, 0xe9b5dba5, 0x3956c25b, 0x59f111f1, 0x923f82a4, 0xab1c5ed5,
  0xd807aa98, 0x12835b01, 0x243185be, 0x550c7dc3, 0x72be5d74, 0x80deb1fe, 0x9bdc06a7, 0xc19bf174,
  0xe49b69c1, 0xefbe4786, 0x0fc19dc6, 0x240ca1cc, 0x2de92c6f, 0x4a7484aa, 0x5cb0a9dc, 0x76f988da,
  0x983e5152, 0xa831c66d, 0xb00327c8, 0xbf597fc7, 0xc6e00bf3, 0xd5a79147, 0x06ca6351, 0x14292967,
  0x27b70a85, 0x2e1b2138, 0x4d2c6dfc, 0x53380d13, 0x650a7354, 0x766a0abb, 0x81c2c92e, 0x92722c85,
  0xa2bfe8a1, 0xa81a664b, 0xc24b8b70, 0xc76c51a3, 0xd192e819, 0xd6990624, 0xf40e3585, 0x106aa070,
  0x19a4c116, 0x1e376c08, 0x2748774c, 0x34b0bcb5, 0x391c0cb3, 0x4ed8aa4a, 0x5b9cca4f, 0x682e6ff3,
  0x748f82ee, 0x78a5636f, 0x84c87814, 0x8cc70208, 0x90befffa, 0xa4506ceb, 0xbef9a3f7, 0xc67178f2
]

/-- The chain of eight words that carries the hash from block to block. -/
structure Chain where
  a : UInt32
  b : UInt32
  c : UInt32
  d : UInt32
  e : UInt32
  f : UInt32
  g : UInt32
  h : UInt32
  deriving DecidableEq, Repr

/-- The chain before the first block. -/
def Chain.initial : Chain :=
  ⟨0x6a09e667, 0xbb67ae85, 0x3c6ef372, 0xa54ff53a, 0x510e527f, 0x9b05688c, 0x1f83d9ab, 0x5be0cd19⟩

/-- The next `n` words of the schedule, given the sixteen that start them. -/
def scheduleFrom : Nat → List UInt32 → List UInt32
  | 0, _ => []
  | _ + 1, [] => []
  | n + 1, w :: rest =>
    let next := smallSigma1 (rest.getD 13 0) + rest.getD 8 0 + smallSigma0 (rest.getD 0 0) + w
    w :: scheduleFrom n (rest ++ [next])

/-- One round: the schedule word and the round constant enter, the words move on by one place. -/
def Chain.round (s : Chain) (input : UInt32 × UInt32) : Chain :=
  let t₁ := s.h + bigSigma1 s.e + choose s.e s.f s.g + input.1 + input.2
  let t₂ := bigSigma0 s.a + majority s.a s.b s.c
  ⟨t₁ + t₂, s.a, s.b, s.c, s.d + t₁, s.e, s.f, s.g⟩

/-- The chain after a block of 64 bytes. -/
def Chain.compress (s : Chain) (block : List UInt8) : Chain :=
  let t := (roundConstants.zip (scheduleFrom 64 (wordsOfBytes block))).foldl Chain.round s
  ⟨s.a + t.a, s.b + t.b, s.c + t.c, s.d + t.d, s.e + t.e, s.f + t.f, s.g + t.g, s.h + t.h⟩

/-- The 32 bytes of a finished chain. -/
def Chain.bytes (s : Chain) : List UInt8 :=
  [s.a, s.b, s.c, s.d, s.e, s.f, s.g, s.h].flatMap bytesOfWord

theorem Chain.length_bytes (s : Chain) : s.bytes.length = 32 := rfl

/-! ## Whole messages -/

/-- Mixes the first `n` blocks of the bytes into the chain. -/
def Chain.absorb : Nat → Chain → List UInt8 → Chain
  | 0, s, _ => s
  | n + 1, s, bytes => absorb n (s.compress (bytes.take 64)) (bytes.drop 64)

/-- What follows a message of the given length: a one bit, zeros up to 8 bytes before the end of a
block, and the length in bits. -/
def padding (length : Nat) : List UInt8 :=
  0x80 :: (List.replicate ((119 - length % 64) % 64) 0 ++ bytesOfLength (length * 8))

/-- Padding fills the last block. -/
theorem dvd_add_length_padding (length : Nat) : 64 ∣ length + (padding length).length := by
  simp only [padding, bytesOfLength, List.length_cons, List.length_append, List.length_replicate,
    List.length_map, List.length_nil]
  omega

/-- The SHA-256 of a message. -/
def hash (message : List UInt8) : List UInt8 :=
  let padded := message ++ padding message.length
  (Chain.absorb (padded.length / 64) .initial padded).bytes

/-! ## Messages in portions -/

/-- A hash in the making. -/
structure Hasher where
  chain : Chain
  /-- The bytes of the last block, which is not full. -/
  partialBlock : List UInt8
  /-- The number of bytes seen. -/
  length : Nat
  deriving DecidableEq, Repr

/-- No byte seen yet. -/
def Hasher.initial : Hasher := ⟨.initial, [], 0⟩

/-- Takes the next portion of the message. -/
def Hasher.update (s : Hasher) (portion : List UInt8) : Hasher :=
  let bytes := s.partialBlock ++ portion
  let blocks := bytes.length / 64
  ⟨s.chain.absorb blocks bytes, bytes.drop (64 * blocks), s.length + portion.length⟩

/-- The hash of the bytes seen. -/
def Hasher.finish (s : Hasher) : List UInt8 :=
  let last := s.partialBlock ++ padding s.length
  (s.chain.absorb (last.length / 64) last).bytes

end EventMessages.Digest.Sha256
