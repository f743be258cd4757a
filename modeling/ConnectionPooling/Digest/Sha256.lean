/-
# SHA-256

The 256-bit secure hash of a byte string: the message is padded to whole blocks
of 64 bytes, each block is expanded to 64 words, and 64 rounds fold the words
into eight running words, which are the digest at the end. All arithmetic is on
32-bit words and wraps.
-/

namespace ConnectionPooling.Digest.Sha256

/-- The word that a round adds to its input, one for each of the 64 rounds: the
first 32 bits after the point of the cube roots of the first 64 primes. -/
def roundWords : List UInt32 :=
  [0x428a2f98, 0x71374491, 0xb5c0fbcf, 0xe9b5dba5, 0x3956c25b, 0x59f111f1, 0x923f82a4, 0xab1c5ed5,
   0xd807aa98, 0x12835b01, 0x243185be, 0x550c7dc3, 0x72be5d74, 0x80deb1fe, 0x9bdc06a7, 0xc19bf174,
   0xe49b69c1, 0xefbe4786, 0x0fc19dc6, 0x240ca1cc, 0x2de92c6f, 0x4a7484aa, 0x5cb0a9dc, 0x76f988da,
   0x983e5152, 0xa831c66d, 0xb00327c8, 0xbf597fc7, 0xc6e00bf3, 0xd5a79147, 0x06ca6351, 0x14292967,
   0x27b70a85, 0x2e1b2138, 0x4d2c6dfc, 0x53380d13, 0x650a7354, 0x766a0abb, 0x81c2c92e, 0x92722c85,
   0xa2bfe8a1, 0xa81a664b, 0xc24b8b70, 0xc76c51a3, 0xd192e819, 0xd6990624, 0xf40e3585, 0x106aa070,
   0x19a4c116, 0x1e376c08, 0x2748774c, 0x34b0bcb5, 0x391c0cb3, 0x4ed8aa4a, 0x5b9cca4f, 0x682e6ff3,
   0x748f82ee, 0x78a5636f, 0x84c87814, 0x8cc70208, 0x90befffa, 0xa4506ceb, 0xbef9a3f7, 0xc67178f2]

/-- The eight running words of the hash. -/
structure State where
  /-- The first running word. -/
  a : UInt32
  /-- The second running word. -/
  b : UInt32
  /-- The third running word. -/
  c : UInt32
  /-- The fourth running word. -/
  d : UInt32
  /-- The fifth running word. -/
  e : UInt32
  /-- The sixth running word. -/
  f : UInt32
  /-- The seventh running word. -/
  g : UInt32
  /-- The eighth running word. -/
  h : UInt32

/-- The running words before the first block: the first 32 bits after the point
of the square roots of the first eight primes. -/
def initial : State :=
  ⟨0x6a09e667, 0xbb67ae85, 0x3c6ef372, 0xa54ff53a,
   0x510e527f, 0x9b05688c, 0x1f83d9ab, 0x5be0cd19⟩

/-- A word turned right by `count` bits. -/
def rotateRight (x : UInt32) (count : UInt32) : UInt32 :=
  (x >>> count) ||| (x <<< (32 - count))

/-- The first sixteen words of a block, read from its bytes with the most
significant byte first. -/
def wordsOfBytes : List UInt8 → List UInt32
  | p :: q :: r :: s :: rest =>
      ((p.toUInt32 <<< 24) ||| (q.toUInt32 <<< 16) ||| (r.toUInt32 <<< 8) ||| s.toUInt32) ::
        wordsOfBytes rest
  | _ => []

/-- The word that follows a window of sixteen words in the expansion. -/
def nextWord (window : List UInt32) : UInt32 :=
  let x := window.getD 1 0
  let y := window.getD 14 0
  let s := rotateRight x 7 ^^^ rotateRight x 18 ^^^ (x >>> 3)
  let t := rotateRight y 17 ^^^ rotateRight y 19 ^^^ (y >>> 10)
  window.getD 0 0 + s + window.getD 9 0 + t

/-- The first `count` words of the expansion that goes on from a window of
sixteen words, the words of the window included. -/
def expand : Nat → List UInt32 → List UInt32
  | 0, _ => []
  | count + 1, window =>
      window.getD 0 0 :: expand count (window.tail ++ [nextWord window])

/-- One round: the eight words move down by one place, and the two that would
be lost are mixed with the round's word and the word of the message. -/
def round (s : State) (roundWord messageWord : UInt32) : State :=
  let big := rotateRight s.e 6 ^^^ rotateRight s.e 11 ^^^ rotateRight s.e 25
  let choice := (s.e &&& s.f) ^^^ ((~~~ s.e) &&& s.g)
  let first := s.h + big + choice + roundWord + messageWord
  let small := rotateRight s.a 2 ^^^ rotateRight s.a 13 ^^^ rotateRight s.a 22
  let majority := (s.a &&& s.b) ^^^ (s.a &&& s.c) ^^^ (s.b &&& s.c)
  ⟨first + small + majority, s.a, s.b, s.c, s.d + first, s.e, s.f, s.g⟩

/-- The running words after one more block of 64 bytes. -/
def absorb (s : State) (block : List UInt8) : State :=
  let words := expand 64 (wordsOfBytes block)
  let r := (roundWords.zip words).foldl (fun r w => round r w.1 w.2) s
  ⟨s.a + r.a, s.b + r.b, s.c + r.c, s.d + r.d, s.e + r.e, s.f + r.f, s.g + r.g, s.h + r.h⟩

/-- The `count` lowest bytes of a number, the most significant one first. -/
def bytesOfNat : Nat → Nat → List UInt8
  | 0, _ => []
  | count + 1, n => bytesOfNat count (n / 256) ++ [UInt8.ofNat n]

/-- The message with a one bit, zero bits and its length in bits behind it, so
that the whole is a number of 64-byte blocks. -/
def padded (message : List UInt8) : List UInt8 :=
  message ++ 0x80 :: List.replicate ((119 - message.length % 64) % 64) 0 ++
    bytesOfNat 8 (8 * message.length)

/-- The running words after `count` blocks of `bytes`. -/
def absorbBlocks : Nat → State → List UInt8 → State
  | 0, s, _ => s
  | count + 1, s, bytes => absorbBlocks count (absorb s (bytes.take 64)) (bytes.drop 64)

/-- The digest of a message, as 32 bytes. -/
def digest (message : List UInt8) : List UInt8 :=
  let bytes := padded message
  let s := absorbBlocks (bytes.length / 64) initial bytes
  [s.a, s.b, s.c, s.d, s.e, s.f, s.g, s.h].flatMap fun word => bytesOfNat 4 word.toNat

end ConnectionPooling.Digest.Sha256
