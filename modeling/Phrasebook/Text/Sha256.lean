/-!
# SHA-256

The hash function that turns signatures into keys, and the hexadecimal text of
a hash.
-/

namespace Phrasebook.Text.Sha256

/-- The fractional parts of the cube roots of the first sixty-four primes. -/
def roundConstants : List UInt32 :=
  [0x428a2f98, 0x71374491, 0xb5c0fbcf, 0xe9b5dba5, 0x3956c25b, 0x59f111f1, 0x923f82a4,
    0xab1c5ed5, 0xd807aa98, 0x12835b01, 0x243185be, 0x550c7dc3, 0x72be5d74, 0x80deb1fe,
    0x9bdc06a7, 0xc19bf174, 0xe49b69c1, 0xefbe4786, 0x0fc19dc6, 0x240ca1cc, 0x2de92c6f,
    0x4a7484aa, 0x5cb0a9dc, 0x76f988da, 0x983e5152, 0xa831c66d, 0xb00327c8, 0xbf597fc7,
    0xc6e00bf3, 0xd5a79147, 0x06ca6351, 0x14292967, 0x27b70a85, 0x2e1b2138, 0x4d2c6dfc,
    0x53380d13, 0x650a7354, 0x766a0abb, 0x81c2c92e, 0x92722c85, 0xa2bfe8a1, 0xa81a664b,
    0xc24b8b70, 0xc76c51a3, 0xd192e819, 0xd6990624, 0xf40e3585, 0x106aa070, 0x19a4c116,
    0x1e376c08, 0x2748774c, 0x34b0bcb5, 0x391c0cb3, 0x4ed8aa4a, 0x5b9cca4f, 0x682e6ff3,
    0x748f82ee, 0x78a5636f, 0x84c87814, 0x8cc70208, 0x90befffa, 0xa4506ceb, 0xbef9a3f7,
    0xc67178f2]

/-- The eight words that a hash consists of. -/
structure Digest where
  a : UInt32
  b : UInt32
  c : UInt32
  d : UInt32
  e : UInt32
  f : UInt32
  g : UInt32
  h : UInt32

/-- The fractional parts of the square roots of the first eight primes. -/
def initial : Digest :=
  ⟨0x6a09e667, 0xbb67ae85, 0x3c6ef372, 0xa54ff53a, 0x510e527f, 0x9b05688c, 0x1f83d9ab,
    0x5be0cd19⟩

def rotateRight (word amount : UInt32) : UInt32 :=
  (word >>> amount) ||| (word <<< (32 - amount))

/-- The bytes of a number, most significant first. -/
def bigEndian (count number : Nat) : List UInt8 :=
  (List.range count).reverse.map fun index => (number / Nat.pow 256 index % 256).toUInt8

/-- A message with its padding: a one bit, zeros, and its length in bits. -/
def pad (message : List UInt8) : List UInt8 :=
  let length := message.length
  message ++ 0x80 :: List.replicate ((119 - length % 64) % 64) 0 ++ bigEndian 8 (8 * length)

/-- The words of a block, as long as there are bytes for them. -/
def words : List UInt8 → List UInt32
  | a :: b :: c :: d :: bytes =>
    ((a.toUInt32 <<< 24) ||| (b.toUInt32 <<< 16) ||| (c.toUInt32 <<< 8) ||| d.toUInt32) ::
      words bytes
  | _ => []

/-- The words of the rounds, given the last sixteen of them, the newest first. -/
def schedule : Nat → List UInt32 → List UInt32
  | 0, recent => recent
  | count + 1, recent =>
    let word := fun (back : Nat) => recent[back - 1]?.getD 0
    let old := word 15
    let new := word 2
    let s0 := rotateRight old 7 ^^^ rotateRight old 18 ^^^ (old >>> 3)
    let s1 := rotateRight new 17 ^^^ rotateRight new 19 ^^^ (new >>> 10)
    schedule count ((word 16 + s0 + word 7 + s1) :: recent)

def round (digest : Digest) (input : UInt32 × UInt32) : Digest :=
  let ⟨a, b, c, d, e, f, g, h⟩ := digest
  let s1 := rotateRight e 6 ^^^ rotateRight e 11 ^^^ rotateRight e 25
  let choice := (e &&& f) ^^^ ((~~~e) &&& g)
  let first := h + s1 + choice + input.1 + input.2
  let s0 := rotateRight a 2 ^^^ rotateRight a 13 ^^^ rotateRight a 22
  let majority := (a &&& b) ^^^ (a &&& c) ^^^ (b &&& c)
  ⟨first + (s0 + majority), a, b, c, d + first, e, f, g⟩

/-- Take one block of sixteen words into the hash. -/
def absorb (digest : Digest) (block : List UInt32) : Digest :=
  let rounds := (schedule 48 block.reverse).reverse
  let last := (roundConstants.zip rounds).foldl round digest
  ⟨digest.a + last.a, digest.b + last.b, digest.c + last.c, digest.d + last.d,
    digest.e + last.e, digest.f + last.f, digest.g + last.g, digest.h + last.h⟩

/-- Take as many blocks as the message has into the hash. -/
def absorbAll : Nat → Digest → List UInt32 → Digest
  | 0, digest, _ => digest
  | count + 1, digest, message =>
    absorbAll count (absorb digest (message.take 16)) (message.drop 16)

def hash (message : List UInt8) : Digest :=
  let padded := words (pad message)
  absorbAll (padded.length / 16) initial padded

def hexDigit (digit : Nat) : Char :=
  if digit < 10 then Char.ofNat (0x30 + digit) else Char.ofNat (0x57 + digit)

/-- The lowest digits of a number in hexadecimal, as many as asked for. -/
def hexText (count number : Nat) : List Char :=
  (List.range count).reverse.map fun index => hexDigit (number / Nat.pow 16 index % 16)

/-- The hexadecimal text of a hash. -/
def Digest.hex (digest : Digest) : String :=
  String.ofList ([digest.a, digest.b, digest.c, digest.d, digest.e, digest.f, digest.g,
    digest.h].flatMap fun word => hexText 8 word.toNat)

end Phrasebook.Text.Sha256
