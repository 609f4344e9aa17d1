import GlBridge.Text.Utf8

/-!
# SHA-256

The digest that names cached programs.  A message is padded to whole blocks of sixteen words; each
block is expanded to sixty-four words, one for each round, and every round mixes one of them into
eight working words, which are added to the state after the block.

* `Sha256.pad`, `Sha256.schedule`, `Sha256.compress` — the three steps;
* `Digest.ofBytes`, `Digest.ofParts` — the digest of a message, given whole or in parts;
* `Digest.toHex` — its sixty-four hexadecimal digits.
-/

namespace GlBridge

namespace Sha256

/-- The first 32 bits of the fractional parts of the cube roots of the first 64 primes. -/
def roundConstants : List UInt32 :=
  [0x428a2f98, 0x71374491, 0xb5c0fbcf, 0xe9b5dba5, 0x3956c25b, 0x59f111f1, 0x923f82a4, 0xab1c5ed5,
    0xd807aa98, 0x12835b01, 0x243185be, 0x550c7dc3, 0x72be5d74, 0x80deb1fe, 0x9bdc06a7, 0xc19bf174,
    0xe49b69c1, 0xefbe4786, 0x0fc19dc6, 0x240ca1cc, 0x2de92c6f, 0x4a7484aa, 0x5cb0a9dc, 0x76f988da,
    0x983e5152, 0xa831c66d, 0xb00327c8, 0xbf597fc7, 0xc6e00bf3, 0xd5a79147, 0x06ca6351, 0x14292967,
    0x27b70a85, 0x2e1b2138, 0x4d2c6dfc, 0x53380d13, 0x650a7354, 0x766a0abb, 0x81c2c92e, 0x92722c85,
    0xa2bfe8a1, 0xa81a664b, 0xc24b8b70, 0xc76c51a3, 0xd192e819, 0xd6990624, 0xf40e3585, 0x106aa070,
    0x19a4c116, 0x1e376c08, 0x2748774c, 0x34b0bcb5, 0x391c0cb3, 0x4ed8aa4a, 0x5b9cca4f, 0x682e6ff3,
    0x748f82ee, 0x78a5636f, 0x84c87814, 0x8cc70208, 0x90befffa, 0xa4506ceb, 0xbef9a3f7, 0xc67178f2]

/-- The eight words of the state. -/
structure State where
  a : UInt32
  b : UInt32
  c : UInt32
  d : UInt32
  e : UInt32
  f : UInt32
  g : UInt32
  h : UInt32
deriving DecidableEq, Repr

namespace State

/-- The first 32 bits of the fractional parts of the square roots of the first 8 primes. -/
def initial : State :=
  ⟨0x6a09e667, 0xbb67ae85, 0x3c6ef372, 0xa54ff53a, 0x510e527f, 0x9b05688c, 0x1f83d9ab, 0x5be0cd19⟩

/-- The sum of two states, word by word. -/
def add (x y : State) : State :=
  ⟨x.a + y.a, x.b + y.b, x.c + y.c, x.d + y.d, x.e + y.e, x.f + y.f, x.g + y.g, x.h + y.h⟩

/-- The words of a state in order. -/
def words (s : State) : List UInt32 := [s.a, s.b, s.c, s.d, s.e, s.f, s.g, s.h]

end State

/-- Rotation to the right. -/
def rotate (x : UInt32) (n : UInt32) : UInt32 := (x >>> n) ||| (x <<< (32 - n))

/-- The bytes of a word, the high one first. -/
def wordBytes (word : UInt32) : Bytes :=
  [(word >>> 24).toUInt8, (word >>> 16).toUInt8, (word >>> 8).toUInt8, word.toUInt8]

/-- A message followed by a single set bit, zeros, and its length in bits, which make up whole
blocks of 64 bytes. -/
def pad (message : Bytes) : Bytes :=
  let bits := 8 * message.length
  let zeros := (119 - message.length % 64) % 64
  message ++ 0x80 :: List.replicate zeros 0
    ++ wordBytes (bits / 4294967296).toUInt32 ++ wordBytes bits.toUInt32

/-- The words that bytes make up, the high byte first. -/
def wordsOf : Bytes → List UInt32
  | a :: b :: c :: d :: rest =>
    (a.toUInt32 <<< 24 ||| b.toUInt32 <<< 16 ||| c.toUInt32 <<< 8 ||| d.toUInt32) :: wordsOf rest
  | _ => []

/-- Sixteen words expanded by `rounds` more.  The list is held with its last word first. -/
def expand : Nat → List UInt32 → List UInt32
  | 0, words => words
  | rounds + 1, words =>
    let at' (i : Nat) : UInt32 := words.getD (i - 1) 0
    let w15 := at' 15
    let w2 := at' 2
    let s0 := rotate w15 7 ^^^ rotate w15 18 ^^^ (w15 >>> 3)
    let s1 := rotate w2 17 ^^^ rotate w2 19 ^^^ (w2 >>> 10)
    expand rounds ((at' 16 + s0 + at' 7 + s1) :: words)

/-- The sixty-four words of a block. -/
def schedule (block : List UInt32) : List UInt32 := (expand 48 block.reverse).reverse

/-- One round. -/
def step (s : State) (constant word : UInt32) : State :=
  let s1 := rotate s.e 6 ^^^ rotate s.e 11 ^^^ rotate s.e 25
  let choice := (s.e &&& s.f) ^^^ (~~~s.e &&& s.g)
  let t1 := s.h + s1 + choice + constant + word
  let s0 := rotate s.a 2 ^^^ rotate s.a 13 ^^^ rotate s.a 22
  let majority := (s.a &&& s.b) ^^^ (s.a &&& s.c) ^^^ (s.b &&& s.c)
  ⟨t1 + (s0 + majority), s.a, s.b, s.c, s.d + t1, s.e, s.f, s.g⟩

/-- Mixing a block into a state. -/
def compress (s : State) (block : List UInt32) : State :=
  s.add ((roundConstants.zip (schedule block)).foldl (fun s (k, w) => step s k w) s)

/-- Mixing whole blocks into a state. -/
def absorb (s : State) (words : List UInt32) : State :=
  if words.length < 16 then s else absorb (compress s (words.take 16)) (words.drop 16)
termination_by words.length
decreasing_by simp only [List.length_drop]; omega

end Sha256

/-- A digest of 256 bits. -/
structure Digest where
  bytes : Bytes
  length_bytes : bytes.length = 32
deriving DecidableEq, Repr

namespace Digest

/-- The digest that the words of a state make up. -/
def ofState (s : Sha256.State) : Digest := ⟨s.words.flatMap Sha256.wordBytes, rfl⟩

/-- The digest of a message. -/
def ofBytes (message : Bytes) : Digest :=
  ofState (Sha256.absorb .initial (Sha256.wordsOf (Sha256.pad message)))

/-- The digest of the concatenation of parts. -/
def ofParts (parts : List Bytes) : Digest := ofBytes parts.flatten

/-- Two hexadecimal digits for every byte. -/
def toHex (digest : Digest) : Text := digest.bytes.toHex

/-- The digest as it is shown in messages for developers. -/
def describe (digest : Digest) : Text := "ContentHash(".toList ++ digest.toHex ++ ")".toList

end Digest
end GlBridge
