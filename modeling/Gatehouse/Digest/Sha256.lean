/-!
# SHA-256

The hash function of FIPS 180-4 on byte lists, and the keyed digest HMAC built
on it.
-/

set_option autoImplicit false

namespace Gatehouse.Digest

structure Chain where
  a : UInt32
  b : UInt32
  c : UInt32
  d : UInt32
  e : UInt32
  f : UInt32
  g : UInt32
  h : UInt32
  deriving DecidableEq, Repr

namespace Chain

def start : Chain :=
  ⟨0x6a09e667, 0xbb67ae85, 0x3c6ef372, 0xa54ff53a, 0x510e527f, 0x9b05688c, 0x1f83d9ab, 0x5be0cd19⟩

def add (x y : Chain) : Chain :=
  ⟨x.a + y.a, x.b + y.b, x.c + y.c, x.d + y.d, x.e + y.e, x.f + y.f, x.g + y.g, x.h + y.h⟩

end Chain

def roundConstants : List UInt32 :=
  [0x428a2f98, 0x71374491, 0xb5c0fbcf, 0xe9b5dba5, 0x3956c25b, 0x59f111f1, 0x923f82a4, 0xab1c5ed5,
   0xd807aa98, 0x12835b01, 0x243185be, 0x550c7dc3, 0x72be5d74, 0x80deb1fe, 0x9bdc06a7, 0xc19bf174,
   0xe49b69c1, 0xefbe4786, 0x0fc19dc6, 0x240ca1cc, 0x2de92c6f, 0x4a7484aa, 0x5cb0a9dc, 0x76f988da,
   0x983e5152, 0xa831c66d, 0xb00327c8, 0xbf597fc7, 0xc6e00bf3, 0xd5a79147, 0x06ca6351, 0x14292967,
   0x27b70a85, 0x2e1b2138, 0x4d2c6dfc, 0x53380d13, 0x650a7354, 0x766a0abb, 0x81c2c92e, 0x92722c85,
   0xa2bfe8a1, 0xa81a664b, 0xc24b8b70, 0xc76c51a3, 0xd192e819, 0xd6990624, 0xf40e3585, 0x106aa070,
   0x19a4c116, 0x1e376c08, 0x2748774c, 0x34b0bcb5, 0x391c0cb3, 0x4ed8aa4a, 0x5b9cca4f, 0x682e6ff3,
   0x748f82ee, 0x78a5636f, 0x84c87814, 0x8cc70208, 0x90befffa, 0xa4506ceb, 0xbef9a3f7, 0xc67178f2]

def rotateRight32 (word amount : UInt32) : UInt32 :=
  (word >>> amount) ||| (word <<< (32 - amount))

/-- The next word of the schedule, from the sixteen before it. -/
def nextWord (w0 w1 w9 w14 : UInt32) : UInt32 :=
  let s0 := rotateRight32 w1 7 ^^^ rotateRight32 w1 18 ^^^ (w1 >>> 3)
  let s1 := rotateRight32 w14 17 ^^^ rotateRight32 w14 19 ^^^ (w14 >>> 10)
  w0 + s0 + w9 + s1

/-- One round, with its constant and schedule word already added up. -/
def round (chain : Chain) (added : UInt32) : Chain :=
  let s1 := rotateRight32 chain.e 6 ^^^ rotateRight32 chain.e 11 ^^^ rotateRight32 chain.e 25
  let choice := (chain.e &&& chain.f) ^^^ ((~~~ chain.e) &&& chain.g)
  let t1 := chain.h + s1 + choice + added
  let s0 := rotateRight32 chain.a 2 ^^^ rotateRight32 chain.a 13 ^^^ rotateRight32 chain.a 22
  let majority := (chain.a &&& chain.b) ^^^ (chain.a &&& chain.c) ^^^ (chain.b &&& chain.c)
  ⟨t1 + s0 + majority, chain.a, chain.b, chain.c, chain.d + t1, chain.e, chain.f, chain.g⟩

/-- Runs the rounds over a sliding window of sixteen schedule words. -/
def rounds : List UInt32 → List UInt32 → Chain → Chain
  | constant :: constants,
    [w0, w1, w2, w3, w4, w5, w6, w7, w8, w9, w10, w11, w12, w13, w14, w15], chain =>
    rounds constants
      [w1, w2, w3, w4, w5, w6, w7, w8, w9, w10, w11, w12, w13, w14, w15, nextWord w0 w1 w9 w14]
      (round chain (constant + w0))
  | _, _, chain => chain

/-- Big-endian words of a byte list; up to three bytes left over at the end are dropped. -/
def bigEndianWords : List UInt8 → List UInt32
  | a :: b :: c :: d :: rest =>
    ((a.toUInt32 <<< 24) ||| (b.toUInt32 <<< 16) ||| (c.toUInt32 <<< 8) ||| d.toUInt32) ::
      bigEndianWords rest
  | _ => []

def bigEndianBytes (word : UInt32) : List UInt8 :=
  [(word >>> 24).toUInt8, (word >>> 16).toUInt8, (word >>> 8).toUInt8, word.toUInt8]

def absorb (chain : Chain) : List UInt32 → Chain
  | w0 :: w1 :: w2 :: w3 :: w4 :: w5 :: w6 :: w7 :: w8 :: w9 :: w10 :: w11 :: w12 :: w13 ::
      w14 :: w15 :: rest =>
    absorb
      (chain.add (rounds roundConstants
        [w0, w1, w2, w3, w4, w5, w6, w7, w8, w9, w10, w11, w12, w13, w14, w15] chain)) rest
  | _ => chain

/-- The closing bit, zeros up to eight bytes before a block's end, and the length in bits. -/
def sha256Padding (length : Nat) : List UInt8 :=
  let bits := length * 8
  0x80 :: List.replicate ((119 - length % 64) % 64) 0 ++
    (List.range 8).map fun i => UInt8.ofNat (bits / Nat.pow 256 (7 - i))

def sha256 (data : List UInt8) : List UInt8 :=
  let last := absorb Chain.start (bigEndianWords (data ++ sha256Padding data.length))
  [last.a, last.b, last.c, last.d, last.e, last.f, last.g, last.h].flatMap bigEndianBytes

/-- A key filled up with zeros to one block; a longer key is hashed first. -/
def blockKey (key : List UInt8) : List UInt8 :=
  let short := if key.length > 64 then sha256 key else key
  short ++ List.replicate (64 - short.length) 0

/-- HMAC-SHA256 of `data` under `key`. -/
def hmacSha256 (key data : List UInt8) : List UInt8 :=
  let block := blockKey key
  sha256 (block.map (· ^^^ 0x5c) ++ sha256 (block.map (· ^^^ 0x36) ++ data))

end Gatehouse.Digest
