/-!
# BLAKE2b

The hash function of RFC 7693 without a key, with digests of 1 to 64 bytes.  Its
working state is a square of sixteen words; a round stirs the columns of the
square and then its diagonals.
-/

set_option autoImplicit false

namespace Gatehouse.Digest

def rotateRight64 (word amount : UInt64) : UInt64 :=
  (word >>> amount) ||| (word <<< (64 - amount))

structure Quad where
  a : UInt64
  b : UInt64
  c : UInt64
  d : UInt64

structure Square where
  (a0 a1 a2 a3 : UInt64)
  (b0 b1 b2 b3 : UInt64)
  (c0 c1 c2 c3 : UInt64)
  (d0 d1 d2 d3 : UInt64)
  deriving DecidableEq, Repr

namespace Square

def zero : Square :=
  ⟨0, 0, 0, 0, 0, 0, 0, 0, 0, 0, 0, 0, 0, 0, 0, 0⟩

instance : Inhabited Square := ⟨zero⟩

/-- Stirs the four columns and then the four diagonals; `stir` is told which of the eight it is. -/
@[inline] def round (stir : Nat → UInt64 → UInt64 → UInt64 → UInt64 → Quad) (s : Square) :
    Square :=
  let p := stir 0 s.a0 s.b0 s.c0 s.d0
  let q := stir 1 s.a1 s.b1 s.c1 s.d1
  let r := stir 2 s.a2 s.b2 s.c2 s.d2
  let t := stir 3 s.a3 s.b3 s.c3 s.d3
  let u := stir 4 p.a q.b r.c t.d
  let v := stir 5 q.a r.b t.c p.d
  let w := stir 6 r.a t.b p.c q.d
  let x := stir 7 t.a p.b q.c r.d
  ⟨u.a, v.a, w.a, x.a, x.b, u.b, v.b, w.b, w.c, x.c, u.c, v.c, v.d, w.d, x.d, u.d⟩

/-- Word by word, the bits in which two squares differ. -/
def xor (x y : Square) : Square :=
  ⟨x.a0 ^^^ y.a0, x.a1 ^^^ y.a1, x.a2 ^^^ y.a2, x.a3 ^^^ y.a3,
    x.b0 ^^^ y.b0, x.b1 ^^^ y.b1, x.b2 ^^^ y.b2, x.b3 ^^^ y.b3,
    x.c0 ^^^ y.c0, x.c1 ^^^ y.c1, x.c2 ^^^ y.c2, x.c3 ^^^ y.c3,
    x.d0 ^^^ y.d0, x.d1 ^^^ y.d1, x.d2 ^^^ y.d2, x.d3 ^^^ y.d3⟩

def words (s : Square) : List UInt64 :=
  [s.a0, s.a1, s.a2, s.a3, s.b0, s.b1, s.b2, s.b3, s.c0, s.c1, s.c2, s.c3, s.d0, s.d1, s.d2, s.d3]

def ofWords : List UInt64 → Square
  | [a0, a1, a2, a3, b0, b1, b2, b3, c0, c1, c2, c3, d0, d1, d2, d3] =>
    ⟨a0, a1, a2, a3, b0, b1, b2, b3, c0, c1, c2, c3, d0, d1, d2, d3⟩
  | _ => zero

end Square

/-! ## Words and bytes -/

/-- Little-endian bytes of a word. -/
def littleEndian (word : UInt64) : List UInt8 :=
  (List.range 8).map fun i => (word >>> (8 * UInt64.ofNat i)).toUInt8

/-- The word of little-endian bytes. -/
def ofLittleEndian (data : List UInt8) : UInt64 :=
  data.foldr (fun byte word => (word <<< 8) ||| byte.toUInt64) 0

/-- Little-endian words of a byte list, as many as asked for; missing bytes are zero. -/
def littleEndianWords : Nat → List UInt8 → List UInt64
  | 0, _ => []
  | count + 1, data => ofLittleEndian (data.take 8) :: littleEndianWords count (data.drop 8)

namespace Blake2b

def start : List UInt64 :=
  [0x6a09e667f3bcc908, 0xbb67ae8584caa73b, 0x3c6ef372fe94f82b, 0xa54ff53a5f1d36f1,
    0x510e527fade682d1, 0x9b05688c2b3e6c1f, 0x1f83d9abfb41bd6b, 0x5be0cd19137e2179]

def schedule : List (List Nat) :=
  [[0, 1, 2, 3, 4, 5, 6, 7, 8, 9, 10, 11, 12, 13, 14, 15],
    [14, 10, 4, 8, 9, 15, 13, 6, 1, 12, 0, 2, 11, 7, 5, 3],
    [11, 8, 12, 0, 5, 2, 15, 13, 10, 14, 3, 6, 7, 1, 9, 4],
    [7, 9, 3, 1, 13, 12, 11, 14, 2, 6, 5, 10, 4, 0, 15, 8],
    [9, 0, 5, 7, 2, 4, 10, 15, 14, 1, 11, 12, 6, 8, 3, 13],
    [2, 12, 6, 10, 0, 11, 8, 3, 4, 13, 7, 5, 15, 14, 1, 9],
    [12, 5, 1, 15, 14, 13, 4, 10, 0, 7, 6, 3, 9, 2, 8, 11],
    [13, 11, 7, 14, 12, 1, 3, 9, 5, 0, 15, 4, 8, 6, 2, 10],
    [6, 15, 14, 9, 11, 3, 0, 8, 12, 2, 13, 7, 1, 4, 10, 5],
    [10, 2, 8, 4, 7, 6, 1, 5, 15, 11, 9, 14, 3, 12, 13, 0],
    [0, 1, 2, 3, 4, 5, 6, 7, 8, 9, 10, 11, 12, 13, 14, 15],
    [14, 10, 4, 8, 9, 15, 13, 6, 1, 12, 0, 2, 11, 7, 5, 3]]

def stir (x y a b c d : UInt64) : Quad :=
  let a := a + b + x
  let d := rotateRight64 (d ^^^ a) 32
  let c := c + d
  let b := rotateRight64 (b ^^^ c) 24
  let a := a + b + y
  let d := rotateRight64 (d ^^^ a) 16
  let c := c + d
  let b := rotateRight64 (b ^^^ c) 63
  ⟨a, b, c, d⟩

def round (block : List UInt64) (square : Square) (order : List Nat) : Square :=
  let word := fun i => block.getD (order.getD i 0) 0
  square.round fun i => stir (word (2 * i)) (word (2 * i + 1))

/-- The square before the first round: the chain, the start words, the number of bytes so far, and
whether the block is the last. -/
def working (chain : List UInt64) (count : Nat) (last : Bool) : Square :=
  let mark : UInt64 := if last then 0xFFFFFFFFFFFFFFFF else 0
  let square := Square.ofWords (chain ++ start)
  { square with
    d0 := square.d0 ^^^ UInt64.ofNat count
    d1 := square.d1 ^^^ UInt64.ofNat (count / 18446744073709551616)
    d2 := square.d2 ^^^ mark }

def absorb (chain : List UInt64) (block : List UInt8) (count : Nat) (last : Bool) :
    List UInt64 :=
  let words := littleEndianWords 16 block
  let final := (schedule.foldl (round words) (working chain count last)).words
  List.zipWith (· ^^^ ·) chain (List.zipWith (· ^^^ ·) (final.take 8) (final.drop 8))

/-- Absorbs all blocks; the last one is absorbed even if it is empty, and no other one is. -/
def absorbAll (chain : List UInt64) (count : Nat) (data : List UInt8) : List UInt64 :=
  if 128 < data.length then
    absorbAll (absorb chain (data.take 128) (count + 128) false) (count + 128) (data.drop 128)
  else absorb chain data (count + data.length) true
termination_by data.length
decreasing_by simp only [List.length_drop]; omega

def startFor (length : Nat) : List UInt64 :=
  match start with
  | first :: rest => (first ^^^ 0x01010000 ^^^ UInt64.ofNat length) :: rest
  | [] => []

end Blake2b

/-- The digest of a byte list, of 1 to 64 bytes. -/
def blake2b (length : Nat) (data : List UInt8) : List UInt8 :=
  ((Blake2b.absorbAll (Blake2b.startFor length) 0 data).flatMap littleEndian).take length

end Gatehouse.Digest
